/-
Diagnostics: why a line of a script is skipped.
-/

set_option autoImplicit false

namespace CityScript

/-- What is wrong with a line: it has not the form of a call, or it calls an
operation that there is not. -/
inductive Rejection where
  | malformed (line : String)
  | unknownOperation (name : String)
  deriving DecidableEq, Repr, Inhabited

namespace Rejection

/-- The name of the kind of problem, as reports write it. -/
def kind : Rejection → String
  | .malformed _ => "syntax"
  | .unknownOperation _ => "unknown_operation"

/-- The problem in words. -/
def message : Rejection → String
  | .malformed line => "cannot parse line: \"" ++ line ++ "\""
  | .unknownOperation name =>
    "unknown operation \"" ++ name ++ "\"; run `codescape ops` to list available operations"

/-- What is wrong, in short, with the part of the line that it is about. -/
def note : Rejection → String
  | .malformed line => "cannot parse: " ++ line
  | .unknownOperation name => "unknown operation: " ++ name

end Rejection

/-- A problem with one line of a script. Lines count from one. -/
structure Diagnostic where
  line : Nat
  rejection : Rejection
  deriving DecidableEq, Repr, Inhabited

namespace Diagnostic

/-- The problem in words. -/
def message (d : Diagnostic) : String := d.rejection.message

/-- The problem in words, after the number of its line. -/
def text (d : Diagnostic) : String := "line " ++ toString d.line ++ ": " ++ d.message

end Diagnostic

end CityScript
