/-
Lines of a script.

A line is blank, a comment alone, a call of a known operation, or rejected. Each
line is read on its own, and each can be written in a normalized form.
-/
import CityScript.Script.Arguments
import CityScript.Script.CallLine
import CityScript.Script.Catalog
import CityScript.Script.Comment
import CityScript.Script.Diagnostic

set_option autoImplicit false

namespace CityScript

/-! ## Calls -/

/-- A call with a value for every parameter of its operation, ready to be run. -/
structure Call where
  operation : String
  arguments : List Value
  written : String
  line : Nat
  deriving DecidableEq, Inhabited

/-- A call with all its parameters named. -/
def Call.render (c : Call) (s : Signature) : String :=
  Signature.renderKeywords c.operation (s.parameters.map (·.name)) c.arguments

/-! ## Lines -/

/-- What a line is. A call comes with the signature that its arguments fill. -/
inductive Line where
  | blank
  | comment (text : String)
  | call (signature : Signature) (c : Call)
  | rejected (d : Diagnostic)
  deriving DecidableEq, Inhabited

namespace Line

/-- Reads the code of a line, which is not empty and has no blanks at its ends. -/
def ofCode (catalog : Catalog) (number : Nat) (written : String) (code : List Char) : Line :=
  match CallLine.read? code with
  | none => .rejected ⟨number, .malformed written⟩
  | some parts =>
    let head := String.ofList parts.head
    match catalog.get? head with
    | none => .rejected ⟨number, .unknownOperation head⟩
    | some signature =>
      .call signature ⟨head, (Arguments.read parts.body).resolve signature, written, number⟩

/-- Reads a line. -/
def read (catalog : Catalog) (number : Nat) (raw : List Char) : Line :=
  let split := CommentSplit.of raw
  let code := Text.trim split.code
  if code = [] then
    match split.comment with
    | none => .blank
    | some text => .comment (String.ofList (Text.trim text))
  else ofCode catalog number (String.ofList (Text.trim raw)) code

/-! ## Views -/

/-- The call on a line. -/
def call? : Line → Option Call
  | .call _ c => some c
  | _ => none

/-- The problem with a line. -/
def diagnostic? : Line → Option Diagnostic
  | .rejected d => some d
  | _ => none

/-- The normalized form of a line: a call with all its parameters named, and
anything else as a remark. -/
def render : Line → String
  | .blank => "// (empty line)"
  | .comment text => "// " ++ text
  | .call signature c => c.render signature
  | .rejected d => "// ⚠ " ++ d.rejection.note

end Line

end CityScript
