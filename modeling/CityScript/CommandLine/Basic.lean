/-
The commands: running a script, checking one, and listing the operations.

A command loads what it needs in order (the configuration, the mask, the script)
and stops at the first problem. Its answer holds an exit code and what is written
in either output format; the quiet form writes nothing.
-/
import CityScript.CommandLine.Config
import CityScript.CommandLine.Invocation
import CityScript.Session.Report

set_option autoImplicit false

namespace CityScript

/-! ## Loading -/

/-- What a command can read: files and the standard input. -/
structure Inputs where
  files : Files
  stdin : Except ReadError String

/-- Why a command cannot begin. -/
inductive LoadError where
  | unreadable (path : String) (e : ReadError)
  | unreadableInput (e : ReadError)
  | unreadableMask (path : String) (e : ReadError)
  | invalidConfig (path : String)
  | invalidMask (path : String) (e : MaskError)
  | sizeMismatch (path : String) (maskSize gridSize : Nat)
  deriving DecidableEq, Repr, Inhabited

/-- The problem in words. -/
def LoadError.message : LoadError → String
  | .unreadable path e => "could not read '" ++ path ++ "': " ++ e.message
  | .unreadableInput e => "could not read stdin: " ++ e.message
  | .unreadableMask path e => "could not read mask '" ++ path ++ "': " ++ e.message
  | .invalidConfig path => "could not parse '" ++ path ++ "': TOML parse error"
  | .invalidMask path e => "invalid mask '" ++ path ++ "': " ++ e.message
  | .sizeMismatch path maskSize gridSize =>
    "mask '" ++ path ++ "' is " ++ toString maskSize ++ "x" ++ toString maskSize ++
      " but grid.size is " ++ toString gridSize

namespace Inputs

/-- The text of a script; a dash stands for the standard input. -/
def script (i : Inputs) (path : String) : Except LoadError String :=
  if Path.isDash path then i.stdin.mapError .unreadableInput
  else (i.files path).mapError (.unreadable path)

/-- The configuration of a file, or an empty one. -/
def config (i : Inputs) : Option String → Except LoadError Config
  | none => .ok {}
  | some path =>
    match i.files path with
    | .error e => .error (.unreadable path e)
    | .ok text =>
      match Config.ofText? text with
      | none => .error (.invalidConfig path)
      | some c => .ok (c.rebase path)

/-- The mask in a file, read as the name of the file says. -/
def maskFile (i : Inputs) (path : String) : Except LoadError Mask :=
  match i.files path with
  | .error e => .error (.unreadableMask path e)
  | .ok text =>
    (if Path.isJson path then Mask.ofJsonText text else Mask.ofText text).mapError
      (.invalidMask path)

/-- The mask of a run: that of a file if one is named, which must have the
configured size, or else a grid of land only. -/
def mask (i : Inputs) (size : Option Nat) : Option String → Except LoadError Mask
  | none => .ok (.allLand (size.getD defaultGridSize))
  | some path =>
    match i.maskFile path with
    | .error e => .error e
    | .ok m =>
      match size with
      | none => .ok m
      | some n => if n = m.size then .ok m else .error (.sizeMismatch path m.size n)

/-- The session of a run. What the command line says goes before what the
configuration says. -/
def session (i : Inputs) (configPath : Option String) (options : RunOptions) :
    Except LoadError Session := do
  let config ← i.config configPath
  let mask ← i.mask config.gridSize (options.mask <|> config.mask)
  return .ofMask mask {
    gridSize := mask.size
    searchRadius := options.radius <|> config.searchRadius
    defaultCenter := config.defaultCenter }

end Inputs

/-! ## Answers -/

/-- What a program writes. -/
structure Streams where
  stdout : String := ""
  stderr : String := ""
  deriving DecidableEq, Repr, Inhabited

/-- The answer of a command: its exit code, and what it writes in each format. -/
structure Answer where
  code : Nat
  text : Streams
  json : Streams
  deriving DecidableEq, Repr, Inhabited

namespace Answer

/-- What is written in a format, which is nothing when it is to be quiet. -/
def streams (a : Answer) (format : OutputFormat) (quiet : Bool) : Streams :=
  if quiet then {}
  else match format with
    | .text => a.text
    | .json => a.json

/-- Lines, each with its line end. -/
def unlines (lines : List String) : String := String.join (lines.map (· ++ "\n"))

/-- The answer when a command cannot begin. -/
def ofError (e : LoadError) : Answer where
  code := 1
  text := { stderr := unlines [e.message] }
  json := { stderr := unlines [(Json.object [("error", .ofString e.message)]).compact] }

/-- A warning for each problem with the lines of a script. -/
def warnings (diagnostics : List Diagnostic) : List String :=
  diagnostics.map fun d => "warning: " ++ d.text

/-- The exit code of a command that fails under a condition. -/
def codeIf (failed : Bool) : Nat := if failed then 1 else 0

/-- A result as a line of a report. -/
def resultLine (r : CallResult) : String :=
  "line " ++ toString r.call.line ++ ": " ++ (if r.isOk then "ok: " else "error: ") ++ r.text

/-- The last line of a report. -/
def summary (r : Report) : String :=
  toString r.successes ++ " of " ++ toString r.results.length ++ " call(s) succeeded, " ++
    toString r.diagnostics.length ++ " diagnostic(s)"

/-- The answer of a run: the report, with the map if there is one to show. -/
def ofReport (r : Report) (map : Option String) (strict : Bool) : Answer where
  code := codeIf (strict && !r.isClean)
  text := { stdout := unlines (warnings r.diagnostics ++ r.results.map resultLine ++ [summary r] ++
    (map.map fun text => ["", text]).getD []) }
  json := { stdout := unlines [(Json.object (r.members map)).pretty] }

/-- The answer of a check: the normalized lines, and the problems. -/
def ofProgram (p : Program) : Answer where
  code := codeIf (!p.diagnostics.isEmpty)
  text := { stdout := unlines p.normalized, stderr := unlines (warnings p.diagnostics) }
  json := { stdout := unlines [(Json.object [
    ("calls", .ofNat p.calls.length),
    ("diagnostics", .list (p.diagnostics.map Diagnostic.toJson)),
    ("normalized_code", .list (p.normalized.map Json.ofString))]).pretty] }

/-- An operation of the list as a document. -/
def operationToJson (s : Signature) : Json :=
  .object [
    ("name", .ofString s.name),
    ("parameters", .list (s.parameters.map fun p =>
      .object [("default", p.default.toJson), ("name", .ofString p.name)]))]

/-- The answer that lists operations. -/
def ofCatalog (c : Catalog) : Answer where
  code := 0
  text := { stdout := unlines (c.toList.map Signature.describe) }
  json := { stdout := unlines [(Json.list (c.toList.map operationToJson)).pretty] }

/-- The answer of a command that may not have begun. -/
def ofExcept (a : Except LoadError Answer) : Answer :=
  match a with
  | .ok a => a
  | .error e => ofError e

end Answer

/-! ## Commands -/

/-- Runs a script. -/
def Inputs.run (i : Inputs) (configPath : Option String) (script : String)
    (options : RunOptions) : Except LoadError Answer := do
  let session ← i.session configPath options
  let source ← i.script script
  let (report, session) := session.run source
  return .ofReport report (if options.map then some session.map else none) options.strict

/-- Checks a script. -/
def Inputs.check (i : Inputs) (script : String) : Except LoadError Answer := do
  let source ← i.script script
  return .ofProgram (.read .builtin source)

/-- The answer to an invocation. -/
def Invocation.answer (i : Inputs) (invocation : Invocation) : Answer :=
  match invocation.command with
  | .run script options => .ofExcept (i.run invocation.config script options)
  | .check script => .ofExcept (i.check script)
  | .ops => .ofCatalog .builtin

/-- The answer that an invocation writes. -/
def Invocation.streams (i : Inputs) (invocation : Invocation) : Streams :=
  (invocation.answer i).streams invocation.output invocation.quiet

end CityScript
