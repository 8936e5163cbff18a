/-
Which files an invocation reads, known step by step.

The mask of a run may be named by its configuration, so its path is known only
after that file is read. A program that reads files one by one asks for the next
path, reads it, and goes on with what it has. How a file is read is left open, so
that the same steps can be taken in a system and on a function from paths.
-/
import CityScript.CommandLine.Basic

set_option autoImplicit false

namespace CityScript

/-- The files that were read so far, each with its text or the reason why there is
none. -/
abbrev FilesRead := List (String × Except ReadError String)

/-- The files that were read, as a function from paths. -/
def FilesRead.toFiles (read : FilesRead) : Files := fun path =>
  (read.lookup path).getD (.error .notFound)

namespace Invocation

/-- The configuration file. -/
def configPath? (invocation : Invocation) : Option String :=
  match invocation.command with
  | .run .. => invocation.config
  | _ => none

/-- The mask file, which the configuration may name. -/
def maskPath? (files : Files) (invocation : Invocation) : Option String :=
  match invocation.command with
  | .run _ options =>
    match (Inputs.mk files (.ok "")).config invocation.config with
    | .ok config => options.mask <|> config.mask
    | .error _ => none
  | _ => none

/-- The script, unless it is the standard input. -/
def script? (invocation : Invocation) : Option String :=
  match invocation.command with
  | .run script _ => some script
  | .check script => some script
  | .ops => none

end Invocation

/-! ## Reading one file after the other -/

section Reading

variable {m : Type → Type} [Monad m]

/-- Reads one more file, if there is one to read. -/
def FilesRead.readNext (readFile : String → m (Except ReadError String)) (read : FilesRead) :
    Option String → m FilesRead
  | none => return read
  | some path => return (path, ← readFile path) :: read

/-- Reads all that an invocation needs, in the order in which it needs it. -/
def Invocation.gather (readFile : String → m (Except ReadError String))
    (readInput : m (Except ReadError String)) (invocation : Invocation) : m Inputs := do
  let read ← FilesRead.readNext readFile [] invocation.configPath?
  let read ← read.readNext readFile (invocation.maskPath? read.toFiles)
  match invocation.script? with
  | none => return ⟨read.toFiles, .ok ""⟩
  | some path =>
    if Path.isDash path then return ⟨read.toFiles, ← readInput⟩
    else return ⟨(← read.readNext readFile (some path)).toFiles, .ok ""⟩

end Reading

end CityScript
