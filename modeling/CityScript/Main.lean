/-
The program: reads the command line and the files that it names, and writes the
answer.
-/
import CityScript.CommandLine.Plan

set_option autoImplicit false

namespace CityScript.Terminal

/-! ## Reading -/

/-- The number of a system error, which is also given as a negative number that wraps
around. -/
def errorNumber (code : UInt32) : Nat := min code.toNat (0 - code).toNat

/-- The reason why the system could not read a file. -/
def readError : IO.Error → ReadError
  | .noFileOrDirectory .. => .notFound
  | .inappropriateType _ code details =>
    if errorNumber code = 20 then .notFolder
    else if errorNumber code = 21 then .isFolder
    else .other details
  | .invalidArgument _ code details =>
    if errorNumber code = 36 then .nameTooLong else .other details
  | .permissionDenied .. => .noPermission
  | e => .other (toString e)

/-- Reads a file as text. -/
def readFile (path : String) : IO (Except ReadError String) := do
  try
    return decodeText (← IO.FS.readBinFile path)
  catch e =>
    return .error (readError e)

/-- Reads the standard input as text. -/
def readInput : IO (Except ReadError String) := do
  try
    return decodeText (← (← IO.getStdin).readBinToEnd)
  catch e =>
    return .error (readError e)

/-! ## Usage -/

/-- How the program is called. -/
def usage : String :=
  "usage: codescape [--output text|json] [--quiet] [--verbose] [--config FILE] COMMAND\n\n" ++
  "commands:\n" ++
  "  run SCRIPT [--mask FILE] [--radius N] [--map] [--strict]\n" ++
  "  check SCRIPT\n" ++
  "  ops\n"

/-- Answers a command line. -/
def run (words : List String) : IO UInt32 := do
  match CommandLine.read words with
  | .error .rejected =>
    IO.eprint usage
    return 2
  | .error .help =>
    IO.print usage
    return 0
  | .error .version =>
    IO.println "codescape"
    return 0
  | .ok invocation =>
    let inputs ← invocation.gather readFile readInput
    let streams := invocation.streams inputs
    IO.print streams.stdout
    IO.eprint streams.stderr
    return (invocation.answer inputs).code.toUInt32

end CityScript.Terminal

/-- The program. -/
def main (words : List String) : IO UInt32 := CityScript.Terminal.run words
