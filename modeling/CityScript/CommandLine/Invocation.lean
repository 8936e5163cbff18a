/-
Invocations: what the words of a command line ask for.

A command line has options for all commands, the name of a command, and then the
options and words of that command; options for all commands may stand in either
place, and those after the name win. Options are read from left to right. An
option that takes a value takes it after an equals sign or from the next word,
which then must not look like an option itself. Two dashes alone end the options.
-/
import CityScript.Number.Numeral
import CityScript.Session.Settings

set_option autoImplicit false

namespace CityScript

/-! ## Invocations -/

/-- The form of the output. -/
inductive OutputFormat where
  | text
  | json
  deriving DecidableEq, Repr, Inhabited

/-- The options of a run: a mask file and a radius instead of the configured ones,
whether the map is shown, and whether any problem is a failure. -/
structure RunOptions where
  mask : Option String := none
  radius : Option Nat := none
  map : Bool := false
  strict : Bool := false
  deriving DecidableEq, Repr, Inhabited

/-- What a command line asks for. -/
inductive Command where
  | run (script : String) (options : RunOptions)
  | check (script : String)
  | ops
  deriving DecidableEq, Repr, Inhabited

/-- A command, and the options that all commands have. -/
structure Invocation where
  output : OutputFormat := .text
  quiet : Bool := false
  verbose : Bool := false
  config : Option String := none
  command : Command
  deriving DecidableEq, Repr, Inhabited

/-- How reading a command line can end other than with an invocation. -/
inductive Halt where
  | rejected
  | help
  | version
  deriving DecidableEq, Repr, Inhabited

namespace CommandLine

/-! ## Options -/

/-- An option: its name, and which values it accepts if it takes one. -/
structure OptionForm where
  name : String
  accepts : Option (String → Bool)

/-- What is accepted at one level of a command line. At the level of the commands
the first word is the name of a command and ends the level. -/
structure Level where
  options : List OptionForm
  words : Nat
  endsAtWord : Bool
  hasVersion : Bool

/-- What has been read at a level: options with their values, and words. -/
structure Reading where
  options : List (String × String) := []
  words : List String := []
  deriving DecidableEq, Repr, Inhabited

namespace Reading

/-- The value of an option. -/
def value? (r : Reading) (name : String) : Option String := r.options.lookup name

/-- Whether an option was given. -/
def has (r : Reading) (name : String) : Bool := (r.value? name).isSome

end Reading

/-- Whether a word looks like an option, so that it cannot be the value of one. A
dash alone does not. -/
def looksLikeOption : List Char → Bool
  | '-' :: _ :: _ => true
  | _ => false

/-- Adds an option with its value. No option may come twice, and the value must be
accepted. -/
def addOption (form : OptionForm) (value : String) (r : Reading) : Except Halt Reading :=
  if r.has form.name ∨ (form.accepts.any fun accepts => !accepts value) then .error .rejected
  else .ok { r with options := r.options ++ [(form.name, value)] }

/-- Adds a word, if there is room for it. Empty words are not accepted. -/
def addWord (level : Level) (word : String) (r : Reading) : Except Halt Reading :=
  if r.words.length < level.words ∧ word ≠ "" then .ok { r with words := r.words ++ [word] }
  else .error .rejected

/-- Reads words after two dashes, where nothing is an option. -/
def readWords (level : Level) (r : Reading) : List String → Except Halt Reading
  | [] => .ok r
  | word :: rest => do readWords level (← addWord level word r) rest

/-- The name of a long option and the value after its equals sign. -/
def splitLong (body : List Char) : String × Option String :=
  (String.ofList (body.takeWhile (· ≠ '=')),
    match body.dropWhile (· ≠ '=') with
    | [] => none
    | _ :: value => some (String.ofList value))

/-- Reads one level; also gives the words that are left, which are those from the
name of the command on if the level ends there. -/
def readLevel (level : Level) (r : Reading) : List String → Except Halt (Reading × List String)
  | [] => .ok (r, [])
  | word :: rest =>
    match word.toList with
    | ['-', '-'] => do return (← readWords level r rest, [])
    | '-' :: '-' :: body =>
      let (name, attached) := splitLong body
      if name = "help" ∧ attached = none then .error .help
      else if name = "version" ∧ level.hasVersion ∧ attached = none then .error .version
      else
        match level.options.find? (·.name == name) with
        | none => .error .rejected
        | some form =>
          match form.accepts, attached with
          | none, some _ => .error .rejected
          | none, none => do readLevel level (← addOption form "" r) rest
          | some _, some value => do readLevel level (← addOption form value r) rest
          | some _, none =>
            match rest with
            | [] => .error .rejected
            | value :: rest =>
              if looksLikeOption value.toList then .error .rejected
              else do readLevel level (← addOption form value r) rest
    | '-' :: c :: _ =>
      if c = 'h' then .error .help
      else if c = 'V' ∧ level.hasVersion then .error .version
      else .error .rejected
    | _ =>
      if level.endsAtWord then .ok (r, word :: rest)
      else do readLevel level (← addWord level word r) rest

/-! ## The levels of this command line -/

/-- An option without a value. -/
def flag (name : String) : OptionForm := ⟨name, none⟩

/-- An option with a path, which must not be empty. -/
def pathOption (name : String) : OptionForm := ⟨name, some (· ≠ "")⟩

/-- A radius: a whole number of 32 bits. -/
def radius? (value : String) : Option Nat :=
  ((readInt? value.toList).filter fun (n : Int) => 0 ≤ n && n ≤ (maxWord32 : Int)).map Int.toNat

/-- The output format of a name. -/
def format? (value : String) : Option OutputFormat :=
  if value = "text" then some .text else if value = "json" then some .json else none

/-- The options of all commands. -/
def sharedOptions : List OptionForm :=
  [⟨"output", some fun value => (format? value).isSome⟩, flag "quiet", flag "verbose",
    pathOption "config"]

/-- The options of a run. -/
def runOptions : List OptionForm :=
  [pathOption "mask", ⟨"radius", some fun value => (radius? value).isSome⟩, flag "map",
    flag "strict"]

/-- The level in front of the command. -/
def rootLevel : Level := ⟨sharedOptions, 0, true, true⟩

/-- The level of a run. -/
def runLevel : Level := ⟨runOptions ++ sharedOptions, 1, false, false⟩

/-- The level of a check. -/
def checkLevel : Level := ⟨sharedOptions, 1, false, false⟩

/-- The level of the list of operations. -/
def opsLevel : Level := ⟨sharedOptions, 0, false, false⟩

/-- An invocation of a command, with the options read before and after its name. -/
def invoke (before after : Reading) (command : Command) : Invocation where
  output := ((after.value? "output" <|> before.value? "output").bind format?).getD .text
  quiet := before.has "quiet" || after.has "quiet"
  verbose := before.has "verbose" || after.has "verbose"
  config := after.value? "config" <|> before.value? "config"
  command := command

/-- The only word of a level. -/
def onlyWord (r : Reading) : Except Halt String :=
  match r.words with
  | [word] => .ok word
  | _ => .error .rejected

/-- Help is given on the whole, or on one command by its name; help has a name too. -/
def readHelp : List String → Halt
  | [] => .help
  | [name] => if name ∈ ["run", "check", "ops", "help"] then .help else .rejected
  | _ => .rejected

/-- Reads a command after the options in front of it. -/
def readCommand (before : Reading) : List String → Except Halt Invocation
  | "run" :: rest => do
    let (after, _) ← readLevel runLevel {} rest
    return invoke before after (.run (← onlyWord after) {
      mask := after.value? "mask"
      radius := (after.value? "radius").bind radius?
      map := after.has "map"
      strict := after.has "strict" })
  | "check" :: rest => do
    let (after, _) ← readLevel checkLevel {} rest
    return invoke before after (.check (← onlyWord after))
  | "ops" :: rest => do
    let (after, _) ← readLevel opsLevel {} rest
    return invoke before after .ops
  | "help" :: rest => .error (readHelp rest)
  | _ => .error .rejected

/-- Reads the words of a command line. -/
def read (words : List String) : Except Halt Invocation := do
  let (before, rest) ← readLevel rootLevel {} words
  readCommand before rest

end CommandLine

end CityScript
