/-
Call lines: `head(arguments)`, with an optional assignment in front.

The head is an identifier, the arguments are everything between the first
opening parenthesis and the last closing one, and only blanks may follow. An
assignment `name =` in front is read and forgotten. Since no blank, parenthesis
or equals sign is a word character, each part of the line ends where the next
character is of another class, and nothing has to be tried twice.
-/
import CityScript.Text.Blank
import CityScript.Text.Word

set_option autoImplicit false

namespace CityScript

/-! ## Identifiers -/

/-- An identifier at the start of a text, and what follows it. -/
def readIdentifier? : List Char → Option (List Char × List Char)
  | [] => none
  | c :: rest =>
    if Text.isWordStart c then some (c :: rest.takeWhile Text.isWord, rest.dropWhile Text.isWord)
    else none

/-! ## Call lines -/

/-- The head of a call and the text of its arguments. -/
structure CallLine where
  head : List Char
  body : List Char
  deriving DecidableEq, Repr

namespace CallLine

/-- The text up to the last closing parenthesis. Only blanks may follow that
parenthesis, and no line feed may come before it. -/
def readBody? (cs : List Char) : Option (List Char) :=
  match cs.reverse.dropWhile Text.isBlank with
  | ')' :: body => if '\n' ∈ body then none else some body.reverse
  | _ => none

/-- The rest of a call after its head. -/
def afterHead? (head : List Char) (cs : List Char) : Option CallLine :=
  match Text.trimStart cs with
  | '(' :: rest => (readBody? rest).map fun body => ⟨head, body⟩
  | _ => none

/-- Reads a line as a call, all of it or not at all. -/
def read? (cs : List Char) : Option CallLine :=
  match readIdentifier? cs with
  | none => none
  | some (name, rest) =>
    match Text.trimStart rest with
    | '=' :: rest =>
      match readIdentifier? (Text.trimStart rest) with
      | none => none
      | some (head, rest) => afterHead? head rest
    | rest => afterHead? name rest

end CallLine

end CityScript
