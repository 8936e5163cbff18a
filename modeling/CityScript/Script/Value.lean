/-
The values that arguments of a script may have, and how an argument text is read
as one.

Scripts are loosely typed: an argument is nothing, a truth value, a number or a
text, and what it means for a parameter is decided when the call is run. Reading
never fails, because what is nothing else is a text.
-/
import CityScript.Text.Blank
import CityScript.Text.Quoted
import CityScript.Number.Numeral
import CityScript.Number.Layout
import CityScript.Json.Basic

set_option autoImplicit false

namespace CityScript

/-- A value of a script. -/
inductive Value where
  | null
  | bool (b : Bool)
  | number (n : Binary64)
  | text (s : String)
  deriving DecidableEq, Inhabited

namespace Value

/-! ## Views -/

/-- The name of a value's type, as messages write it. -/
def typeName : Value → String
  | .null => "None"
  | .bool _ => "bool"
  | .number _ => "number"
  | .text _ => "str"

/-- The integer that a value is, if it is a number that is one. -/
def toInt? : Value → Option Int
  | .number n => n.toInt?
  | _ => none

/-- An integer as a value. -/
def ofInt (n : Int) : Value := .number (Binary64.ofInt n)

/-! ## Writing -/

/-- A number as a script writes it: an integer by its digits alone. -/
def renderNumber (n : Binary64) : String :=
  match n.toInt? with
  | some i => toString i
  | none => n.plainText

/-- A value as a script writes it. -/
def render : Value → String
  | .null => "None"
  | .bool true => "True"
  | .bool false => "False"
  | .number n => renderNumber n
  | .text s => Text.quoted s

/-- A number as a document writes it; what is not finite has no number there. -/
def numberToJson (n : Binary64) : Json :=
  match n.toInt? with
  | some i => .ofInt i
  | none => .ofOption .number n.documentText?

/-- A value as a document writes it. -/
def toJson : Value → Json
  | .null => .null
  | .bool b => .bool b
  | .number n => numberToJson n
  | .text s => .ofString s

/-! ## Reading -/

/-- The text between matching quotes that enclose all of a text. Quotes inside
are not looked at. -/
def unquote? : List Char → Option (List Char)
  | q :: rest =>
    if (q = '"' ∨ q = '\x27') ∧ rest.getLast? = some q then some rest.dropLast else none
  | [] => none

/-- Reads a text without blanks at its ends: a keyword, a quoted text, a number,
or else the text itself. -/
def ofTrimmed (cs : List Char) : Value :=
  if cs = "None".toList ∨ cs = "null".toList then .null
  else if cs = "True".toList then .bool true
  else if cs = "False".toList then .bool false
  else match unquote? cs with
    | some inner => .text (String.ofList inner)
    | none =>
      match readNumber? cs with
      | some n => .number n
      | none => .text (String.ofList cs)

/-- Reads an argument text. Blanks at its ends do not count. -/
def read (cs : List Char) : Value := ofTrimmed (Text.trim cs)

end Value

end CityScript
