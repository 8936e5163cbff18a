/-
Writing JSON documents: on one line without any blanks, or spread over lines
with two spaces for each level of nesting.
-/
import CityScript.Json.Basic

set_option autoImplicit false

namespace CityScript.Json

/-! ## On one line -/

mutual

/-- A document on one line. -/
def compact : Json → String
  | .null => "null"
  | .bool b => if b then "true" else "false"
  | .number lexeme => lexeme
  | .string lexeme => "\"" ++ lexeme ++ "\""
  | .list items => "[" ++ String.intercalate "," (compactItems items) ++ "]"
  | .object members => "\x7b" ++ String.intercalate "," (compactMembers members) ++ "\x7d"

/-- The items of a list, each on one line. -/
def compactItems : List Json → List String
  | [] => []
  | item :: items => compact item :: compactItems items

/-- The members of an object, each on one line. -/
def compactMembers : List (String × Json) → List String
  | [] => []
  | (key, value) :: members => ("\"" ++ key ++ "\":" ++ compact value) :: compactMembers members

end

/-! ## Over several lines -/

/-- A line end, and the blanks in front of a line at a level of nesting. -/
def lineAt (level : Nat) : String :=
  "\n" ++ String.ofList (List.replicate (2 * level) ' ')

/-- What stands between two brackets: nothing, or each entry on lines of its own. -/
def bracket (left right : String) (level : Nat) (entries : List String) : String :=
  match entries with
  | [] => left ++ right
  | entries =>
    left ++ lineAt (level + 1) ++ String.intercalate ("," ++ lineAt (level + 1)) entries ++
      lineAt level ++ right

mutual

/-- A document over several lines, at a level of nesting. -/
def prettyAt (level : Nat) : Json → String
  | .list items => bracket "[" "]" level (prettyItems (level + 1) items)
  | .object members => bracket "\x7b" "\x7d" level (prettyMembers (level + 1) members)
  | .null => "null"
  | .bool b => if b then "true" else "false"
  | .number lexeme => lexeme
  | .string lexeme => "\"" ++ lexeme ++ "\""

/-- The items of a list at a level of nesting. -/
def prettyItems (level : Nat) : List Json → List String
  | [] => []
  | item :: items => prettyAt level item :: prettyItems level items

/-- The members of an object at a level of nesting. -/
def prettyMembers (level : Nat) : List (String × Json) → List String
  | [] => []
  | (key, value) :: members =>
    ("\"" ++ key ++ "\": " ++ prettyAt level value) :: prettyMembers level members

end

/-- A document over several lines. -/
def pretty (document : Json) : String := prettyAt 0 document

end CityScript.Json
