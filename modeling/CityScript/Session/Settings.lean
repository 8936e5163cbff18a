/-
The settings of a session: the size of the grid, how far a search goes, and where
it starts. What is not set follows from the size.

Settings can be read from a JSON object, in which every key is optional and keys
of other names do not matter, or from a JSON list of the same values in order.
-/
import CityScript.Grid.Cell
import CityScript.Json.Reader
import CityScript.Json.Writer
import CityScript.Number.Word

set_option autoImplicit false

namespace CityScript

/-! ## Settings -/

/-- The side of the grid when nothing else is set. -/
def defaultGridSize : Nat := 40

/-- The settings of a session. -/
structure Settings where
  gridSize : Nat := defaultGridSize
  searchRadius : Option Nat := none
  defaultCenter : Option Cell := none
  deriving DecidableEq, Repr, Inhabited

namespace Settings

/-- How far a search goes: half the grid when it is not set. -/
def radius (s : Settings) : Nat := s.searchRadius.getD (min (s.gridSize / 2) maxWord32)

/-- Where a search starts: the middle of the grid when it is not set. -/
def center (s : Settings) : Cell :=
  s.defaultCenter.getD ⟨(s.gridSize / 2 : Nat), (s.gridSize / 2 : Nat)⟩

/-! ## Reading -/

/-- An integer within bounds. -/
def intWithin? (low high : Int) (document : Json) : Option Int :=
  document.int?.filter fun n => low ≤ n && n ≤ high

/-- A natural number up to a bound. -/
def natUpTo? (high : Nat) (document : Json) : Option Nat :=
  (intWithin? 0 high document).map Int.toNat

/-- A value that may be null. -/
def optional? {α : Type} (read? : Json → Option α) : Json → Option (Option α)
  | .null => some none
  | document => (read? document).map some

/-- A cell, written as a list of its row and its column. -/
def cell? (document : Json) : Option Cell :=
  match document.items? with
  | some [row, col] => do
    let row ← intWithin? minInt64 maxInt64 row
    let col ← intWithin? minInt64 maxInt64 col
    return ⟨row, col⟩
  | _ => none

/-- Sets the grid size from a document. -/
def setGridSize? (s : Settings) (document : Json) : Option Settings :=
  (natUpTo? maxWord64 document).map fun n => { s with gridSize := n }

/-- Sets the search radius from a document. -/
def setSearchRadius? (s : Settings) (document : Json) : Option Settings :=
  (optional? (natUpTo? maxWord32) document).map fun r => { s with searchRadius := r }

/-- Sets the default centre from a document. -/
def setDefaultCenter? (s : Settings) (document : Json) : Option Settings :=
  (optional? cell? document).map fun c => { s with defaultCenter := c }

/-- The keys of settings in their order, each with the way its value is set. -/
def fields : List (String × (Settings → Json → Option Settings)) :=
  [("grid_size", setGridSize?), ("search_radius", setSearchRadius?),
    ("default_center", setDefaultCenter?)]

/-- Reads the members of an object one after the other, with the keys that were
seen already. A key of the settings may not come twice, and every key must be a
text. -/
def ofMembers? (s : Settings) (seen : List String) : List (String × Json) → Option Settings
  | [] => some s
  | (lexeme, value) :: rest => do
    let key ← Json.lexemeText? lexeme
    match fields.lookup key with
    | none => ofMembers? s seen rest
    | some set =>
      if key ∈ seen then none
      else ofMembers? (← set s value) (key :: seen) rest

/-- Reads the values of a list in the order of the keys. Missing ones at the end
keep their defaults, and there may be no further ones. -/
def ofItems? (s : Settings) : List (String × (Settings → Json → Option Settings)) → List Json →
    Option Settings
  | _, [] => some s
  | [], _ :: _ => none
  | (_, set) :: fields, item :: items => do ofItems? (← set s item) fields items

/-- The settings in a document. -/
def ofJson? : Json → Option Settings
  | .object members => ofMembers? {} [] members
  | .list items => ofItems? {} fields items
  | _ => none

/-- Reads settings from the text of a document. -/
def ofText? (text : String) : Option Settings := (Json.read? text).bind ofJson?

/-! ## Writing -/

/-- The settings as a document, null for what is not set. -/
def toJson (s : Settings) : Json :=
  .object [
    ("grid_size", .ofNat s.gridSize),
    ("search_radius", .ofOption .ofNat s.searchRadius),
    ("default_center",
      .ofOption (fun c => .list [.ofInt c.row, .ofInt c.col]) s.defaultCenter)]

end Settings

end CityScript
