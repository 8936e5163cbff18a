/-
Objects on the map: their kinds, what is recorded about them, and what a
placement reports back, be it a success or an error.
-/
import CityScript.Grid.Cell
import CityScript.Json.Basic

set_option autoImplicit false

namespace CityScript

/-! ## Kinds -/

/-- What can stand on a cell. -/
inductive Kind where
  | house
  | park
  | pool
  | library
  | school
  | hospital
  | shop
  | road
  | powerTower
  | fountain
  | apartment
  deriving DecidableEq, Repr, Inhabited

namespace Kind

/-- All kinds. -/
def all : List Kind :=
  [.house, .park, .pool, .library, .school, .hospital, .shop, .road, .powerTower, .fountain,
    .apartment]

/-- The name of a kind. -/
def name : Kind → String
  | .house => "house"
  | .park => "park"
  | .pool => "pool"
  | .library => "library"
  | .school => "school"
  | .hospital => "hospital"
  | .shop => "shop"
  | .road => "road"
  | .powerTower => "power_tower"
  | .fountain => "fountain"
  | .apartment => "apartment"

/-- The character that stands for a kind on the map. -/
def glyph : Kind → Char
  | .house => 'H'
  | .park => 'P'
  | .pool => 'W'
  | .library => 'L'
  | .school => 'S'
  | .hospital => '+'
  | .shop => '$'
  | .road => '='
  | .powerTower => 'T'
  | .fountain => 'F'
  | .apartment => 'A'

/-- The kind of a name. -/
def ofName? (name : String) : Option Kind := all.find? (·.name == name)

/-- No two kinds have one glyph. -/
theorem glyph_injective : ∀ a b : Kind, a.glyph = b.glyph → a = b := by
  intro a b
  cases a <;> cases b <;> simp [glyph]

end Kind

/-! ## Directions -/

/-- Which way a road runs. -/
inductive Direction where
  | horizontal
  | vertical
  deriving DecidableEq, Repr, Inhabited

namespace Direction

/-- The name of a direction. -/
def name : Direction → String
  | .horizontal => "horizontal"
  | .vertical => "vertical"

/-- The direction of a name or of its first letter. -/
def ofText? (s : String) : Option Direction :=
  if s = "h" ∨ s = "horizontal" then some .horizontal
  else if s = "v" ∨ s = "vertical" then some .vertical
  else none

end Direction

/-! ## Objects -/

/-- What is recorded about an object besides its kind and its cell. -/
structure Details where
  name : Option String := none
  floors : Option Nat := none
  direction : Option Direction := none
  deriving DecidableEq, Repr, Inhabited

/-- An object on the map. -/
structure PlacedObject where
  cell : Cell
  kind : Kind
  details : Details
  deriving DecidableEq, Repr, Inhabited

/-- What a placement reports back: where and what. -/
structure Placement where
  cell : Cell
  kind : Kind
  deriving DecidableEq, Repr, Inhabited

/-- The report of a placed object. -/
def PlacedObject.placement (o : PlacedObject) : Placement := ⟨o.cell, o.kind⟩

/-- What a call did. -/
inductive Outcome where
  | placed (p : Placement)
  | cleared (removed : Nat)
  deriving DecidableEq, Repr, Inhabited

/-! ## Errors -/

/-- Why an object cannot be placed: no free cell within the radius, or the very
cell that was asked for is not free. -/
inductive PlacementError where
  | noFreeCell (kind : Kind) (center : Cell) (radius : Nat)
  | cellUnavailable (cell : Cell)
  deriving DecidableEq, Repr, Inhabited

/-- The problem in words. -/
def PlacementError.message : PlacementError → String
  | .noFreeCell kind center radius =>
    "no free tile for " ++ kind.name ++ " within " ++ toString radius ++ " tiles of " ++ center.text
  | .cellUnavailable cell => "tile " ++ cell.text ++ " is not free land"

/-! ## Text and documents -/

/-- An outcome in words. -/
def Outcome.text : Outcome → String
  | .placed p => p.kind.name ++ " at " ++ p.cell.text
  | .cleared removed => "cleared " ++ toString removed ++ " object(s)"

/-- A placement as a document. -/
def Placement.toJson (p : Placement) : Json :=
  .object [("col", .ofInt p.cell.col), ("row", .ofInt p.cell.row), ("type", .ofString p.kind.name)]

/-- An outcome as a document. -/
def Outcome.toJson : Outcome → Json
  | .placed p => p.toJson
  | .cleared removed => .object [("removed", .ofNat removed)]

/-- An object as a document; details that it has not are left out. -/
def PlacedObject.toJson (o : PlacedObject) : Json :=
  .object <|
    [("cell", .object [("col", .ofInt o.cell.col), ("row", .ofInt o.cell.row)])] ++
    (o.details.direction.map fun d => ("direction", .ofString d.name)).toList ++
    (o.details.floors.map fun n => ("floors", .ofNat n)).toList ++
    [("kind", .ofString o.kind.name)] ++
    (o.details.name.map fun s => ("name", .ofString s)).toList

end CityScript
