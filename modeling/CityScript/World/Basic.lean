/-
The world: a grid with its taken cells, and the log of the objects on it.

Objects are placed on an exact cell, or near a preferred position, on the
nearest cell that is free. A placement gives its result and the world after it,
also when it fails. Everything can be cleared at once.
-/
import CityScript.Grid.Allocator
import CityScript.World.Object

set_option autoImplicit false

namespace CityScript

/-! ## Worlds -/

/-- A grid with its taken cells, the objects in the order of their placement, how
far a search goes and where it starts when a call does not say. -/
structure World where
  grid : Allocator
  placed : List PlacedObject
  searchRadius : Nat
  defaultCenter : Cell

namespace World

/-- The world without objects. -/
def ofMask (mask : Mask) (searchRadius : Nat) (defaultCenter : Cell) : World :=
  ⟨.ofMask mask, [], searchRadius, defaultCenter⟩

instance : Inhabited World := ⟨ofMask default 0 default⟩

/-! ## Placing -/

/-- Takes a cell for an object and logs the object. A cell that cannot be taken is
an error, and nothing is logged. -/
def placeAt (w : World) (kind : Kind) (cell : Cell) (details : Details) :
    Except PlacementError Placement × World :=
  match w.grid.reserve cell with
  | (.error e, grid) => (.error e, { w with grid })
  | (.ok (), grid) =>
    (.ok ⟨cell, kind⟩, { w with grid, placed := w.placed ++ [⟨cell, kind, details⟩] })

/-- The centre of a search for a preferred row and column; what is not given is
that of the default centre. -/
def centerFor (w : World) (row col : Option Int) : Cell :=
  ⟨row.getD w.defaultCenter.row, col.getD w.defaultCenter.col⟩

/-- The cell for an object with a preferred row and column: that very cell if both
are given and it is free, else the nearest free one, searched for in words. -/
def cellNear? (w : World) (row col : Option Int) : Option Cell :=
  let center := w.centerFor row col
  if row.isSome ∧ col.isSome ∧ w.grid.isFree center then some center
  else w.grid.findFreeInWords? center w.searchRadius

/-- Puts an object on the cell for a preferred row and column. -/
def placeNear (w : World) (kind : Kind) (row col : Option Int) (details : Details) :
    Except PlacementError Placement × World :=
  match w.cellNear? row col with
  | none => (.error (.noFreeCell kind (w.centerFor row col) w.searchRadius), w)
  | some cell => w.placeAt kind cell details

/-! ## Clearing -/

/-- Takes everything off the map; also says how much that was. -/
def clear (w : World) : Nat × World :=
  (w.placed.length, { w with grid := w.grid.reset, placed := [] })

/-- A cleared world is a new one. -/
theorem clear_eq_ofMask (w : World) :
    w.clear = (w.placed.length, ofMask w.grid.mask w.searchRadius w.defaultCenter) := rfl

end World

end CityScript
