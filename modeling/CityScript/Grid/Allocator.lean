/-
Allocation of cells: which cells of a mask are taken, and which free cell is
nearest to a centre.

A cell is free when it is land inside the grid and not taken. Cells are taken
one by one and given back all at once.
-/
import Std.Data.TreeSet.Lemmas
import CityScript.Grid.Mask
import CityScript.Grid.Ring
import CityScript.World.Object

set_option autoImplicit false

namespace CityScript

/-- A mask and the cells of it that are taken. -/
structure Allocator where
  mask : Mask
  reserved : Std.TreeSet Cell

namespace Allocator

/-- Nothing taken. -/
def ofMask (mask : Mask) : Allocator := ⟨mask, ∅⟩

instance : Inhabited Allocator := ⟨ofMask default⟩

/-! ## Views -/

/-- Whether a cell is taken. -/
def isReserved (a : Allocator) (c : Cell) : Bool := a.reserved.contains c

/-- Whether a cell is land inside the grid and not taken. -/
def isFree (a : Allocator) (c : Cell) : Bool := a.mask.isLand c && !a.isReserved c

/-- How many cells are taken. -/
def reservedCount (a : Allocator) : Nat := a.reserved.size

@[simp] theorem isReserved_ofMask (mask : Mask) (c : Cell) :
    (ofMask mask).isReserved c = false := by
  simp [ofMask, isReserved]

/-! ## Changes -/

/-- The allocator with one more cell taken. -/
def take (a : Allocator) (c : Cell) : Allocator := { a with reserved := a.reserved.insert c }

@[simp] theorem mask_take (a : Allocator) (c : Cell) : (a.take c).mask = a.mask := rfl

/-- After a cell is taken, that cell is taken besides those that were. -/
theorem isReserved_take (a : Allocator) (c d : Cell) :
    (a.take c).isReserved d = true ↔ d = c ∨ a.isReserved d = true := by
  simp only [take, isReserved, Std.TreeSet.contains_insert, Bool.or_eq_true, beq_iff_eq,
    Std.LawfulEqOrd.compare_eq_iff_eq]
  exact or_congr_left eq_comm

/-- A cell that was not taken counts once when it is. -/
theorem reservedCount_take {a : Allocator} {c : Cell} (h : a.isReserved c = false) :
    (a.take c).reservedCount = a.reservedCount + 1 := by
  have hnew : ¬ a.reserved.contains c = true := by
    rw [← isReserved, h]
    exact Bool.false_ne_true
  rw [reservedCount, reservedCount, take, Std.TreeSet.size_insert]
  exact if_neg hnew

/-- Takes a cell if it is free; a cell that is not is reported. -/
def reserve (a : Allocator) (c : Cell) : Except PlacementError Unit × Allocator :=
  if a.isFree c then (.ok (), a.take c) else (.error (.cellUnavailable c), a)

theorem reserve_of_isFree {a : Allocator} {c : Cell} (h : a.isFree c = true) :
    a.reserve c = (.ok (), a.take c) := if_pos h

theorem reserve_of_not_isFree {a : Allocator} {c : Cell} (h : ¬ a.isFree c = true) :
    a.reserve c = (.error (.cellUnavailable c), a) := if_neg h

/-- Gives all cells back. -/
def reset (a : Allocator) : Allocator := ofMask a.mask

@[simp] theorem mask_reset (a : Allocator) : a.reset.mask = a.mask := rfl

@[simp] theorem reset_ofMask (mask : Mask) : (ofMask mask).reset = ofMask mask := rfl

/-! ## Search -/

/-- The rings that a search within a radius looks at: those that meet the grid. -/
def searchRings (a : Allocator) (center : Cell) (radius : Nat) : List Nat :=
  match ringSpan? center a.mask.size with
  | none => []
  | some (nearest, farthest) => List.range' nearest (min radius farthest + 1 - nearest)

/-- The first free cell on the rings around a centre, up to a radius. -/
def findFree? (a : Allocator) (center : Cell) (radius : Nat) : Option Cell :=
  (a.searchRings center radius).findSome? fun (d : Nat) =>
    (ring center d a.mask.size).find? a.isFree

/-! ## Search in words -/

/-- What the search finds in words of 64 bits, which wrap around.

The distance to the nearest ring is an unsigned word and is cast to a signed one. Around
`Cell.least` it is cast to the least word, which is its own negation, and the ring with
this number has one cell, the first of the grid. Around all other cells the search in
words finds what the search over the integers does. -/
def findFreeInWords? (a : Allocator) (center : Cell) (radius : Nat) : Option Cell :=
  if center = .least ∧ a.isFree ⟨0, 0⟩ then some ⟨0, 0⟩ else a.findFree? center radius

theorem findFreeInWords?_of_ne {center : Cell} (h : center ≠ .least) (a : Allocator)
    (radius : Nat) : a.findFreeInWords? center radius = a.findFree? center radius :=
  if_neg fun hleast => h hleast.1

end Allocator

end CityScript
