/-
Masks: which cells of a square grid are land.

A mask is made of rows of truth values, all of one length and as many as that
length. It can be read from a text of glyphs, one row a line, or from a JSON
list of lists.
-/
import CityScript.Grid.Cell
import CityScript.Json.Reader
import CityScript.Text.Blank
import CityScript.Text.Lines

set_option autoImplicit false

namespace CityScript

/-! ## Errors -/

/-- Why rows, or a text, are not a mask. -/
inductive MaskError where
  | empty
  | ragged (row length expected : Nat)
  | notSquare (rows cols : Nat)
  | unknownGlyph (glyph : Char) (row col : Nat)
  | notRows
  deriving DecidableEq, Repr, Inhabited

namespace MaskError

/-- The problem in words. -/
def message : MaskError → String
  | .empty => "mask is empty"
  | .ragged row length expected =>
    "mask row " ++ toString row ++ " has " ++ toString length ++ " cells, expected " ++
      toString expected
  | .notSquare rows cols =>
    "mask must be square: " ++ toString rows ++ " rows of " ++ toString cols ++ " cells"
  | .unknownGlyph glyph row col =>
    "unknown mask glyph '" ++ String.singleton glyph ++ "' at row " ++ toString row ++
      ", column " ++ toString col
  | .notRows => "invalid mask JSON: expected a list of rows of booleans"

end MaskError

/-! ## Masks -/

/-- A square grid of land and water, its cells row after row. -/
structure Mask where
  size : Nat
  cells : Array Bool
  size_cells : cells.size = size * size
  deriving DecidableEq

namespace Mask

/-- A grid of land only. -/
def allLand (size : Nat) : Mask := ⟨size, Array.replicate (size * size) true, by simp⟩

instance : Inhabited Mask := ⟨allLand 0⟩

/-- Rows of one length have so many cells in all. -/
theorem length_flatten_of_forall {rows : List (List Bool)} {n : Nat}
    (h : ∀ row ∈ rows, row.length = n) : rows.flatten.length = rows.length * n := by
  induction rows with
  | nil => simp
  | cons row rows ih =>
    rw [List.flatten_cons, List.length_append, h row (by simp),
      ih fun r hr => h r (by simp [hr]), List.length_cons, Nat.succ_mul, Nat.add_comm]

/-- What keeps rows from being a square: there are none, or one of them has not
the length of the first, or there are too many or too few. -/
def shapeError : List (List Bool) → MaskError
  | [] => .empty
  | first :: rest =>
    match (first :: rest).findIdx? (·.length ≠ first.length) with
    | some row => .ragged row ((first :: rest)[row]?.getD []).length first.length
    | none => .notSquare (rest.length + 1) first.length

/-- The mask with the given rows. -/
def ofRows (rows : List (List Bool)) : Except MaskError Mask :=
  if h : rows ≠ [] ∧ ∀ row ∈ rows, row.length = rows.length then
    .ok ⟨rows.length, rows.flatten.toArray, by simpa using length_flatten_of_forall h.2⟩
  else .error (shapeError rows)

/-! ## Views -/

/-- Whether a cell is inside the grid. -/
def inBounds (m : Mask) (c : Cell) : Bool :=
  decide (0 ≤ c.row ∧ c.row < m.size ∧ 0 ≤ c.col ∧ c.col < m.size)

/-- Whether a cell is inside the grid and land. -/
def isLand (m : Mask) (c : Cell) : Bool :=
  m.inBounds c && m.cells[c.row.toNat * m.size + c.col.toNat]?.getD false

/-- How many cells are land. -/
def landCount (m : Mask) : Nat := m.cells.count true

/-! ## Reading text -/

/-- What a glyph marks: land or water. -/
def glyph? (c : Char) : Option Bool :=
  if c = '#' ∨ c = '1' ∨ c = 'X' ∨ c = 'x' then some true
  else if c = '.' ∨ c = '0' ∨ c = '~' ∨ c = '_' then some false
  else none

/-- Reads the glyphs of a row from a column on. -/
def readGlyphs (row col : Nat) : List Char → Except MaskError (List Bool)
  | [] => .ok []
  | c :: rest =>
    match glyph? c with
    | none => .error (.unknownGlyph c row col)
    | some land => (readGlyphs row (col + 1) rest).map (land :: ·)

/-- Reads rows of glyphs from a row on. -/
def readRows (row : Nat) : List (List Char) → Except MaskError (List (List Bool))
  | [] => .ok []
  | line :: rest =>
    match readGlyphs row 0 line with
    | .error e => .error e
    | .ok cells => (readRows (row + 1) rest).map (cells :: ·)

/-- The rows of a text: its lines without blanks around them, blank lines left out. -/
def textRows (text : String) : List (List Char) :=
  ((Text.lines text.toList).map Text.trim).filter (· ≠ [])

/-- Reads a mask from lines of glyphs. -/
def ofText (text : String) : Except MaskError Mask :=
  match readRows 0 (textRows text) with
  | .error e => .error e
  | .ok rows => ofRows rows

/-! ## Reading documents -/

/-- The truth values of a list. -/
def rowOfJson? (document : Json) : Option (List Bool) :=
  document.items?.bind fun items => items.mapM Json.bool?

/-- The rows of truth values of a list of lists. -/
def rowsOfJson? (document : Json) : Option (List (List Bool)) :=
  document.items?.bind fun items => items.mapM rowOfJson?

/-- Reads a mask from a JSON list of rows. -/
def ofJsonText (text : String) : Except MaskError Mask :=
  match (Json.read? text).bind rowsOfJson? with
  | none => .error .notRows
  | some rows => ofRows rows

end Mask

end CityScript
