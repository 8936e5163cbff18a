/-
Cells of the grid, and the distance between them.

Cells are ordered by row and then by column, the order in which a grid is read.
-/
import CityScript.Number.Word

set_option autoImplicit false

namespace CityScript

/-- A row and a column. A cell may lie outside every grid. -/
structure Cell where
  row : Int
  col : Int
  deriving DecidableEq, Repr, Inhabited

namespace Cell

/-! ## Words of 64 bits -/

/-- The cell whose row and column are the least words of 64 bits. -/
def least : Cell := ⟨minInt64, minInt64⟩

/-- Neither the row nor the column is the least word of 64 bits, which is the only one
without a negation. -/
def Negatable (c : Cell) : Prop := c.row ≠ minInt64 ∧ c.col ≠ minInt64

instance (c : Cell) : Decidable c.Negatable := inferInstanceAs (Decidable (_ ∧ _))

theorem Negatable.ne_least {c : Cell} (h : c.Negatable) : c ≠ least := by
  rintro rfl
  exact h.1 rfl

/-! ## Order -/

instance : Ord Cell := ⟨compareLex (compareOn Cell.row) (compareOn Cell.col)⟩

instance : Std.TransOrd Cell :=
  inferInstanceAs (Std.TransCmp (compareLex (compareOn Cell.row) (compareOn Cell.col)))

instance : Std.LawfulEqOrd Cell where
  eq_of_compare {a b} h := by
    have h : (compare a.row b.row).then (compare a.col b.col) = .eq := h
    rw [Ordering.then_eq_eq, Std.LawfulEqOrd.compare_eq_iff_eq,
      Std.LawfulEqOrd.compare_eq_iff_eq] at h
    cases a; cases b; simp_all

/-! ## Distance -/

/-- How many king's moves two cells are apart: the greater of the row and the
column difference. -/
def distance (a b : Cell) : Nat := max (a.row - b.row).natAbs (a.col - b.col).natAbs

@[simp] theorem distance_self (a : Cell) : a.distance a = 0 := by simp [distance]

/-! ## Text -/

/-- The row and the column in parentheses. -/
def text (c : Cell) : String := "(" ++ toString c.row ++ ", " ++ toString c.col ++ ")"

end Cell

end CityScript
