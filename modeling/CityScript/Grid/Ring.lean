/-
Rings: the cells of a grid at one distance from a centre.

The rings around a centre are the search order for free cells. A ring is clipped
to the grid before it is listed, so a centre far outside costs no more than one
inside, and only the rings from the nearest to the farthest cell of the grid
have any cells.
-/
import CityScript.Grid.Cell

set_option autoImplicit false

namespace CityScript

/-! ## Ranges -/

/-- The integers from a lower to an upper bound, both included. -/
def intRange (low high : Int) : List Int :=
  (List.range (high + 1 - low).toNat).map fun (i : Nat) => low + (i : Int)

@[simp] theorem mem_intRange {low high n : Int} : n ∈ intRange low high ↔ low ≤ n ∧ n ≤ high := by
  simp only [intRange, List.mem_map, List.mem_range]
  constructor
  · rintro ⟨i, hi, rfl⟩
    omega
  · rintro ⟨hl, hh⟩
    exact ⟨(n - low).toNat, by omega, by omega⟩

/-! ## Rings -/

/-- The cells of a grid at distance `d` from a centre, row by row. In the first
and the last row of the ring these are all columns between its corners, in the
others the two end columns. -/
def ring (center : Cell) (d : Int) (size : Nat) : List Cell :=
  let last : Int := size - 1
  let lowCol := max (-d) (-center.col)
  let highCol := min d (last - center.col)
  (intRange (max (-d) (-center.row)) (min d (last - center.row))).flatMap fun dr =>
    let cols :=
      if (dr.natAbs : Int) = d then intRange lowCol highCol
      else [-d, d].filter fun dc => lowCol ≤ dc && dc ≤ highCol
    cols.map fun dc => ⟨center.row + dr, center.col + dc⟩

/-- **Membership in a ring.** The ring lists the cells of the grid at its distance,
and no others. -/
theorem mem_ring {center : Cell} {d : Int} {size : Nat} {c : Cell} :
    c ∈ ring center d size ↔
      0 ≤ c.row ∧ c.row < size ∧ 0 ≤ c.col ∧ c.col < size ∧ (c.distance center : Int) = d := by
  obtain ⟨row, col⟩ := c
  simp only [ring, List.mem_flatMap, List.mem_map, mem_intRange, Cell.distance, Cell.mk.injEq]
  constructor
  · rintro ⟨dr, hdr, dc, hdc, hrow, hcol⟩
    split at hdc
    · rw [mem_intRange] at hdc
      omega
    · simp only [List.mem_filter, List.mem_cons, List.not_mem_nil, or_false, Bool.and_eq_true,
        decide_eq_true_eq] at hdc
      omega
  · rintro ⟨hrow, hrow', hcol, hcol', hd⟩
    refine ⟨row - center.row, by omega, col - center.col, ?_, by omega, by omega⟩
    split
    · rw [mem_intRange]
      omega
    · simp only [List.mem_filter, List.mem_cons, List.not_mem_nil, or_false, Bool.and_eq_true,
        decide_eq_true_eq]
      omega

/-! ## Which rings meet the grid -/

/-- How far a coordinate is from the interval from zero to a last one. -/
def axisGap (v last : Int) : Nat :=
  if v < 0 then v.natAbs else if last < v then (v - last).natAbs else 0

/-- How far a coordinate is from the farther end of the interval from zero to a
last one. -/
def axisReach (v last : Int) : Nat := max v.natAbs (v - last).natAbs

/-- The first and the last ring that meet a grid, unless the grid has no cells. -/
def ringSpan? (center : Cell) (size : Nat) : Option (Nat × Nat) :=
  if size = 0 then none
  else
    let last : Int := size - 1
    some (max (axisGap center.row last) (axisGap center.col last),
      max (axisReach center.row last) (axisReach center.col last))

end CityScript
