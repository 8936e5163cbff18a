/-
The order in which a search from a centre meets the cells.

A grid is read row by row, so of two cells the one in the upper row comes first,
and of two cells in a row the left one. A search meets the cells by distance,
and those at one distance as the grid is read. Each ring is listed in reading
order, and the rings are taken from the inner to the outer, so the whole listing
of a search is sorted. That is the one fact about the search that everything
about "the nearest free cell" rests on: the first hit in a sorted list is the
least one.

The offsets of a ring are clipped to the grid before they are listed. Clipping
keeps the order, because a range stays a range and the two end columns of an
inner row stay in their order.
-/
import Mathlib.Data.List.Perm.Basic
import CityScript.Grid.Allocator

set_option autoImplicit false

namespace CityScript

/-! ## Reading order and search order -/

namespace Cell

/-- The cell `a` is read before the cell `b`: row by row, and from left to right. -/
def Precedes (a b : Cell) : Prop := a.row < b.row ∨ (a.row = b.row ∧ a.col < b.col)

/-- No two cells are each read before the other. -/
theorem Precedes.asymm {a b : Cell} (h : a.Precedes b) : ¬ b.Precedes a := by
  unfold Precedes at *
  omega

/-- A search from the centre meets the cell `a` before the cell `b`: it is nearer,
or it is as near and read first. -/
def MetBefore (center a b : Cell) : Prop :=
  a.distance center < b.distance center ∨
    (a.distance center = b.distance center ∧ a.Precedes b)

/-- No two cells are each met before the other. -/
theorem MetBefore.asymm {center a b : Cell} (h : MetBefore center a b) :
    ¬ MetBefore center b a := by
  unfold MetBefore Precedes at *
  omega

end Cell

/-! ## Sorted lists -/

/-- A list that is sorted strictly has nothing twice. -/
theorem nodup_of_pairwise {α : Type} {R : α → α → Prop} (hasymm : ∀ a b, R a b → ¬ R b a)
    {l : List α} (hl : l.Pairwise R) : l.Nodup := by
  refine hl.imp ?_
  rintro a _ h rfl
  exact hasymm a a h h

/-- Two lists that are sorted strictly are one list if they have the same entries. -/
theorem eq_of_pairwise_of_mem_iff {α : Type} {R : α → α → Prop}
    (hasymm : ∀ a b, R a b → ¬ R b a) {first second : List α} (hfirst : first.Pairwise R)
    (hsecond : second.Pairwise R) (hmem : ∀ a, a ∈ first ↔ a ∈ second) : first = second := by
  refine List.Perm.eq_of_pairwise ?_ hfirst hsecond
    ((List.perm_ext_iff_of_nodup (nodup_of_pairwise hasymm hfirst)
      (nodup_of_pairwise hasymm hsecond)).mpr hmem)
  intro a b _ _ hab hba
  exact absurd hba (hasymm a b hab)

/-- Cells in reading order are all different. -/
theorem Cell.Precedes.nodup {cells : List Cell} (h : cells.Pairwise Precedes) : cells.Nodup :=
  nodup_of_pairwise (fun _ _ => Precedes.asymm) h

/-- Cells in the order of a search are all different. -/
theorem Cell.MetBefore.nodup {center : Cell} {cells : List Cell}
    (h : cells.Pairwise (MetBefore center)) : cells.Nodup :=
  nodup_of_pairwise (fun _ _ => MetBefore.asymm) h

/-- **The first hit in a sorted list.** It is the hit that comes before all the
others. -/
theorem find?_eq_some_iff_of_pairwise {α : Type} {R : α → α → Prop}
    (hasymm : ∀ a b, R a b → ¬ R b a) {l : List α} (hl : l.Pairwise R) (p : α → Bool) (c : α) :
    l.find? p = some c ↔ c ∈ l ∧ p c = true ∧ ∀ d ∈ l, p d = true → d ≠ c → R c d := by
  induction l with
  | nil => simp
  | cons x l ih =>
    rw [List.pairwise_cons] at hl
    obtain ⟨hx, hl⟩ := hl
    by_cases hp : p x = true
    · rw [List.find?_cons_of_pos hp]
      constructor
      · intro h
        obtain rfl : x = c := by simpa using h
        refine ⟨List.mem_cons_self, hp, ?_⟩
        intro d hd _ hne
        rcases List.mem_cons.mp hd with rfl | hd
        · exact absurd rfl hne
        · exact hx d hd
      · rintro ⟨hc, _, hmin⟩
        rcases List.mem_cons.mp hc with rfl | hc
        · rfl
        · -- `x` itself is a hit before `c`, so `c` cannot come before all the others
          by_cases hne : x = c
          · rw [hne]
          · exact absurd (hx c hc) (hasymm _ _ (hmin x List.mem_cons_self hp hne))
    · rw [List.find?_cons_of_neg hp, ih hl]
      constructor
      · rintro ⟨hc, hpc, hmin⟩
        refine ⟨List.mem_cons_of_mem x hc, hpc, ?_⟩
        intro d hd hpd hne
        rcases List.mem_cons.mp hd with rfl | hd
        · exact absurd hpd hp
        · exact hmin d hd hpd hne
      · rintro ⟨hc, hpc, hmin⟩
        rcases List.mem_cons.mp hc with rfl | hc
        · exact absurd hpc hp
        · exact ⟨hc, hpc, fun d hd => hmin d (List.mem_cons_of_mem x hd)⟩

/-! ## Rings are sorted -/

/-- A range is listed upwards. -/
theorem intRange_pairwise (low high : Int) : (intRange low high).Pairwise (· < ·) := by
  rw [intRange, List.pairwise_map]
  refine List.Pairwise.imp ?_ List.pairwise_lt_range
  intro i j h
  omega

/-- Rows of cells, each from left to right and in the order of the rows, make a list
in reading order. The rows and the columns are given as offsets from a centre. -/
theorem offsets_pairwise (center : Cell) {rows : List Int} (hrows : rows.Pairwise (· < ·))
    {cols : Int → List Int} (hcols : ∀ dr ∈ rows, (cols dr).Pairwise (· < ·)) :
    (rows.flatMap fun dr => (cols dr).map fun dc =>
      (⟨center.row + dr, center.col + dc⟩ : Cell)).Pairwise Cell.Precedes := by
  rw [List.pairwise_flatMap]
  constructor
  -- within a row the columns decide, between two rows the rows do
  · intro dr hdr
    rw [List.pairwise_map]
    refine (hcols dr hdr).imp ?_
    intro dc dc' h
    exact Or.inr ⟨rfl, by simpa using h⟩
  · refine hrows.imp ?_
    intro dr dr' h c hc d hd
    rw [List.mem_map] at hc hd
    obtain ⟨dc, _, rfl⟩ := hc
    obtain ⟨dc', _, rfl⟩ := hd
    exact Or.inl (by simpa using h)

/-- **A ring is listed in reading order.** -/
theorem ring_pairwise (center : Cell) (d : Int) (size : Nat) :
    (ring center d size).Pairwise Cell.Precedes := by
  unfold ring
  refine offsets_pairwise center (intRange_pairwise _ _) ?_
  intro dr hdr
  rw [mem_intRange] at hdr
  split
  · exact intRange_pairwise _ _
  · -- an inner row lies strictly between the corners, so its two ends are apart
    next hne =>
    refine List.Pairwise.filter _ ?_
    rw [List.pairwise_pair]
    omega

end CityScript
