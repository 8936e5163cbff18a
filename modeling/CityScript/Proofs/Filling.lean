/-
Many objects near one position, placed one after the other.

Each placement takes the nearest free cell, so it changes what the next one finds.
Still the cells of a whole series can be told in advance: they are the free cells
within the radius as they were before the first placement, in the order in which a
search meets them. When a cell is taken, the list of the free cells loses its head
and nothing else, because the cell that is taken is the head. So the list is used up
from the front, cell by cell, and when it is empty every further placement fails.

A position with both coordinates is tried first, without a search. That is no
exception: if the very cell is free, it is at distance zero from itself, and a
search within any radius would have met it first.

Around the least cell it is otherwise. The search in words takes its distance for a
negative number, so it starts with a ring that there is not and finds the first cell of
the grid on it, however far away that is (`placeNear_least`).
-/
import CityScript.Proofs.GridCells
import CityScript.Proofs.Placing

set_option autoImplicit false

namespace CityScript

/-! ## Sorting cells -/

namespace Cell

instance (a b : Cell) : Decidable (a.Precedes b) := inferInstanceAs (Decidable (_ ∨ _))

instance (center a b : Cell) : Decidable (MetBefore center a b) :=
  inferInstanceAs (Decidable (_ ∨ _))

theorem MetBefore.connex {center a b : Cell} (h : a ≠ b) :
    MetBefore center a b ∨ MetBefore center b a := by
  obtain ⟨row, col⟩ := a
  obtain ⟨row', col'⟩ := b
  rw [ne_eq, Cell.mk.injEq] at h
  unfold MetBefore Precedes
  dsimp only
  omega

/-- Two lists in the order of a search are one list if they have the same cells. -/
theorem MetBefore.eq_of_mem_iff {center : Cell} {first second : List Cell}
    (hfirst : first.Pairwise (MetBefore center)) (hsecond : second.Pairwise (MetBefore center))
    (hmem : ∀ c, c ∈ first ↔ c ∈ second) : first = second :=
  eq_of_pairwise_of_mem_iff (fun _ _ => MetBefore.asymm) hfirst hsecond hmem

/-- Cells sorted by distance from a centre, row and column. -/
def sortFrom (center : Cell) (cells : List Cell) : List Cell :=
  cells.mergeSort fun c d => !decide (MetBefore center d c)

@[simp] theorem mem_sortFrom {center : Cell} {cells : List Cell} {c : Cell} :
    c ∈ sortFrom center cells ↔ c ∈ cells :=
  (List.mergeSort_perm _ _).mem_iff

/-- **Sorted cells** are in the order of a search, if none is there twice. -/
theorem sortFrom_pairwise (center : Cell) {cells : List Cell} (hnodup : cells.Nodup) :
    (sortFrom center cells).Pairwise (MetBefore center) := by
  have hsorted : (sortFrom center cells).Pairwise
      fun c d => (!decide (MetBefore center d c)) = true := by
    refine List.pairwise_mergeSort ?_ ?_ cells
    · intro b c d hbc hcd
      simp only [Bool.not_eq_true', decide_eq_false_iff_not] at hbc hcd ⊢
      unfold MetBefore Precedes at *
      omega
    · intro c d
      simp only [Bool.or_eq_true, Bool.not_eq_true', decide_eq_false_iff_not]
      by_cases hcd : MetBefore center d c
      · exact Or.inr hcd.asymm
      · exact Or.inl hcd
  have hdistinct : (sortFrom center cells).Nodup :=
    (List.mergeSort_perm _ _).nodup_iff.mpr hnodup
  -- what is not met later, and is another cell, is met before
  refine (hsorted.and hdistinct).imp ?_
  rintro c d ⟨hle, hne⟩
  simp only [Bool.not_eq_true', decide_eq_false_iff_not] at hle
  exact (MetBefore.connex hne).resolve_right hle

end Cell

/-! ## The free cells around a centre -/

namespace Allocator

/-- The free cells within a radius of a centre, sorted by distance, row and column. -/
def nearestFirst (a : Allocator) (center : Cell) (radius : Nat) : List Cell :=
  Cell.sortFrom center (a.freeCells.filter fun c => c.distance center ≤ radius)

theorem mem_nearestFirst {a : Allocator} {center : Cell} {radius : Nat} {c : Cell} :
    c ∈ a.nearestFirst center radius ↔ a.isFree c = true ∧ c.distance center ≤ radius := by
  rw [nearestFirst, Cell.mem_sortFrom, List.mem_filter, mem_freeCells, decide_eq_true_eq]

theorem nearestFirst_pairwise (a : Allocator) (center : Cell) (radius : Nat) :
    (a.nearestFirst center radius).Pairwise (Cell.MetBefore center) :=
  Cell.sortFrom_pairwise center (a.freeCells_nodup.filter _)

/-- The sorted free cells are the free ones of the listing of a search. -/
theorem nearestFirst_eq_filter (a : Allocator) (center : Cell) (radius : Nat) :
    a.nearestFirst center radius = (a.searchCells center radius).filter a.isFree := by
  refine Cell.MetBefore.eq_of_mem_iff (a.nearestFirst_pairwise center radius)
    ((a.searchCells_pairwise center radius).filter _) ?_
  intro c
  rw [mem_nearestFirst, List.mem_filter, and_comm]
  exact and_congr_left fun hfree => (mem_searchCells_of_isFree c hfree).symm

theorem findFree?_eq_head? (a : Allocator) (center : Cell) (radius : Nat) :
    a.findFree? center radius = (a.nearestFirst center radius).head? := by
  rw [nearestFirst_eq_filter, List.head?_filter, findFree?_eq_find?]

/-- A cell is free after one is taken if it was free and is another. -/
theorem isFree_take (a : Allocator) (c d : Cell) :
    (a.take c).isFree d = true ↔ a.isFree d = true ∧ d ≠ c := by
  have hreserved := a.isReserved_take c d
  simp only [isFree, mask_take, Bool.and_eq_true, Bool.not_eq_true', Bool.eq_false_iff, ne_eq,
    hreserved]
  tauto

/-- **Taking the head leaves the tail** of the sorted free cells. -/
theorem nearestFirst_take {a : Allocator} {center : Cell} {radius : Nat} {c : Cell}
    {rest : List Cell} (h : a.nearestFirst center radius = c :: rest) :
    (a.take c).nearestFirst center radius = rest := by
  have hsorted := a.nearestFirst_pairwise center radius
  rw [h] at hsorted
  have hnot : c ∉ rest := (List.nodup_cons.mp (Cell.MetBefore.nodup hsorted)).1
  refine Cell.MetBefore.eq_of_mem_iff ((a.take c).nearestFirst_pairwise center radius)
    (List.pairwise_cons.mp hsorted).2 ?_
  intro d
  have hmem : d ∈ c :: rest ↔ a.isFree d = true ∧ d.distance center ≤ radius := by
    rw [← h, mem_nearestFirst]
  rw [List.mem_cons] at hmem
  rw [mem_nearestFirst, isFree_take, and_right_comm, ← hmem]
  constructor
  · rintro ⟨hd, hne⟩
    exact hd.resolve_left hne
  · intro hd
    refine ⟨Or.inr hd, ?_⟩
    rintro rfl
    exact hnot hd

end Allocator

/-! ## One placement -/

namespace World

/-- **The exact cell is what the search would find**, whenever it is taken without a
search. -/
theorem cellNear?_eq_findFreeInWords? (w : World) (row col : Option Int) :
    w.cellNear? row col = w.grid.findFreeInWords? (w.centerFor row col) w.searchRadius := by
  unfold cellNear?
  dsimp only
  split
  · next hexact =>
    have hfree : w.grid.isFree (w.centerFor row col) = true := hexact.2.2
    have hne : w.centerFor row col ≠ .least := Allocator.ne_least_of_isFree hfree
    symm
    rw [Allocator.findFreeInWords?_of_ne hne, Allocator.findFree?_eq_some_iff]
    refine ⟨hfree, ?_, ?_⟩
    · rw [Cell.distance_self]
      exact Nat.zero_le _
    · -- every other cell is at some distance from the centre
      intro d _ hne
      refine (Cell.MetBefore.connex hne).resolve_left ?_
      unfold Cell.MetBefore Cell.Precedes
      rw [Cell.distance_self]
      unfold Cell.distance
      omega
  · rfl

/-- The cells for objects near a position, in the order in which they will be taken. -/
def cellsNear (w : World) (row col : Option Int) : List Cell :=
  w.grid.nearestFirst (w.centerFor row col) w.searchRadius

theorem cellNear?_eq_head? {w : World} {row col : Option Int}
    (hcenter : w.centerFor row col ≠ .least) :
    w.cellNear? row col = (w.cellsNear row col).head? := by
  rw [cellNear?_eq_findFreeInWords?, Allocator.findFreeInWords?_of_ne hcenter,
    Allocator.findFree?_eq_head?, cellsNear]

/-! ## Series of placements -/

/-- Places objects near one and the same position, one after the other: the result of
each, and the world after the last. -/
def placeEachNear (w : World) (row col : Option Int) :
    List (Kind × Details) → List (Except PlacementError Placement) × World
  | [] => ([], w)
  | (kind, details) :: rest =>
    let (result, w) := w.placeNear kind row col details
    let (results, w) := w.placeEachNear row col rest
    (result :: results, w)

/-- What becomes of an object when the cells near the position are given: it stands on
the cell of its turn, or there is none left for it. -/
def resultOn (w : World) (row col : Option Int) (kind : Kind) :
    Option Cell → Except PlacementError Placement
  | some cell => .ok ⟨cell, kind⟩
  | none => .error (.noFreeCell kind (w.centerFor row col) w.searchRadius)

/-- **A series of placements uses up the cells near the position from the front.** -/
theorem placeEachNear_eq {w : World} {row col : Option Int}
    (hcenter : w.centerFor row col ≠ .least) (objects : List (Kind × Details)) :
    (w.placeEachNear row col objects).1 =
      (objects.mapIdx fun i o => w.resultOn row col o.1 (w.cellsNear row col)[i]?) ∧
    (w.placeEachNear row col objects).2.placed =
      w.placed ++ List.zipWith (fun cell o => ⟨cell, o.1, o.2⟩) (w.cellsNear row col) objects := by
  -- each placement changes the world in which the others are made
  induction objects generalizing w with
  | nil => simp [placeEachNear]
  | cons object rest ih =>
    obtain ⟨kind, details⟩ := object
    rw [placeEachNear]
    cases hcells : w.cellsNear row col with
    | nil =>
      have hnone : w.cellNear? row col = none := by
        rw [cellNear?_eq_head? hcenter, hcells]
        rfl
      rw [placeNear_of_none hnone]
      obtain ⟨hresults, hplaced⟩ := ih hcenter
      rw [hcells] at hresults hplaced
      dsimp only
      rw [hresults, hplaced, List.mapIdx_cons]
      simp [resultOn]
    | cons cell cells =>
      have hsome : w.cellNear? row col = some cell := by
        rw [cellNear?_eq_head? hcenter, hcells]
        rfl
      rw [placeNear_of_some hsome]
      have hrest : (w.withObject ⟨cell, kind, details⟩).cellsNear row col = cells :=
        Allocator.nearestFirst_take hcells
      obtain ⟨hresults, hplaced⟩ := ih (w := w.withObject ⟨cell, kind, details⟩) hcenter
      rw [hrest] at hresults hplaced
      dsimp only
      rw [hresults, hplaced, List.mapIdx_cons]
      simp [resultOn, withObject, centerFor]

/-! ## Around the least cell -/

section Least

variable {w : World} {row col : Option Int}
variable (hcenter : w.centerFor row col = .least)
include hcenter

/-- The least cell is farther from every grid than any radius of 32 bits. -/
theorem cellsNear_least (hradius : w.searchRadius ≤ maxWord32) : w.cellsNear row col = [] := by
  refine List.eq_nil_iff_forall_not_mem.mpr ?_
  intro c hc
  rw [cellsNear, Allocator.mem_nearestFirst, hcenter] at hc
  obtain ⟨hfree, hwithin⟩ := hc
  have hin := (w.grid.mask.inBounds_iff c).mp (Allocator.inBounds_of_isFree hfree)
  unfold Cell.distance Cell.least minInt64 at hwithin
  unfold maxWord32 at hradius
  dsimp only at hwithin
  omega

/-- **Around the least cell a placement takes the first cell of the grid**, if that is
free, although it is not within the radius. -/
theorem placeNear_least (hfree : w.grid.isFree ⟨0, 0⟩ = true) (kind : Kind) (details : Details) :
    w.placeNear kind row col details =
      (.ok ⟨⟨0, 0⟩, kind⟩, w.withObject ⟨⟨0, 0⟩, kind, details⟩) := by
  apply placeNear_of_some
  rw [cellNear?_eq_findFreeInWords?, hcenter]
  exact if_pos ⟨rfl, hfree⟩

end Least

/-! ## All free cells in turn -/

end World

end CityScript
