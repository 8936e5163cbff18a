/-
What the search for a free cell finds: the nearest one, and the first one as the
grid is read among the nearest.

The search does less work than it says. It looks at no ring that misses the grid,
it clips the offsets of a ring to the grid, and in the inner rows of a ring it
tries two columns only. The plain scan below does none of that: it goes through
every ring up to the radius, and on it through all pairs of offsets, of which it
keeps those on the ring. Both make a list that is sorted by `Cell.MetBefore`, and
both lists have the same free cells, because a free cell lies on the grid. By
`find?_eq_some_iff_of_pairwise` they have the same first hit.

The centre may lie anywhere, and the grid may have no cells at all.
-/
import Mathlib.Order.MinMax
import Mathlib.Tactic.Push
import Mathlib.Tactic.ByContra
import CityScript.Proofs.RingOrder

set_option autoImplicit false

namespace CityScript

/-! ## Rings one after the other -/

/-- Lists of cells at growing distances, each in reading order, make a list in the
order of a search. -/
theorem rings_pairwise (center : Cell) {distances : List Nat}
    (hdistances : distances.Pairwise (· < ·)) {cells : Nat → List Cell}
    (hread : ∀ d, (cells d).Pairwise Cell.Precedes)
    (hdist : ∀ d, ∀ c ∈ cells d, c.distance center = d) :
    (distances.flatMap cells).Pairwise (Cell.MetBefore center) := by
  rw [List.pairwise_flatMap]
  constructor
  -- on one ring reading order decides, between two rings the distance does
  · intro d _
    refine (hread d).imp_of_mem ?_
    intro b c hb hc h
    exact Or.inr ⟨by rw [hdist d b hb, hdist d c hc], h⟩
  · refine hdistances.imp ?_
    intro d e h b hb c hc
    exact Or.inl (by rw [hdist d b hb, hdist e c hc]; exact h)

/-! ## The cells that the search looks at -/

/-- A cell inside the grid. -/
theorem Mask.inBounds_iff (m : Mask) (c : Cell) :
    m.inBounds c = true ↔ 0 ≤ c.row ∧ c.row < m.size ∧ 0 ≤ c.col ∧ c.col < m.size := by
  simp [Mask.inBounds]

/-- A coordinate on the grid is at least the gap away. -/
theorem axisGap_le (v : Int) {last u : Int} (hu : 0 ≤ u ∧ u ≤ last) :
    axisGap v last ≤ (u - v).natAbs := by
  unfold axisGap
  split
  · omega
  · split <;> omega

/-- A coordinate on the grid is at most the reach away. -/
theorem le_axisReach (v : Int) {last u : Int} (hu : 0 ≤ u ∧ u ≤ last) :
    (u - v).natAbs ≤ axisReach v last := by
  unfold axisReach
  omega

/-- The first and the last ring that meet a grid, axis by axis. -/
theorem ringSpan?_eq_some_iff {center : Cell} {size nearest farthest : Nat} :
    ringSpan? center size = some (nearest, farthest) ↔
      0 < size ∧ nearest = max (axisGap center.row (size - 1)) (axisGap center.col (size - 1)) ∧
        farthest = max (axisReach center.row (size - 1)) (axisReach center.col (size - 1)) := by
  unfold ringSpan?
  by_cases hsize : size = 0
  · simp [hsize]
  · simp only [hsize, if_false, Option.some.injEq, Prod.mk.injEq, Nat.pos_of_ne_zero hsize,
      true_and, eq_comm]

/-- A grid with cells is met by rings. -/
theorem exists_ringSpan? (center : Cell) {size : Nat} (hsize : 0 < size) :
    ∃ nearest farthest, ringSpan? center size = some (nearest, farthest) :=
  ⟨_, _, ringSpan?_eq_some_iff.mpr ⟨hsize, rfl, rfl⟩⟩

/-- Every cell of a grid lies between the first and the last ring that meet it. -/
theorem distance_mem_ringSpan {center : Cell} {size nearest farthest : Nat}
    (hspan : ringSpan? center size = some (nearest, farthest)) {c : Cell}
    (hc : 0 ≤ c.row ∧ c.row < size ∧ 0 ≤ c.col ∧ c.col < size) :
    nearest ≤ c.distance center ∧ c.distance center ≤ farthest := by
  obtain ⟨-, rfl, rfl⟩ := ringSpan?_eq_some_iff.mp hspan
  have hrow : 0 ≤ c.row ∧ c.row ≤ (size : Int) - 1 := by omega
  have hcol : 0 ≤ c.col ∧ c.col ≤ (size : Int) - 1 := by omega
  constructor
  · exact max_le_max (axisGap_le center.row hrow) (axisGap_le center.col hcol)
  · exact max_le_max (le_axisReach center.row hrow) (le_axisReach center.col hcol)

namespace Allocator

/-- The cells that a search looks at, in its order, up to the last ring. -/
def searchCells (a : Allocator) (center : Cell) (radius : Nat) : List Cell :=
  (a.searchRings center radius).flatMap fun (d : Nat) => ring center d a.mask.size

/-- The search takes the first free cell of its listing. -/
theorem findFree?_eq_find? (a : Allocator) (center : Cell) (radius : Nat) :
    a.findFree? center radius = (a.searchCells center radius).find? a.isFree := by
  rw [findFree?, searchCells, List.find?_flatMap]

theorem searchRings_pairwise (a : Allocator) (center : Cell) (radius : Nat) :
    (a.searchRings center radius).Pairwise (· < ·) := by
  unfold searchRings
  split
  · exact List.Pairwise.nil
  · exact List.pairwise_lt_range'

theorem searchCells_pairwise (a : Allocator) (center : Cell) (radius : Nat) :
    (a.searchCells center radius).Pairwise (Cell.MetBefore center) := by
  refine rings_pairwise center (a.searchRings_pairwise center radius) ?_ ?_
  · intro d
    exact ring_pairwise center d a.mask.size
  · intro d c hc
    rw [mem_ring] at hc
    exact_mod_cast hc.2.2.2.2

/-- **The listing of a search.** It holds the cells of the grid within the radius,
although it leaves out all rings that miss the grid. -/
theorem mem_searchCells (a : Allocator) (center : Cell) (radius : Nat) (c : Cell) :
    c ∈ a.searchCells center radius ↔
      a.mask.inBounds c = true ∧ c.distance center ≤ radius := by
  rw [searchCells, List.mem_flatMap, Mask.inBounds_iff]
  simp only [mem_ring]
  constructor
  · rintro ⟨d, hd, hrow, hrow', hcol, hcol', hdist⟩
    refine ⟨⟨hrow, hrow', hcol, hcol'⟩, ?_⟩
    unfold searchRings at hd
    split at hd
    · cases hd
    · rw [List.mem_range'_1] at hd
      omega
  · -- the ring of a cell of the grid is one that meets the grid, so it was not left out
    rintro ⟨hc, hradius⟩
    have hsize : 0 < a.mask.size := by omega
    obtain ⟨nearest, farthest, hspan⟩ := exists_ringSpan? center hsize
    obtain ⟨hnear, hfar⟩ := distance_mem_ringSpan hspan hc
    refine ⟨c.distance center, ?_, hc.1, hc.2.1, hc.2.2.1, hc.2.2.2, rfl⟩
    rw [searchRings, hspan]
    dsimp only
    rw [List.mem_range'_1]
    omega

end Allocator

/-! ## The plain scan -/

/-- All cells at distance `d` from a centre, on the grid or not, from all pairs of
offsets up to `d`. -/
def scanRing (center : Cell) (d : Nat) : List Cell :=
  (intRange (-d) d).flatMap fun dr =>
    ((intRange (-d) d).filter fun dc => decide (dr.natAbs = d ∨ dc.natAbs = d)).map fun dc =>
      ⟨center.row + dr, center.col + dc⟩

theorem mem_scanRing (center : Cell) (d : Nat) (c : Cell) :
    c ∈ scanRing center d ↔ c.distance center = d := by
  obtain ⟨row, col⟩ := c
  simp only [scanRing, List.mem_flatMap, List.mem_map, List.mem_filter, mem_intRange,
    decide_eq_true_eq, Cell.distance, Cell.mk.injEq]
  constructor
  · rintro ⟨dr, hdr, dc, ⟨hdc, hon⟩, hrow, hcol⟩
    omega
  · intro h
    exact ⟨row - center.row, by omega, col - center.col, ⟨by omega, by omega⟩, by omega, by omega⟩

theorem scanRing_pairwise (center : Cell) (d : Nat) :
    (scanRing center d).Pairwise Cell.Precedes := by
  refine offsets_pairwise center (intRange_pairwise _ _) ?_
  intro dr _
  exact (intRange_pairwise _ _).filter _

namespace Allocator

/-- The search as it is meant: every ring from the centre to the radius, every cell
of it, and the first that is free. -/
def scan (a : Allocator) (center : Cell) (radius : Nat) : Option Cell :=
  (List.range (radius + 1)).findSome? fun (d : Nat) => (scanRing center d).find? a.isFree

/-- The plain scan takes the first free cell of its listing. -/
theorem scan_eq_find? (a : Allocator) (center : Cell) (radius : Nat) :
    a.scan center radius =
      ((List.range (radius + 1)).flatMap (scanRing center)).find? a.isFree := by
  rw [scan, List.find?_flatMap]

/-! ## The nearest free cell -/

/-- The cell that a search has to find: it is free, it is within the radius, and a
search meets it before any other free cell. -/
structure IsNearestFree (a : Allocator) (center : Cell) (radius : Nat) (c : Cell) : Prop where
  isFree : a.isFree c = true
  within : c.distance center ≤ radius
  first : ∀ d, a.isFree d = true → d ≠ c → Cell.MetBefore center c d

/-- A free cell is on the grid. -/
theorem inBounds_of_isFree {a : Allocator} {c : Cell} (h : a.isFree c = true) :
    a.mask.inBounds c = true := by
  rw [isFree, Bool.and_eq_true, Mask.isLand, Bool.and_eq_true] at h
  exact h.1.1

/-- A free cell is no cell with a negative row. -/
theorem ne_least_of_isFree {a : Allocator} {c : Cell} (h : a.isFree c = true) : c ≠ .least := by
  have hin := (a.mask.inBounds_iff c).mp (inBounds_of_isFree h)
  rintro rfl
  exact absurd hin.1 (by decide)

section Listing

variable {a : Allocator} {center : Cell} {radius : Nat} {cells : List Cell}

/-- The first free cell of a sorted listing is the nearest one, when the listing
holds of the free cells just those within the radius. -/
theorem find?_isFree_eq_some_iff (hsorted : cells.Pairwise (Cell.MetBefore center))
    (hmem : ∀ c, a.isFree c = true → (c ∈ cells ↔ c.distance center ≤ radius)) (c : Cell) :
    cells.find? a.isFree = some c ↔ a.IsNearestFree center radius c := by
  rw [find?_eq_some_iff_of_pairwise (fun _ _ => Cell.MetBefore.asymm) hsorted]
  constructor
  · rintro ⟨hc, hfree, hmin⟩
    have hwithin : c.distance center ≤ radius := (hmem c hfree).mp hc
    refine ⟨hfree, hwithin, ?_⟩
    intro d hd hne
    by_cases hr : d.distance center ≤ radius
    · exact hmin d ((hmem d hd).mpr hr) hd hne
    · -- a free cell outside the listing is farther away than any in it
      exact Or.inl (by omega)
  · rintro ⟨hfree, hwithin, hfirst⟩
    exact ⟨(hmem c hfree).mpr hwithin, hfree, fun d _ hd hne => hfirst d hd hne⟩

/-- Such a listing has no free cell exactly if none is within the radius. -/
theorem find?_isFree_eq_none_iff
    (hmem : ∀ c, a.isFree c = true → (c ∈ cells ↔ c.distance center ≤ radius)) :
    cells.find? a.isFree = none ↔ ∀ c, a.isFree c = true → radius < c.distance center := by
  rw [List.find?_eq_none]
  constructor
  · intro h c hfree
    by_contra hr
    exact h c ((hmem c hfree).mpr (by omega)) hfree
  · intro h c hc hfree
    have hr := h c hfree
    have hwithin := (hmem c hfree).mp hc
    omega

end Listing

/-- Of the free cells the search lists just those within the radius. -/
theorem mem_searchCells_of_isFree {a : Allocator} {center : Cell} {radius : Nat} (c : Cell)
    (h : a.isFree c = true) :
    c ∈ a.searchCells center radius ↔ c.distance center ≤ radius := by
  rw [mem_searchCells, and_iff_right (inBounds_of_isFree h)]

/-- **Soundness and completeness of the search.** -/
theorem findFree?_eq_some_iff (a : Allocator) (center : Cell) (radius : Nat) (c : Cell) :
    a.findFree? center radius = some c ↔ a.IsNearestFree center radius c := by
  rw [findFree?_eq_find?]
  exact find?_isFree_eq_some_iff (a.searchCells_pairwise center radius)
    mem_searchCells_of_isFree c

/-- What the search finds is free. -/
theorem isFree_of_findFree? {a : Allocator} {center : Cell} {radius : Nat} {c : Cell}
    (h : a.findFree? center radius = some c) : a.isFree c = true :=
  ((a.findFree?_eq_some_iff center radius c).mp h).isFree

theorem isFree_of_findFreeInWords? {a : Allocator} {center : Cell} {radius : Nat} {c : Cell}
    (h : a.findFreeInWords? center radius = some c) : a.isFree c = true := by
  unfold findFreeInWords? at h
  split at h
  · next hleast =>
    cases h
    exact hleast.2
  · exact isFree_of_findFree? h

/-- The search fails exactly if there is no free cell within the radius. -/
theorem findFree?_eq_none_iff (a : Allocator) (center : Cell) (radius : Nat) :
    a.findFree? center radius = none ↔
      ∀ c, a.isFree c = true → radius < c.distance center := by
  rw [findFree?_eq_find?]
  exact find?_isFree_eq_none_iff mem_searchCells_of_isFree

/-- The plain scan finds the nearest free cell. -/
theorem scan_eq_some_iff (a : Allocator) (center : Cell) (radius : Nat) (c : Cell) :
    a.scan center radius = some c ↔ a.IsNearestFree center radius c := by
  rw [scan_eq_find?]
  refine find?_isFree_eq_some_iff ?_ ?_ c
  · refine rings_pairwise center List.pairwise_lt_range (scanRing_pairwise center) ?_
    intro d c hc
    rwa [mem_scanRing] at hc
  · intro c _
    simp only [List.mem_flatMap, List.mem_range, mem_scanRing]
    constructor
    · rintro ⟨d, hd, hc⟩
      omega
    · intro h
      exact ⟨c.distance center, by omega, rfl⟩

/-- **The search is the plain scan**, and what it finds is the nearest free cell: it
finds one exactly if there is one within the radius, it finds nothing exactly if
there is none, and of the free cells it finds the one that comes first by distance,
row and column. -/
theorem nearestFreeCell_exact (a : Allocator) (center : Cell) (radius : Nat) :
    ((∃ c, a.findFree? center radius = some c) ↔
      ∃ c, a.isFree c = true ∧ c.distance center ≤ radius) ∧
    (∀ c, a.findFree? center radius = some c ↔
      a.isFree c = true ∧ c.distance center ≤ radius ∧
        ∀ d, a.isFree d = true → d ≠ c → Cell.MetBefore center c d) ∧
    (a.findFree? center radius = none ↔
      ∀ c, a.isFree c = true → ¬ c.distance center ≤ radius) ∧
    a.findFree? center radius = a.scan center radius := by
  have hnone : a.findFree? center radius = none ↔
      ∀ c, a.isFree c = true → ¬ c.distance center ≤ radius := by
    rw [findFree?_eq_none_iff]
    simp only [Nat.not_le]
  refine ⟨?_, ?_, hnone, ?_⟩
  · rw [← Option.ne_none_iff_exists', ne_eq, hnone]
    push Not
    rfl
  · intro c
    rw [findFree?_eq_some_iff]
    exact ⟨fun h => ⟨h.isFree, h.within, h.first⟩, fun h => ⟨h.1, h.2.1, h.2.2⟩⟩
  · refine Option.ext ?_
    intro c
    rw [findFree?_eq_some_iff, scan_eq_some_iff]

end Allocator

end CityScript
