/-
The rings around a centre cut the grid into pieces.

A ring is the part of the grid at its distance, read as the grid is read. So two
rings have no cell in common, and every cell of the grid is on one of them. Which
rings have cells at all is decided on each axis by itself: the coordinates from
zero to a last one are at all the distances between the gap and the reach of the
centre, and at no others. A cell of the grid at distance `d` then needs one
coordinate that is `d` away and another one that is not farther. The reach is the
gap and at most one grid more, wherever the centre is, and this is what bounds the
number of rings.
-/
import CityScript.Proofs.GridCells

set_option autoImplicit false

namespace CityScript

/-! ## A ring as a part of the grid -/

/-- **A ring is the part of the grid at its distance**, in the order of the grid. -/
theorem ring_eq_filter (center : Cell) (d : Int) (size : Nat) :
    ring center d size = (gridCells size).filter fun c => (c.distance center : Int) = d := by
  refine eq_of_pairwise_of_mem_iff (fun _ _ => Cell.Precedes.asymm) (ring_pairwise center d size)
    ((gridCells_pairwise size).filter _) ?_
  intro c
  simp only [mem_ring, List.mem_filter, mem_gridCells, decide_eq_true_eq, and_assoc]

/-- **What a ring lists.** Its cells grow by row and column, so none is there twice, and
they are the cells of the grid at the distance of the ring. That is the listing of the
grid with everything else left out: nothing at a negative distance, and nothing on a grid
without cells. -/
theorem ring_lists_distance (center : Cell) (d : Int) (size : Nat) :
    (ring center d size).Pairwise Cell.Precedes ∧ (ring center d size).Nodup ∧
      (∀ c, c ∈ ring center d size ↔
        (0 ≤ c.row ∧ c.row < size) ∧ (0 ≤ c.col ∧ c.col < size) ∧ (c.distance center : Int) = d) ∧
      ring center d size = (gridCells size).filter fun c => (c.distance center : Int) = d := by
  have hsorted := ring_pairwise center d size
  refine ⟨hsorted, Cell.Precedes.nodup hsorted, ?_, ring_eq_filter center d size⟩
  intro c
  rw [mem_ring, and_assoc, and_assoc]

/-! ## Distances on one axis -/

section Axis

variable {v last : Int}

/-- The gap is bounded on both sides of the axis. -/
theorem axisGap_le_iff (hlast : 0 ≤ last) {k : Nat} :
    axisGap v last ≤ k ↔ -v ≤ k ∧ v - last ≤ k := by
  unfold axisGap
  split
  · omega
  · split <;> omega

/-- **Every distance from the gap to the reach** is that of a coordinate of the grid. -/
theorem exists_natAbs_sub_eq {k : Nat} (hlast : 0 ≤ last) (hgap : axisGap v last ≤ k)
    (hreach : k ≤ axisReach v last) : ∃ u, 0 ≤ u ∧ u ≤ last ∧ (u - v).natAbs = k := by
  rw [axisGap_le_iff hlast] at hgap
  rw [axisReach, le_max_iff] at hreach
  -- below the centre there is room for the distance, or else above it
  by_cases hbelow : 0 ≤ v - k
  · exact ⟨v - k, hbelow, by omega, by omega⟩
  · exact ⟨v + k, by omega, by omega, by omega⟩

theorem axisGap_le_axisReach (hlast : 0 ≤ last) : axisGap v last ≤ axisReach v last :=
  le_trans (axisGap_le v ⟨le_rfl, hlast⟩) (le_axisReach v ⟨le_rfl, hlast⟩)

/-- The gap itself is such a distance, so within any distance that is not less there is a
coordinate of the grid. -/
theorem exists_natAbs_sub_le {k : Nat} (hlast : 0 ≤ last) (hgap : axisGap v last ≤ k) :
    ∃ u, 0 ≤ u ∧ u ≤ last ∧ (u - v).natAbs ≤ k := by
  obtain ⟨u, hu, hu', hdist⟩ :=
    exists_natAbs_sub_eq hlast le_rfl (axisGap_le_axisReach (v := v) hlast)
  exact ⟨u, hu, hu', hdist ▸ hgap⟩

/-- From the gap to the reach it is not farther than from end to end. -/
theorem axisReach_le (hlast : 0 ≤ last) : (axisReach v last : Int) ≤ axisGap v last + last := by
  unfold axisReach axisGap
  split
  · omega
  · split <;> omega

end Axis

/-! ## The rings that meet the grid -/

section Span

variable {center : Cell} {size nearest farthest : Nat}
variable (hspan : ringSpan? center size = some (nearest, farthest))
include hspan

/-- **Between the first and the last ring no distance is left out.** -/
theorem exists_distance_eq {d : Nat} (hnear : nearest ≤ d) (hfar : d ≤ farthest) :
    ∃ c ∈ gridCells size, c.distance center = d := by
  obtain ⟨hsize, rfl, rfl⟩ := ringSpan?_eq_some_iff.mp hspan
  obtain ⟨hgapRow, hgapCol⟩ := max_le_iff.mp hnear
  have hlast : 0 ≤ (size : Int) - 1 := by omega
  -- on the axis that reaches so far one coordinate is `d` away, on the other one is within `d`
  rcases le_max_iff.mp hfar with hreach | hreach
  · obtain ⟨row, hrow, hrow', hdr⟩ := exists_natAbs_sub_eq hlast hgapRow hreach
    obtain ⟨col, hcol, hcol', hdc⟩ := exists_natAbs_sub_le hlast hgapCol
    refine ⟨⟨row, col⟩, mem_gridCells.mpr (by dsimp only; omega), ?_⟩
    rw [Cell.distance, hdr, max_eq_left hdc]
  · obtain ⟨row, hrow, hrow', hdr⟩ := exists_natAbs_sub_le hlast hgapRow
    obtain ⟨col, hcol, hcol', hdc⟩ := exists_natAbs_sub_eq hlast hgapCol hreach
    refine ⟨⟨row, col⟩, mem_gridCells.mpr (by dsimp only; omega), ?_⟩
    rw [Cell.distance, hdc, max_eq_right hdr]

/-- **The span is tight**: the rings that have cells are those from the first to the last. -/
theorem ring_ne_nil_iff (d : Int) : ring center d size ≠ [] ↔ nearest ≤ d ∧ d ≤ farthest := by
  have hmeets : ring center d size ≠ [] ↔ ∃ c ∈ gridCells size, (c.distance center : Int) = d := by
    rw [ring_eq_filter, ne_eq, List.filter_eq_nil_iff]
    simp
  rw [hmeets]
  constructor
  · rintro ⟨c, hc, rfl⟩
    obtain ⟨hnear, hfar⟩ := distance_mem_ringSpan hspan (mem_gridCells.mp hc)
    exact ⟨Int.ofNat_le.mpr hnear, Int.ofNat_le.mpr hfar⟩
  · rintro ⟨hnear, hfar⟩
    obtain ⟨k, rfl⟩ := Int.eq_ofNat_of_zero_le (le_trans (Int.natCast_nonneg nearest) hnear)
    obtain ⟨c, hc, hdist⟩ :=
      exists_distance_eq hspan (Int.ofNat_le.mp hnear) (Int.ofNat_le.mp hfar)
    exact ⟨c, hc, congrArg Nat.cast hdist⟩

theorem nearest_le_farthest : nearest ≤ farthest := by
  obtain ⟨hsize, rfl, rfl⟩ := ringSpan?_eq_some_iff.mp hspan
  have hlast : 0 ≤ (size : Int) - 1 := by omega
  exact max_le_max (axisGap_le_axisReach hlast) (axisGap_le_axisReach hlast)

/-- There are at most as many rings as the grid has rows. -/
theorem farthest_lt_nearest_add : farthest < nearest + size := by
  obtain ⟨hsize, rfl, rfl⟩ := ringSpan?_eq_some_iff.mp hspan
  have hlast : 0 ≤ (size : Int) - 1 := by omega
  have hrow := axisReach_le (v := center.row) hlast
  have hcol := axisReach_le (v := center.col) hlast
  omega

/-- **The rings are a partition of the grid**: one after the other, from the first to the
last, they list every cell of it once. -/
theorem rings_perm_gridCells :
    ((List.range' nearest (farthest + 1 - nearest)).flatMap fun (d : Nat) =>
      ring center d size).Perm (gridCells size) := by
  have hsorted : ((List.range' nearest (farthest + 1 - nearest)).flatMap fun (d : Nat) =>
      ring center d size).Pairwise (Cell.MetBefore center) := by
    refine rings_pairwise center List.pairwise_lt_range' (fun d => ring_pairwise center d size) ?_
    intro d c hc
    exact Int.ofNat_inj.mp (mem_ring.mp hc).2.2.2.2
  refine (List.perm_ext_iff_of_nodup (Cell.MetBefore.nodup hsorted)
    (gridCells_nodup size)).mpr ?_
  intro c
  simp only [List.mem_flatMap, ring_eq_filter, List.mem_filter, decide_eq_true_eq]
  constructor
  · rintro ⟨d, -, hc, -⟩
    exact hc
  · -- the ring of a cell of the grid is not left out
    intro hc
    have hwithin := distance_mem_ringSpan hspan (mem_gridCells.mp hc)
    exact ⟨c.distance center, List.mem_range'_1.mpr (by omega), hc, rfl⟩

end Span

end CityScript
