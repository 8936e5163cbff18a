/-
The cells of a grid as a list, and how many of them are land.

A mask stores its cells row after row, and the listing below goes through them in
just that order: the cell at the index `i` is in the row `i / size` and in the
column `i % size`. So the stored truth values are the listing with every cell
replaced by whether it is land, and whatever is counted on the mask is counted on
the listing.
-/
import Mathlib.Data.List.Perm.Subperm
import CityScript.Proofs.NearestCell

set_option autoImplicit false

namespace CityScript

/-! ## The listing -/

/-- The cells of a grid as it is read. -/
def gridCells (size : Nat) : List Cell :=
  (List.range (size * size)).map fun i => ⟨(i / size : Nat), (i % size : Nat)⟩

theorem length_gridCells (size : Nat) : (gridCells size).length = size * size := by
  rw [gridCells, List.length_map, List.length_range]

/-- The listing holds the cells of the grid and no others. -/
theorem mem_gridCells {size : Nat} {c : Cell} :
    c ∈ gridCells size ↔ 0 ≤ c.row ∧ c.row < size ∧ 0 ≤ c.col ∧ c.col < size := by
  obtain ⟨row, col⟩ := c
  simp only [gridCells, List.mem_map, List.mem_range, Cell.mk.injEq]
  constructor
  · rintro ⟨i, hi, rfl, rfl⟩
    have hsize : 0 < size := Nat.pos_of_ne_zero (by rintro rfl; simp at hi)
    have hrow : i / size < size := Nat.div_lt_of_lt_mul hi
    have hcol : i % size < size := Nat.mod_lt i hsize
    exact ⟨Int.natCast_nonneg _, Int.ofNat_lt.mpr hrow, Int.natCast_nonneg _,
      Int.ofNat_lt.mpr hcol⟩
  · rintro ⟨hrow, hrow', hcol, hcol'⟩
    obtain ⟨r, rfl⟩ := Int.eq_ofNat_of_zero_le hrow
    obtain ⟨k, rfl⟩ := Int.eq_ofNat_of_zero_le hcol
    have hr : r < size := by omega
    have hk : k < size := by omega
    -- the cell stands at the index `r * size + k`, and division by `size` gives back both parts
    refine ⟨r * size + k, ?_, ?_, ?_⟩
    · calc r * size + k < r * size + size := by omega
        _ = (r + 1) * size := (Nat.succ_mul r size).symm
        _ ≤ size * size := Nat.mul_le_mul_right size hr
    · rw [Nat.mul_comm r size, Nat.mul_add_div (by omega), Nat.div_eq_of_lt hk, Nat.add_zero]
    · rw [Nat.mul_comm r size, Nat.mul_add_mod, Nat.mod_eq_of_lt hk]

/-- The listing goes through the grid as it is read. -/
theorem gridCells_pairwise (size : Nat) : (gridCells size).Pairwise Cell.Precedes := by
  rw [gridCells, List.pairwise_map]
  refine List.pairwise_lt_range.imp ?_
  intro i j hij
  unfold Cell.Precedes
  dsimp only
  have hdiv : i / size ≤ j / size := Nat.div_le_div_right (Nat.le_of_lt hij)
  have hi := Nat.div_add_mod i size
  have hj := Nat.div_add_mod j size
  -- the greater index is in a later row, or in the same row with a greater remainder
  by_cases hrow : i / size = j / size
  · rw [hrow] at hi
    omega
  · omega

theorem gridCells_nodup (size : Nat) : (gridCells size).Nodup :=
  Cell.Precedes.nodup (gridCells_pairwise size)

/-- Cells of a grid with none twice are not more than the grid has. -/
theorem length_le_of_nodup {size : Nat} {cells : List Cell} (hnodup : cells.Nodup)
    (hgrid : cells ⊆ gridCells size) : cells.length ≤ size * size := by
  have hlength := (List.Nodup.subperm hnodup hgrid).length_le
  rwa [length_gridCells] at hlength

/-! ## Land -/

namespace Mask

/-- **Storage of a mask.** The stored truth values say of each cell in reading order
whether it is land. -/
theorem toList_cells (m : Mask) : m.cells.toList = (gridCells m.size).map m.isLand := by
  refine List.ext_getElem ?_ ?_
  · simp [gridCells, m.size_cells]
  · intro i h₁ h₂
    have hi : i < m.size * m.size := by simpa [gridCells] using h₂
    have hcell : (⟨(i / m.size : Nat), (i % m.size : Nat)⟩ : Cell) ∈ gridCells m.size :=
      List.mem_map.mpr ⟨i, List.mem_range.mpr hi, rfl⟩
    -- row and column of the `i`-th cell lead back to the index `i` of the storage
    have hindex : i / m.size * m.size + i % m.size = i := by
      rw [Nat.mul_comm]
      exact Nat.div_add_mod i m.size
    have hin := (m.inBounds_iff _).mpr (mem_gridCells.mp hcell)
    simp only [gridCells, List.map_map, List.getElem_map, List.getElem_range, Function.comp_apply]
    rw [isLand, hin, Bool.true_and]
    simp only [Int.toNat_natCast, hindex]
    rw [Array.getElem?_eq_getElem (by rw [m.size_cells]; exact hi), Option.getD_some,
      Array.getElem_toList]

/-- The land of a mask is the land in its listing. -/
theorem landCount_eq (m : Mask) : m.landCount = ((gridCells m.size).filter m.isLand).length := by
  rw [landCount, ← Array.count_toList, toList_cells, ← List.countP_eq_length_filter, List.count,
    List.countP_map]
  refine List.countP_congr ?_
  intro c _
  simp

end Mask

/-! ## Free and taken cells -/

namespace Allocator

/-- The free cells, as the grid is read. -/
def freeCells (a : Allocator) : List Cell := (gridCells a.mask.size).filter a.isFree

theorem mem_freeCells {a : Allocator} {c : Cell} : c ∈ a.freeCells ↔ a.isFree c = true := by
  rw [freeCells, List.mem_filter, mem_gridCells, ← Mask.inBounds_iff]
  exact and_iff_right_of_imp inBounds_of_isFree

theorem freeCells_nodup (a : Allocator) : a.freeCells.Nodup :=
  (gridCells_nodup a.mask.size).filter a.isFree

/-- The taken cells are those of a list that has none twice, and all of them are land. -/
structure Holds (a : Allocator) (cells : List Cell) : Prop where
  nodup : cells.Nodup
  isReserved_iff : ∀ c, a.isReserved c = true ↔ c ∈ cells
  reservedCount_eq : a.reservedCount = cells.length
  isLand : ∀ c ∈ cells, a.mask.isLand c = true

theorem holds_ofMask (mask : Mask) : (ofMask mask).Holds [] where
  nodup := List.nodup_nil
  isReserved_iff := by simp
  reservedCount_eq := rfl
  isLand := by simp

namespace Holds

variable {a : Allocator} {cells : List Cell}

/-- The free cells are the land that is not in the list. -/
theorem isFree_iff (h : a.Holds cells) (c : Cell) :
    a.isFree c = true ↔ a.mask.isLand c = true ∧ c ∉ cells := by
  rw [isFree, Bool.and_eq_true, Bool.not_eq_true', ← h.isReserved_iff, Bool.not_eq_true]

/-- **A free cell that is taken** comes to the list. -/
theorem take (h : a.Holds cells) {c : Cell} (hfree : a.isFree c = true) :
    (a.take c).Holds (cells ++ [c]) := by
  obtain ⟨hland, hnew⟩ := (h.isFree_iff c).mp hfree
  refine ⟨?_, ?_, ?_, ?_⟩
  · rw [List.nodup_append]
    refine ⟨h.nodup, List.pairwise_singleton _ _, ?_⟩
    intro b hb d hd hbd
    rw [List.mem_singleton.mp hd] at hbd
    exact hnew (hbd ▸ hb)
  · intro d
    rw [isReserved_take, List.mem_append, List.mem_singleton, ← h.isReserved_iff, or_comm]
  · have htaken : a.isReserved c = false := by
      rw [← Bool.not_eq_true, h.isReserved_iff]
      exact hnew
    rw [reservedCount_take htaken, h.reservedCount_eq, List.length_append, List.length_singleton]
  · intro d hd
    rcases List.mem_append.mp hd with hd | hd
    · exact h.isLand d hd
    · exact List.mem_singleton.mp hd ▸ hland

/-- **Land is free or taken**: the taken cells and the free ones make up the land. -/
theorem length_add_length_freeCells (h : a.Holds cells) :
    cells.length + a.freeCells.length = a.mask.landCount := by
  have hfree : ((gridCells a.mask.size).filter a.mask.isLand).filter (fun c => !a.isReserved c) =
      a.freeCells := by
    rw [List.filter_filter, freeCells]
    refine List.filter_congr ?_
    intro c _
    rw [isFree, Bool.and_comm]
  have htaken : (((gridCells a.mask.size).filter a.mask.isLand).filter a.isReserved).Perm
      cells := by
    refine (List.perm_ext_iff_of_nodup (((gridCells_nodup _).filter _).filter _) h.nodup).mpr ?_
    intro c
    rw [List.mem_filter, List.mem_filter, h.isReserved_iff, mem_gridCells, ← Mask.inBounds_iff]
    constructor
    · exact fun hc => hc.2
    · intro hc
      have hl := h.isLand c hc
      refine ⟨⟨?_, hl⟩, hc⟩
      rw [Mask.isLand, Bool.and_eq_true] at hl
      exact hl.1
  calc cells.length + a.freeCells.length
      = (((gridCells a.mask.size).filter a.mask.isLand).filter a.isReserved).length +
          (((gridCells a.mask.size).filter a.mask.isLand).filter
            fun c => !a.isReserved c).length := by rw [htaken.length_eq, hfree]
    _ = ((gridCells a.mask.size).filter a.mask.isLand).length :=
        (List.length_eq_length_filter_add a.isReserved).symm
    _ = a.mask.landCount := a.mask.landCount_eq.symm

end Holds

end Allocator

end CityScript
