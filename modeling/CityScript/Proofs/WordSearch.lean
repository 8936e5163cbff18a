/-
The search for a free cell in machine arithmetic: with coordinates in signed words
of 64 bits and distances in unsigned ones, it is the search over the integers.

The definitions of `Words` below compute in words that wrap around. Distances do not
wrap, wherever the centre is: the difference of two words fits an unsigned one
(`toNat_distance`). The corners of a ring can wrap. They do not on the rings that a
search visits, because a visited ring reaches the grid and is not farther away than
the radius, so the centre is near the grid (`ringFits`). A centre far away has no
such ring, and what would wrap there is not computed.

The least word is its own negation. A search around two of them starts at the ring whose
number is the least word, and that ring has the first cell of the grid. Around one of
them it finds nothing, as over the integers (`map_cell_findFree?_all`).
-/
import Mathlib.Data.List.Basic
import CityScript.Number.Word
import CityScript.Proofs.NearestCell

set_option autoImplicit false

namespace CityScript

/-- A row and a column in words. -/
structure WordCell where
  row : Int64
  col : Int64
  deriving DecidableEq

/-- The cell that two words stand for. -/
def WordCell.cell (c : WordCell) : Cell := ⟨c.row.toInt, c.col.toInt⟩

/-- An integer that a signed word of 64 bits holds. -/
def FitsWord (n : Int) : Prop := minInt64 ≤ n ∧ n ≤ maxInt64

namespace Words

/-! ## Rings in words -/

/-- The words from a lower to an upper one, both included. -/
def range (low high : Int64) : List Int64 :=
  (List.range (high.toInt + 1 - low.toInt).toNat).map fun (i : Nat) => low + Int64.ofNat i

/-- The index of the last row and of the last column of a grid. -/
def lastIndex (size : Nat) : Int64 := Int64.ofNat size - 1

/-- The column offsets of a row of a ring. -/
def columns (d low high dr : Int64) : List Int64 :=
  if dr.abs = d then range low high
  else [-d, d].filter fun dc => decide (low ≤ dc) && decide (dc ≤ high)

/-- The cells of a grid at distance `d` from a centre. -/
def ring (center : WordCell) (d : Int64) (size : Nat) : List WordCell :=
  let last := lastIndex size
  let lowCol := max (-d) (-center.col)
  let highCol := min d (last - center.col)
  (range (max (-d) (-center.row)) (min d (last - center.row))).flatMap fun dr =>
    (columns d lowCol highCol dr).map fun dc => ⟨center.row + dr, center.col + dc⟩

/-! ## Distances in words -/

/-- The absolute value, in an unsigned word. -/
def unsignedAbs (v : Int64) : UInt64 := v.abs.toUInt64

/-- The absolute difference, in an unsigned word. -/
def absDiff (a b : Int64) : UInt64 :=
  if a < b then b.toUInt64 - a.toUInt64 else a.toUInt64 - b.toUInt64

def axisGap (v last : Int64) : UInt64 :=
  if v < 0 then unsignedAbs v else if last < v then absDiff v last else 0

def distance (a b : WordCell) : UInt64 := max (absDiff a.row b.row) (absDiff a.col b.col)

/-- The first and the last ring that meet a grid. The last is the one of the corner
farthest away. -/
def ringSpan? (center : WordCell) (size : Nat) : Option (UInt64 × UInt64) :=
  let last := lastIndex size
  if last < 0 then none
  else
    let corners : List WordCell := [⟨0, 0⟩, ⟨0, last⟩, ⟨last, 0⟩, ⟨last, last⟩]
    some (max (axisGap center.row last) (axisGap center.col last),
      (corners.map fun c => distance center c).max?.getD 0)

/-! ## The search in words -/

/-- The rings that a search visits. Both bounds are cast to signed words. -/
def searchRings (a : Allocator) (center : WordCell) (radius : UInt32) : List Int64 :=
  match ringSpan? center a.mask.size with
  | none => []
  | some (nearest, farthest) =>
    range nearest.toInt64 (min radius.toUInt64 farthest).toInt64

/-- The first free cell on the rings around a centre, up to a radius. -/
def findFree? (a : Allocator) (center : WordCell) (radius : UInt32) : Option WordCell :=
  (searchRings a center radius).findSome? fun d =>
    (ring center d a.mask.size).find? fun c => a.isFree c.cell

/-! ## Words and the integers they stand for -/

theorem fitsWord_toInt (a : Int64) : FitsWord a.toInt := by
  have hlow := a.le_toInt
  have hhigh := a.toInt_lt
  unfold FitsWord minInt64 maxInt64
  omega

/-- An integer that fits a word is not changed by the wrapping. -/
theorem bmod_eq_of_fits {n : Int} (h : FitsWord n) : n.bmod Int64.size = n := by
  have hword : (Int64.size : Int) = 18446744073709551616 := rfl
  unfold FitsWord minInt64 maxInt64 at h
  exact Int.bmod_eq_of_le (by omega) (by omega)

theorem toInt_add_of_fits {a b : Int64} (h : FitsWord (a.toInt + b.toInt)) :
    (a + b).toInt = a.toInt + b.toInt := by
  rw [Int64.toInt_add]
  exact bmod_eq_of_fits h

theorem toInt_sub_of_fits {a b : Int64} (h : FitsWord (a.toInt - b.toInt)) :
    (a - b).toInt = a.toInt - b.toInt := by
  rw [Int64.toInt_sub]
  exact bmod_eq_of_fits h

theorem toInt_neg_of_fits {a : Int64} (h : FitsWord (-a.toInt)) : (-a).toInt = -a.toInt := by
  rw [Int64.toInt_neg]
  exact bmod_eq_of_fits h

theorem toInt_max (a b : Int64) : (max a b).toInt = max a.toInt b.toInt := by
  have hmax : max a b = if a ≤ b then b else a := rfl
  rw [hmax, Int.max_def, apply_ite Int64.toInt]
  simp only [Int64.le_iff_toInt_le]

theorem toInt_min (a b : Int64) : (min a b).toInt = min a.toInt b.toInt := by
  have hmin : min a b = if a ≤ b then a else b := rfl
  rw [hmin, Int.min_def, apply_ite Int64.toInt]
  simp only [Int64.le_iff_toInt_le]

theorem toNat_max (a b : UInt64) : (max a b).toNat = max a.toNat b.toNat := by
  have hmax : max a b = if a ≤ b then b else a := rfl
  rw [hmax, Nat.max_def, apply_ite UInt64.toNat]
  simp only [UInt64.le_iff_toNat_le]

theorem toNat_min (a b : UInt64) : (min a b).toNat = min a.toNat b.toNat := by
  have hmin : min a b = if a ≤ b then a else b := rfl
  rw [hmin, Nat.min_def, apply_ite UInt64.toNat]
  simp only [UInt64.le_iff_toNat_le]

/-- The unsigned word with the bits of a signed one. -/
theorem toNat_toUInt64 (a : Int64) :
    (a.toUInt64.toNat : Int) =
      if a.toInt < 0 then a.toInt + (maxWord64 + 1) else a.toInt := by
  have h : a.toInt = _ := BitVec.toInt_eq_toNat_cond a.toBitVec
  have hlt := a.toUInt64.toNat_lt
  rw [← Int64.toBitVec_toUInt64, UInt64.toNat_toBitVec] at h
  unfold maxWord64
  split at h <;> split <;> omega

/-- The cast of an unsigned word to a signed one loses nothing below its sign bit. -/
theorem toInt_toInt64 {u : UInt64} (h : (u.toNat : Int) ≤ maxInt64) :
    u.toInt64.toInt = u.toNat := by
  have hbits : u.toInt64.toInt = _ := BitVec.toInt_eq_toNat_cond u.toInt64.toBitVec
  unfold maxInt64 at h
  rw [UInt64.toBitVec_toInt64, UInt64.toNat_toBitVec, if_pos (by omega)] at hbits
  exact hbits

/-- The absolute value fits an unsigned word, also that of the least signed one. -/
theorem toNat_unsignedAbs (v : Int64) : (unsignedAbs v).toNat = v.toInt.natAbs := by
  have hv := toNat_toUInt64 v
  have habs : (unsignedAbs v).toNat = _ := BitVec.toNat_abs
  have hlt := v.toUInt64.toNat_lt
  rw [BitVec.msb_eq_toInt, Int64.toInt_toBitVec, ← Int64.toBitVec_toUInt64,
    UInt64.toNat_toBitVec] at habs
  simp only [decide_eq_true_eq] at habs
  rw [habs]
  unfold maxWord64 at hv
  split <;> split at hv <;> omega

theorem toInt_abs_of_fits {v : Int64} (h : FitsWord (-v.toInt)) :
    v.abs.toInt = v.toInt.natAbs := by
  have hfits := fitsWord_toInt v
  unfold FitsWord at h hfits
  have habs := toNat_unsignedAbs v
  have hcast : (unsignedAbs v).toInt64.toInt = _ := toInt_toInt64 (by rw [habs]; omega)
  rw [habs] at hcast
  exact hcast

/-- The absolute difference of two signed words fits an unsigned one. -/
theorem toNat_absDiff (a b : Int64) : (absDiff a b).toNat = (a.toInt - b.toInt).natAbs := by
  have ha := toNat_toUInt64 a
  have hb := toNat_toUInt64 b
  have hfa := fitsWord_toInt a
  have hfb := fitsWord_toInt b
  unfold FitsWord minInt64 maxInt64 at hfa hfb
  unfold maxWord64 at ha hb
  -- the subtraction takes the residue of the difference, which is the smaller from the greater
  unfold absDiff
  simp only [Int64.lt_iff_toInt_lt]
  split <;> rw [UInt64.toNat_sub] <;> split at ha <;> split at hb <;> omega

theorem map_toInt_range (low high : Int64) :
    (range low high).map Int64.toInt = intRange low.toInt high.toInt := by
  have hlow := fitsWord_toInt low
  have hhigh := fitsWord_toInt high
  rw [range, intRange, List.map_map]
  refine List.map_congr_left ?_
  intro i hi
  rw [List.mem_range] at hi
  -- the offset may wrap, its sum with the lower bound does not
  have hsum : FitsWord (low.toInt + i) := by
    unfold FitsWord at hlow hhigh ⊢
    omega
  rw [Function.comp_apply, Int64.toInt_add, Int64.toInt_ofNat', Int.add_bmod_bmod]
  exact bmod_eq_of_fits hsum

theorem mem_range {low high d : Int64} :
    d ∈ range low high ↔ low.toInt ≤ d.toInt ∧ d.toInt ≤ high.toInt := by
  rw [← mem_intRange, ← map_toInt_range, List.mem_map]
  constructor
  · intro h
    exact ⟨d, h, rfl⟩
  · rintro ⟨e, he, heq⟩
    rwa [← Int64.toInt_inj.mp heq]

theorem toInt_lastIndex {size : Nat} (hsize : (size : Int) ≤ maxInt32) :
    (lastIndex size).toInt = size - 1 := by
  unfold maxInt32 at hsize
  have hcast : (Int64.ofNat size).toInt = size := Int64.toInt_ofNat_of_lt (by omega)
  have hone : (1 : Int64).toInt = 1 := rfl
  rw [lastIndex, toInt_sub_of_fits, hcast, hone]
  rw [hcast, hone]
  unfold FitsWord minInt64 maxInt64
  omega

/-! ## Distances are exact -/

theorem toNat_axisGap (v last : Int64) :
    (axisGap v last).toNat = CityScript.axisGap v.toInt last.toInt := by
  have hzero : (0 : Int64).toInt = 0 := rfl
  simp only [axisGap, CityScript.axisGap, Int64.lt_iff_toInt_lt, hzero,
    apply_ite UInt64.toNat, toNat_unsignedAbs, toNat_absDiff]
  rfl

theorem toNat_distance (a b : WordCell) : (distance a b).toNat = a.cell.distance b.cell := by
  rw [distance, toNat_max, toNat_absDiff, toNat_absDiff]
  rfl

/-- The farthest corner is as far away as the farther row and the farther column. -/
theorem max_distance_corners (center : Cell) (last : Int) :
    max (max (max (center.distance ⟨0, 0⟩) (center.distance ⟨0, last⟩))
        (center.distance ⟨last, 0⟩)) (center.distance ⟨last, last⟩) =
      max (axisReach center.row last) (axisReach center.col last) := by
  simp only [Cell.distance, axisReach, Int.sub_zero]
  rw [max_assoc, ← sup_sup_distrib_left, ← sup_sup_distrib_left, ← sup_sup_distrib_right]

/-- **The span in words.** Both of its ends are those over the integers. -/
theorem ringSpan?_exact (center : WordCell) {size : Nat} (hsize : (size : Int) ≤ maxInt32) :
    (ringSpan? center size).map (fun span => (span.1.toNat, span.2.toNat)) =
      CityScript.ringSpan? center.cell size := by
  have hlast := toInt_lastIndex hsize
  have hzero : (0 : Int64).toInt = 0 := rfl
  unfold ringSpan? CityScript.ringSpan?
  by_cases hempty : size = 0
  · rw [if_pos hempty, if_pos (by rw [Int64.lt_iff_toInt_lt, hlast, hzero]; omega)]
    rfl
  · rw [if_neg hempty, if_neg (by rw [Int64.lt_iff_toInt_lt, hlast, hzero]; omega)]
    have hcorners := max_distance_corners center.cell (size - 1)
    simp only [Option.map_some, List.map_cons, List.map_nil, List.max?_cons', List.foldl_cons,
      List.foldl_nil, Option.getD_some, toNat_max, toNat_axisGap, toNat_distance, WordCell.cell,
      hlast, hzero] at hcorners ⊢
    rw [hcorners]

/-! ## Rings that are near enough -/

/-- Every value that is computed for a ring fits a word: the negated distance, the
distances from the centre to the ends of the grid, and the coordinates at all
offsets that are clipped to the grid. -/
structure RingFits (center : Cell) (d : Int) (size : Nat) : Prop where
  neg_distance : FitsWord (-d)
  neg_row : FitsWord (-center.row)
  neg_col : FitsWord (-center.col)
  last_row : FitsWord (size - 1 - center.row)
  last_col : FitsWord (size - 1 - center.col)
  row : ∀ dr, max (-d) (-center.row) ≤ dr → dr ≤ min d (size - 1 - center.row) →
    FitsWord (center.row + dr)
  col : ∀ dc, max (-d) (-center.col) ≤ dc → dc ≤ min d (size - 1 - center.col) →
    FitsWord (center.col + dc)

/-- A word that is not the least one can be negated. -/
theorem fitsWord_neg {v : Int64} (hv : v ≠ Int64.minValue) : FitsWord (-v.toInt) := by
  have hfits := fitsWord_toInt v
  have hmin : Int64.minValue.toInt = minInt64 := rfl
  have hne : v.toInt ≠ minInt64 := by
    rw [← hmin]
    exact fun h => hv (Int64.toInt_inj.mp h)
  unfold FitsWord minInt64 maxInt64 at hfits ⊢
  unfold minInt64 at hne
  omega

/-- A coordinate that is not far before the grid has its distance to the end of the
grid in a word. -/
theorem fitsWord_last_sub {v d : Int} {size : Nat} (hv : FitsWord v)
    (hsize : (size : Int) ≤ maxInt32) (hd : d ≤ maxWord32)
    (hgap : (CityScript.axisGap v (size - 1) : Int) ≤ d) : FitsWord (size - 1 - v) := by
  unfold CityScript.axisGap at hgap
  unfold FitsWord minInt64 maxInt64 at hv ⊢
  unfold maxInt32 at hsize
  unfold maxWord32 at hd
  split at hgap <;> omega

/-- What is clipped to the grid is on the grid, if it is anywhere. -/
theorem fitsWord_clipped {v d offset : Int} {size : Nat} (hsize : (size : Int) ≤ maxInt32)
    (hlow : max (-d) (-v) ≤ offset) (hhigh : offset ≤ min d (size - 1 - v)) :
    FitsWord (v + offset) := by
  unfold FitsWord minInt64 maxInt64
  unfold maxInt32 at hsize
  omega

/-- **Rings within a radius.** A ring that reaches the grid and is not farther away
than the greatest radius is computed in words without overflow. -/
theorem ringFits {center : WordCell} {d : Int} {size : Nat} (hsize : (size : Int) ≤ maxInt32)
    (hrow : center.row ≠ Int64.minValue) (hcol : center.col ≠ Int64.minValue)
    (hd : d ≤ maxWord32)
    (hgapRow : (CityScript.axisGap center.row.toInt (size - 1) : Int) ≤ d)
    (hgapCol : (CityScript.axisGap center.col.toInt (size - 1) : Int) ≤ d) :
    RingFits center.cell d size where
  neg_distance := by
    unfold FitsWord minInt64 maxInt64
    unfold maxWord32 at hd
    omega
  neg_row := fitsWord_neg hrow
  neg_col := fitsWord_neg hcol
  last_row := fitsWord_last_sub (fitsWord_toInt center.row) hsize hd hgapRow
  last_col := fitsWord_last_sub (fitsWord_toInt center.col) hsize hd hgapCol
  row _ hlow hhigh := fitsWord_clipped hsize hlow hhigh
  col _ hlow hhigh := fitsWord_clipped hsize hlow hhigh

/-! ## Rings are exact -/

theorem toInt_lowOffset {d v : Int64} (hd : FitsWord (-d.toInt)) (hv : FitsWord (-v.toInt)) :
    (max (-d) (-v)).toInt = max (-d.toInt) (-v.toInt) := by
  rw [toInt_max, toInt_neg_of_fits hd, toInt_neg_of_fits hv]

theorem toInt_highOffset {d v : Int64} {size : Nat} (hsize : (size : Int) ≤ maxInt32)
    (hv : FitsWord (size - 1 - v.toInt)) :
    (min d (lastIndex size - v)).toInt = min d.toInt (size - 1 - v.toInt) := by
  have hlast := toInt_lastIndex hsize
  rw [toInt_min, toInt_sub_of_fits (by rwa [hlast]), hlast]

/-- The column offsets of a row are those over the integers. -/
theorem map_toInt_columns {d low high dr : Int64} {lowInt highInt : Int}
    (hlow : low.toInt = lowInt) (hhigh : high.toInt = highInt) (hd : FitsWord (-d.toInt))
    (hdr : FitsWord (-dr.toInt)) :
    (columns d low high dr).map Int64.toInt =
      if (dr.toInt.natAbs : Int) = d.toInt then intRange lowInt highInt
      else [-d.toInt, d.toInt].filter fun dc => lowInt ≤ dc && dc ≤ highInt := by
  have habs : dr.abs = d ↔ (dr.toInt.natAbs : Int) = d.toInt := by
    rw [← Int64.toInt_inj, toInt_abs_of_fits hdr]
  have hpair : [-d.toInt, d.toInt] = [-d, d].map Int64.toInt := by
    rw [← toInt_neg_of_fits hd]
    rfl
  rw [hpair, List.filter_map, ← hlow, ← hhigh, ← map_toInt_range]
  simp only [columns, habs, apply_ite (List.map Int64.toInt), Function.comp_def,
    Int64.le_iff_toInt_le]

theorem bounds_of_mem_columns {d low high dr dc : Int64} (h : dc ∈ columns d low high dr) :
    low.toInt ≤ dc.toInt ∧ dc.toInt ≤ high.toInt := by
  unfold columns at h
  split at h
  · exact mem_range.mp h
  · have hclip := (List.mem_filter.mp h).2
    rw [Bool.and_eq_true, decide_eq_true_eq, decide_eq_true_eq] at hclip
    exact ⟨Int64.le_iff_toInt_le.mp hclip.1, Int64.le_iff_toInt_le.mp hclip.2⟩

/-- **A ring in words** is the ring over the integers, when all its values fit. -/
theorem map_cell_ring {center : WordCell} {d : Int64} {size : Nat}
    (hsize : (size : Int) ≤ maxInt32) (h : RingFits center.cell d.toInt size) :
    (ring center d size).map WordCell.cell = CityScript.ring center.cell d.toInt size := by
  have hlowRow : (max (-d) (-center.row)).toInt = max (-d.toInt) (-center.cell.row) :=
    toInt_lowOffset h.neg_distance h.neg_row
  have hlowCol : (max (-d) (-center.col)).toInt = max (-d.toInt) (-center.cell.col) :=
    toInt_lowOffset h.neg_distance h.neg_col
  have hhighRow : (min d (lastIndex size - center.row)).toInt =
      min d.toInt (size - 1 - center.cell.row) := toInt_highOffset hsize h.last_row
  have hhighCol : (min d (lastIndex size - center.col)).toInt =
      min d.toInt (size - 1 - center.cell.col) := toInt_highOffset hsize h.last_col
  unfold ring CityScript.ring
  dsimp only
  rw [List.map_flatMap, ← hlowRow, ← hhighRow, ← map_toInt_range, List.flatMap_map]
  -- row by row, and in a row column by column
  refine List.flatMap_congr ?_
  intro dr hdr
  rw [mem_range, hlowRow, hhighRow] at hdr
  have hnegdr : FitsWord (-dr.toInt) := by
    have hd := fitsWord_toInt d
    have hneg := h.neg_distance
    unfold FitsWord at hd hneg ⊢
    omega
  rw [← map_toInt_columns hlowCol hhighCol h.neg_distance hnegdr, List.map_map, List.map_map]
  refine List.map_congr_left ?_
  intro dc hdc
  have hclip := bounds_of_mem_columns hdc
  rw [hlowCol, hhighCol] at hclip
  exact congrArg₂ Cell.mk (toInt_add_of_fits (h.row dr.toInt hdr.1 hdr.2))
    (toInt_add_of_fits (h.col dc.toInt hclip.1 hclip.2))

/-! ## The search is exact -/

/-- The casts of the two bounds of a search lose nothing. -/
structure CastsExact (radius : UInt32) (nearest farthest : UInt64) : Prop where
  nearest : nearest.toInt64.toInt = nearest.toNat
  limit : (min radius.toUInt64 farthest).toInt64.toInt = min radius.toNat farthest.toNat

theorem toNat_le_maxWord32 (radius : UInt32) : radius.toNat ≤ maxWord32 := by
  have h := radius.toNat_lt
  unfold maxWord32
  omega

/-- The limit of a search survives its cast, wherever the centre is. -/
theorem toInt_limit (radius : UInt32) (farthest : UInt64) :
    (min radius.toUInt64 farthest).toInt64.toInt = min radius.toNat farthest.toNat := by
  have hr := toNat_le_maxWord32 radius
  have hmin : (min radius.toUInt64 farthest).toNat = min radius.toNat farthest.toNat := by
    rw [toNat_min, UInt32.toNat_toUInt64]
  rw [toInt_toInt64, hmin]
  rw [hmin]
  unfold maxWord32 at hr
  unfold maxInt64
  omega

/-- The gap of a coordinate that can be negated fits a signed word. -/
theorem axisGap_le_maxInt64 {v : Int64} {last : Int} (hlast : 0 ≤ last)
    (hv : v ≠ Int64.minValue) : (CityScript.axisGap v.toInt last : Int) ≤ maxInt64 := by
  have hfits := fitsWord_toInt v
  have hneg := fitsWord_neg hv
  unfold FitsWord at hfits hneg
  unfold CityScript.axisGap
  split
  · omega
  · split <;> omega

/-- Rings over the natural numbers, as integers. -/
theorem intRange_natCast (low high : Nat) :
    intRange low high = (List.range' low (high + 1 - low)).map fun (n : Nat) => (n : Int) := by
  have hlength : ((high : Int) + 1 - low).toNat = high + 1 - low := by omega
  rw [intRange, hlength, List.range'_eq_map_range, List.map_map]
  refine List.map_congr_left ?_
  intro i _
  rw [Function.comp_apply, Int.natCast_add]

/-- The cells that a search in words looks at, in its order. -/
def searchCells (a : Allocator) (center : WordCell) (radius : UInt32) : List WordCell :=
  (searchRings a center radius).flatMap fun d => ring center d a.mask.size

section Search

variable {a : Allocator} {center : WordCell} {radius : UInt32}

theorem ringSpan?_toNat {nearest farthest : UInt64} (hsize : (a.mask.size : Int) ≤ maxInt32)
    (hspan : ringSpan? center a.mask.size = some (nearest, farthest)) :
    CityScript.ringSpan? center.cell a.mask.size = some (nearest.toNat, farthest.toNat) := by
  rw [← ringSpan?_exact center hsize, hspan]
  rfl

/-- The search in words takes the first free cell of its listing. -/
theorem findFree?_eq_find? :
    findFree? a center radius =
      (searchCells a center radius).find? fun c => a.isFree c.cell := by
  rw [findFree?, searchCells, List.find?_flatMap]

variable (hsize : (a.mask.size : Int) ≤ maxInt32) (hrow : center.row ≠ Int64.minValue)
  (hcol : center.col ≠ Int64.minValue)
include hsize hrow hcol

theorem castsExact {nearest farthest : UInt64}
    (hspan : ringSpan? center a.mask.size = some (nearest, farthest)) :
    CastsExact radius nearest farthest where
  nearest := by
    obtain ⟨hcells, hnearest, -⟩ := ringSpan?_eq_some_iff.mp (ringSpan?_toNat hsize hspan)
    have hlast : 0 ≤ (a.mask.size : Int) - 1 := by omega
    have hgapRow := axisGap_le_maxInt64 hlast hrow
    have hgapCol := axisGap_le_maxInt64 hlast hcol
    simp only [WordCell.cell] at hnearest
    exact toInt_toInt64 (by omega)
  limit := toInt_limit radius farthest

/-- **The rings that are visited** are those of the search over the integers. -/
theorem map_toInt_searchRings :
    (searchRings a center radius).map Int64.toInt =
      (a.searchRings center.cell radius.toNat).map fun (n : Nat) => (n : Int) := by
  unfold searchRings Allocator.searchRings
  cases hspan : ringSpan? center a.mask.size with
  | none =>
    have hnone : CityScript.ringSpan? center.cell a.mask.size = none := by
      rw [← ringSpan?_exact center hsize, hspan]
      rfl
    rw [hnone]
    rfl
  | some span =>
    have hcasts : CastsExact radius span.1 span.2 := castsExact hsize hrow hcol hspan
    rw [ringSpan?_toNat hsize hspan]
    dsimp only
    rw [map_toInt_range, hcasts.nearest, hcasts.limit, intRange_natCast]

/-- **No visited ring overflows.** -/
theorem ringFits_of_mem_searchRings {d : Int64}
    (hd : d ∈ searchRings a center radius) : RingFits center.cell d.toInt a.mask.size := by
  have hmem : d.toInt ∈ (searchRings a center radius).map Int64.toInt := List.mem_map_of_mem hd
  rw [map_toInt_searchRings hsize hrow hcol, List.mem_map] at hmem
  obtain ⟨n, hn, hnd⟩ := hmem
  rw [← hnd]
  unfold Allocator.searchRings at hn
  split at hn
  · cases hn
  · rename_i nearest farthest hspan
    have hnearest := (ringSpan?_eq_some_iff.mp hspan).2.1
    have hr := toNat_le_maxWord32 radius
    rw [List.mem_range'_1] at hn
    simp only [WordCell.cell] at hnearest
    exact ringFits hsize hrow hcol (by omega) (by omega) (by omega)

/-- The listing in words is the listing over the integers. -/
theorem map_cell_searchCells :
    (searchCells a center radius).map WordCell.cell =
      a.searchCells center.cell radius.toNat :=
  calc (searchCells a center radius).map WordCell.cell
      = (searchRings a center radius).flatMap fun d =>
          CityScript.ring center.cell d.toInt a.mask.size := by
        rw [searchCells, List.map_flatMap]
        refine List.flatMap_congr ?_
        intro d hd
        exact map_cell_ring hsize (ringFits_of_mem_searchRings hsize hrow hcol hd)
    _ = ((searchRings a center radius).map Int64.toInt).flatMap fun d =>
          CityScript.ring center.cell d a.mask.size := by
        rw [List.flatMap_map]
    _ = a.searchCells center.cell radius.toNat := by
        rw [map_toInt_searchRings hsize hrow hcol, List.flatMap_map, Allocator.searchCells]

/-- **The search in words is the search over the integers.** -/
theorem map_cell_findFree? :
    (findFree? a center radius).map WordCell.cell =
      a.findFree? center.cell radius.toNat := by
  rw [findFree?_eq_find?, Allocator.findFree?_eq_find?,
    ← map_cell_searchCells hsize hrow hcol, List.find?_map]
  rfl

end Search

/-! ## Around a least word -/

theorem toInt_minValue : Int64.minValue.toInt = minInt64 := rfl

/-- The distance from the least word to the end of a grid wraps below zero. -/
theorem bmod_sub_minInt64 {size : Nat} (hcells : 0 < size) (hsize : (size : Int) ≤ maxInt32) :
    ((size : Int) - 1 - minInt64).bmod Int64.size = size - 1 + minInt64 := by
  have hword : (Int64.size : Int) = 18446744073709551616 := rfl
  unfold maxInt32 at hsize
  unfold minInt64
  have hsum : (size : Int) - 1 - -9223372036854775808 =
      (size - 1 + -9223372036854775808) + (Int64.size : Int) := by omega
  rw [hsum, Int.add_bmod_right]
  apply Int.bmod_eq_of_le <;> omega

/-- An offset from a least word is the least word itself, on a ring with that number. On all
other rings within a radius there is no offset to the grid. -/
theorem eq_minValue_of_offset {v d offset : Int64} {size : Nat} (hcells : 0 < size)
    (hsize : (size : Int) ≤ maxInt32) (hd : d.toInt ≤ maxWord32) (hv : v = Int64.minValue)
    (hlow : (max (-d) (-v)).toInt ≤ offset.toInt)
    (hhigh : offset.toInt ≤ (min d (lastIndex size - v)).toInt) : d = Int64.minValue := by
  by_contra hne
  have hlast := toInt_lastIndex hsize
  have hneg := toInt_neg_of_fits (fitsWord_neg hne)
  -- the end of the grid is so far away that its distance wraps below zero
  have hwrap : (lastIndex size - v).toInt = size - 1 + minInt64 := by
    rw [hv, Int64.toInt_sub, hlast, toInt_minValue]
    exact bmod_sub_minInt64 hcells hsize
  rw [toInt_max, hneg] at hlow
  rw [toInt_min, hwrap] at hhigh
  unfold minInt64 at hhigh
  unfold maxInt32 at hsize
  unfold maxWord32 at hd
  omega

/-- On the ring whose number is the least word the only offset is the least word, and only
from the least word. -/
theorem eq_minValue_of_offset_minValue {v offset high : Int64}
    (hlow : (max (-Int64.minValue) (-v)).toInt ≤ offset.toInt)
    (hhigh : offset.toInt ≤ (min Int64.minValue high).toInt) :
    offset = Int64.minValue ∧ v = Int64.minValue := by
  have hoffset := fitsWord_toInt offset
  rw [toInt_min, toInt_minValue] at hhigh
  unfold FitsWord at hoffset
  have heq : offset = Int64.minValue := by
    rw [← Int64.toInt_inj, toInt_minValue]
    omega
  refine ⟨heq, ?_⟩
  by_contra hne
  have hv := fitsWord_toInt v
  have hneg := toInt_neg_of_fits (fitsWord_neg hne)
  rw [toInt_max, hneg, heq, toInt_minValue] at hlow
  unfold FitsWord maxInt64 at hv
  unfold minInt64 at hlow
  omega

section Least

variable {a : Allocator} {center : WordCell} {radius : UInt32}

/-- On the visited rings around a least word there is one cell at most, the first one of the
grid, and it is there only around the cell of two least words. -/
theorem eq_of_mem_ring_of_least {d : Int64} {size : Nat} {c : WordCell} (hcells : 0 < size)
    (hsize : (size : Int) ≤ maxInt32)
    (hleast : center.row = Int64.minValue ∨ center.col = Int64.minValue)
    (hd : d.toInt ≤ maxWord32) (hc : c ∈ ring center d size) :
    c = ⟨0, 0⟩ ∧ center = ⟨Int64.minValue, Int64.minValue⟩ := by
  simp only [ring, List.mem_flatMap, List.mem_map] at hc
  obtain ⟨dr, hdr, dc, hdc, rfl⟩ := hc
  obtain ⟨hrowLow, hrowHigh⟩ := mem_range.mp hdr
  obtain ⟨hcolLow, hcolHigh⟩ := bounds_of_mem_columns hdc
  have hring : d = Int64.minValue := by
    rcases hleast with hrow | hcol
    · exact eq_minValue_of_offset hcells hsize hd hrow hrowLow hrowHigh
    · exact eq_minValue_of_offset hcells hsize hd hcol hcolLow hcolHigh
  rw [hring] at hrowLow hrowHigh hcolLow hcolHigh
  obtain ⟨rfl, hrow⟩ := eq_minValue_of_offset_minValue hrowLow hrowHigh
  obtain ⟨rfl, hcol⟩ := eq_minValue_of_offset_minValue hcolLow hcolHigh
  obtain ⟨row, col⟩ := center
  dsimp only at hrow hcol
  subst hrow hcol
  exact ⟨rfl, rfl⟩

/-- Around the cell of two least words the ring of the least word has the first cell. -/
theorem mem_ring_least (size : Nat) :
    (⟨0, 0⟩ : WordCell) ∈ ring ⟨Int64.minValue, Int64.minValue⟩ Int64.minValue size := by
  have hrange : ∀ high : Int64, Int64.minValue ∈
      range (max (-Int64.minValue) (-Int64.minValue)) (min Int64.minValue high) := by
    intro high
    have hhigh := fitsWord_toInt high
    have hlow : (max (-Int64.minValue) (-Int64.minValue)).toInt = minInt64 := rfl
    rw [mem_range, hlow, toInt_min, toInt_minValue]
    unfold FitsWord at hhigh
    omega
  simp only [ring, List.mem_flatMap, List.mem_map]
  refine ⟨Int64.minValue, hrange _, Int64.minValue, ?_, rfl⟩
  have hcolumns : Int64.minValue.abs = Int64.minValue := rfl
  rw [columns, if_pos hcolumns]
  exact hrange _

/-- The rings that a search visits are not farther away than the radius. -/
theorem le_maxWord32_of_mem_searchRings {d : Int64} (hd : d ∈ searchRings a center radius) :
    d.toInt ≤ maxWord32 := by
  have hr := toNat_le_maxWord32 radius
  unfold searchRings at hd
  split at hd
  · cases hd
  · have hlimit := (mem_range.mp hd).2
    rw [toInt_limit] at hlimit
    omega

/-- Around the cell of two least words the search starts with the ring of the least word. -/
theorem minValue_mem_searchRings (hcells : 0 < a.mask.size)
    (hsize : (a.mask.size : Int) ≤ maxInt32) :
    Int64.minValue ∈ searchRings a ⟨Int64.minValue, Int64.minValue⟩ radius := by
  have hexact := ringSpan?_exact ⟨Int64.minValue, Int64.minValue⟩ hsize
  obtain ⟨near, far, hspan⟩ := exists_ringSpan? (Cell.mk minInt64 minInt64) hcells
  have hnear : near = 9223372036854775808 := by
    rw [(ringSpan?_eq_some_iff.mp hspan).2.1]
    rfl
  unfold searchRings
  cases hwords : ringSpan? ⟨Int64.minValue, Int64.minValue⟩ a.mask.size with
  | none =>
    rw [hwords] at hexact
    cases hexact.trans hspan
  | some span =>
    rw [hwords] at hexact
    have hfirst : span.1.toNat = near :=
      congrArg Prod.fst (Option.some.inj (hexact.trans hspan))
    have hnearest : span.1 = 9223372036854775808 := UInt64.toNat_inj.mp (hfirst.trans hnear)
    dsimp only
    rw [hnearest, mem_range, toInt_limit, toInt_minValue]
    have hcast : (9223372036854775808 : UInt64).toInt64.toInt = minInt64 := rfl
    rw [hcast]
    unfold minInt64
    omega

/-- Over the integers nothing is found around a least word, since every grid is farther away
than any radius. -/
theorem findFree?_eq_none_of_least
    (hleast : center.row = Int64.minValue ∨ center.col = Int64.minValue) :
    a.findFree? center.cell radius.toNat = none := by
  have hr := toNat_le_maxWord32 radius
  rw [Allocator.findFree?_eq_none_iff]
  intro c hfree
  have hin := (a.mask.inBounds_iff c).mp (Allocator.inBounds_of_isFree hfree)
  unfold maxWord32 at hr
  unfold Cell.distance WordCell.cell
  dsimp only
  rcases hleast with hrow | hcol
  · rw [hrow, toInt_minValue]
    unfold minInt64
    omega
  · rw [hcol, toInt_minValue]
    unfold minInt64
    omega

theorem pos_of_mem_searchRings {d : Int64} (hsize : (a.mask.size : Int) ≤ maxInt32)
    (hd : d ∈ searchRings a center radius) : 0 < a.mask.size := by
  unfold searchRings at hd
  split at hd
  · cases hd
  · rename_i hspan
    exact (ringSpan?_eq_some_iff.mp (ringSpan?_toNat hsize hspan)).1

/-- A search around a least word looks at one cell at most. -/
theorem eq_of_mem_searchCells_of_least {c : WordCell} (hsize : (a.mask.size : Int) ≤ maxInt32)
    (hleast : center.row = Int64.minValue ∨ center.col = Int64.minValue)
    (hc : c ∈ searchCells a center radius) :
    c = ⟨0, 0⟩ ∧ center = ⟨Int64.minValue, Int64.minValue⟩ := by
  rw [searchCells, List.mem_flatMap] at hc
  obtain ⟨d, hd, hc⟩ := hc
  have hcells := pos_of_mem_searchRings hsize hd
  exact eq_of_mem_ring_of_least hcells hsize hleast (le_maxWord32_of_mem_searchRings hd) hc

theorem mem_searchCells_least (hcells : 0 < a.mask.size)
    (hsize : (a.mask.size : Int) ≤ maxInt32) :
    ⟨0, 0⟩ ∈ searchCells a ⟨Int64.minValue, Int64.minValue⟩ radius := by
  rw [searchCells, List.mem_flatMap]
  exact ⟨Int64.minValue, minValue_mem_searchRings hcells hsize, mem_ring_least _⟩

theorem eq_of_cell_eq_least (h : center.cell = .least) :
    center = ⟨Int64.minValue, Int64.minValue⟩ := by
  have hrow : center.row = Int64.minValue := Int64.toInt_inj.mp (congrArg Cell.row h)
  have hcol : center.col = Int64.minValue := Int64.toInt_inj.mp (congrArg Cell.col h)
  cases center
  congr

/-- Around a least word the search finds the first cell of the grid or nothing. -/
theorem map_cell_findFree?_of_least (hsize : (a.mask.size : Int) ≤ maxInt32)
    (hleast : center.row = Int64.minValue ∨ center.col = Int64.minValue) :
    (findFree? a center radius).map WordCell.cell =
      a.findFreeInWords? center.cell radius.toNat := by
  rw [Allocator.findFreeInWords?, findFree?_eq_none_of_least hleast, findFree?_eq_find?]
  by_cases hfirst : center.cell = .least ∧ a.isFree ⟨0, 0⟩ = true
  · obtain ⟨hcenter, hfree⟩ := hfirst
    have hcells : 0 < a.mask.size := by
      have hin := (a.mask.inBounds_iff _).mp (Allocator.inBounds_of_isFree hfree)
      omega
    have hmem : ⟨0, 0⟩ ∈ searchCells a center radius := by
      rw [eq_of_cell_eq_least hcenter]
      exact mem_searchCells_least hcells hsize
    rw [if_pos ⟨hcenter, hfree⟩]
    cases hfind : (searchCells a center radius).find? fun c => a.isFree c.cell with
    | none => exact absurd hfree (List.find?_eq_none.mp hfind _ hmem)
    | some c =>
      have hc := eq_of_mem_searchCells_of_least hsize hleast (List.mem_of_find?_eq_some hfind)
      rw [hc.1]
      rfl
  · rw [if_neg hfirst, Option.map_eq_none_iff, List.find?_eq_none]
    intro c hc hfree
    obtain ⟨rfl, rfl⟩ := eq_of_mem_searchCells_of_least hsize hleast hc
    exact hfirst ⟨rfl, hfree⟩

end Least

/-- **The search in words, around every cell.** Around the cell of two least words it
differs from the search over the integers, in the way of `Allocator.findFreeInWords?`. -/
theorem map_cell_findFree?_all (a : Allocator) (center : WordCell) (radius : UInt32)
    (hsize : (a.mask.size : Int) ≤ maxInt32) :
    (findFree? a center radius).map WordCell.cell =
      a.findFreeInWords? center.cell radius.toNat := by
  by_cases hleast : center.row = Int64.minValue ∨ center.col = Int64.minValue
  · exact map_cell_findFree?_of_least hsize hleast
  · obtain ⟨hrow, hcol⟩ := not_or.mp hleast
    have hne : center.cell ≠ .least := fun h => hrow (Int64.toInt_inj.mp (congrArg Cell.row h))
    rw [map_cell_findFree? hsize hrow hcol, Allocator.findFreeInWords?_of_ne hne]

/-! ## Without a least word nothing overflows -/

/-- **The search does not overflow.** For all centres but those with a least word in
them, for grids and radii of 32 bits, the span of the rings is the one over the
integers, it survives the casts, every value of every visited ring fits a word, and
the search in words finds what the search over the integers finds. On rings that are
not visited values can overflow: there are centres for which every ring is out of
reach and the distance to the end of the grid does not fit. -/
theorem search_exact (a : Allocator) (center : WordCell) (radius : UInt32)
    (hsize : (a.mask.size : Int) ≤ maxInt32)
    (hrow : center.row ≠ Int64.minValue) (hcol : center.col ≠ Int64.minValue) :
    (ringSpan? center a.mask.size).map (fun span => (span.1.toNat, span.2.toNat)) =
      CityScript.ringSpan? center.cell a.mask.size ∧
    (∀ nearest farthest, ringSpan? center a.mask.size = some (nearest, farthest) →
      CastsExact radius nearest farthest) ∧
    (∀ d ∈ searchRings a center radius,
      RingFits center.cell d.toInt a.mask.size ∧
      (ring center d a.mask.size).map WordCell.cell =
        CityScript.ring center.cell d.toInt a.mask.size) ∧
    (2 ≤ a.mask.size → ∃ far : WordCell,
      far.row ≠ Int64.minValue ∧ far.col ≠ Int64.minValue ∧
      ¬ FitsWord (a.mask.size - 1 - far.cell.row) ∧
      ∀ r : UInt32, searchRings a far r = []) ∧
    (findFree? a center radius).map WordCell.cell =
      a.findFree? center.cell radius.toNat := by
  refine ⟨ringSpan?_exact center hsize, ?_, ?_, ?_, map_cell_findFree? hsize hrow hcol⟩
  · intro nearest farthest hspan
    exact castsExact hsize hrow hcol hspan
  · intro d hd
    have hfits := ringFits_of_mem_searchRings hsize hrow hcol hd
    exact ⟨hfits, map_cell_ring hsize hfits⟩
  · -- the least coordinate that can be negated
    intro htwo
    have hfarRow : Int64.minValue + 1 ≠ Int64.minValue := by decide
    have hfarCol : (0 : Int64) ≠ Int64.minValue := by decide
    have hover : ¬ FitsWord (a.mask.size - 1 - (Int64.minValue + 1).toInt) := by
      have hleast : (Int64.minValue + 1).toInt = minInt64 + 1 := by decide
      rw [hleast]
      unfold FitsWord minInt64 maxInt64
      omega
    refine ⟨⟨Int64.minValue + 1, 0⟩, hfarRow, hfarCol, hover, ?_⟩
    intro r
    refine List.eq_nil_iff_forall_not_mem.mpr ?_
    intro d hd
    exact hover (ringFits_of_mem_searchRings hsize hfarRow hfarCol hd).last_row

/-- A grid without water and a centre a million rows below it, searched up to the
greatest radius. -/
theorem search_exact_distant :
    ((Allocator.ofMask (Mask.allLand 4)).mask.size : Int) ≤ maxInt32 ∧
    (1000000 : Int64) ≠ Int64.minValue ∧ (0 : Int64) ≠ Int64.minValue ∧
    (findFree? (Allocator.ofMask (Mask.allLand 4)) ⟨1000000, 0⟩ 4294967295).map WordCell.cell =
      some ⟨3, 0⟩ := by
  have hsize : ((Allocator.ofMask (Mask.allLand 4)).mask.size : Int) ≤ maxInt32 := by decide
  have hrow : (1000000 : Int64) ≠ Int64.minValue := by decide
  have hcol : (0 : Int64) ≠ Int64.minValue := by decide
  refine ⟨hsize, hrow, hcol, ?_⟩
  rw [(search_exact _ ⟨1000000, 0⟩ 4294967295 hsize hrow hcol).2.2.2.2]
  decide +kernel

end Words

end CityScript
