/-
Masks from rows: which rows make a mask, and what the mask shows of them.

Rows are refused for one of three faults, and no rows have two of them. There are none; or
one of them has not the length of the first; or all have that length and it is not the number
of rows. Rows without a fault are a square, and a mask is made of them.

The mask keeps the rows one after the other. As they all have one length, the entry in the
row `r` and the column `c` stands at the index `r * size + c` of the whole, which for a cell
of the grid is never past the end.
-/
import CityScript.Proofs.GridCells

set_option autoImplicit false

namespace CityScript

/-! ## Entries of rows -/

section Entries

variable {α : Type}

/-- The entry in a row and a column. -/
def entryAt? (rows : List (List α)) (row col : Nat) : Option α :=
  rows[row]?.bind fun cells => cells[col]?

@[simp] theorem entryAt?_nil (row col : Nat) : entryAt? ([] : List (List α)) row col = none := rfl

@[simp] theorem entryAt?_cons_zero (cells : List α) (rows : List (List α)) (col : Nat) :
    entryAt? (cells :: rows) 0 col = cells[col]? := rfl

@[simp] theorem entryAt?_cons_succ (cells : List α) (rows : List (List α)) (row col : Nat) :
    entryAt? (cells :: rows) (row + 1) col = entryAt? rows row col := rfl

/-- **Rows of one length put one after the other** keep their entries. -/
theorem getElem?_flatten {rows : List (List α)} {n : Nat} (h : ∀ cells ∈ rows, cells.length = n)
    (row : Nat) {col : Nat} (hcol : col < n) :
    rows.flatten[row * n + col]? = entryAt? rows row col := by
  induction rows generalizing row with
  | nil => simp
  | cons cells rows ih =>
    have hlength : cells.length = n := h cells List.mem_cons_self
    have hrest : ∀ cells ∈ rows, cells.length = n := fun cells hcells =>
      h cells (List.mem_cons_of_mem _ hcells)
    rw [List.flatten_cons]
    cases row with
    | zero =>
      rw [Nat.zero_mul, Nat.zero_add, List.getElem?_append_left (by omega), entryAt?_cons_zero]
    | succ row =>
      -- the first row is `n` entries long, so the index is past it
      have hindex : (row + 1) * n + col = n + (row * n + col) := by
        rw [Nat.succ_mul]
        omega
      rw [hindex, List.getElem?_append_right (by omega), hlength, Nat.add_sub_cancel_left,
        ih hrest, entryAt?_cons_succ]

end Entries

namespace Mask

/-! ## Faults of rows -/

/-- Rows that make a mask: there are some, and each has as many cells as there are rows. -/
def IsSquare (rows : List (List Bool)) : Prop :=
  rows ≠ [] ∧ ∀ cells ∈ rows, cells.length = rows.length

instance (rows : List (List Bool)) : Decidable (IsSquare rows) :=
  inferInstanceAs (Decidable (_ ∧ _))

/-- The first row whose length differs from that of the row at the top. -/
structure FirstRagged (rows : List (List Bool)) (row length expected : Nat) : Prop where
  expected_eq : rows.head?.map List.length = some expected
  length_eq : rows[row]?.map List.length = some length
  differs : length ≠ expected
  before : ∀ i < row, rows[i]?.map List.length = some expected

/-- The fault for which rows are refused. -/
def HasFault (rows : List (List Bool)) : MaskError → Prop
  | .empty => rows = []
  | .ragged row length expected => FirstRagged rows row length expected
  | .notSquare n cols =>
    rows ≠ [] ∧ rows.length = n ∧ (∀ cells ∈ rows, cells.length = cols) ∧ cols ≠ n
  | .unknownGlyph _ _ _ => False
  | .notRows => False

namespace FirstRagged

variable {rows : List (List Bool)} {row length expected : Nat}

/-- The row is one of the rows, and not as long as the first. -/
theorem exists_mem (h : FirstRagged rows row length expected) :
    ∃ cells ∈ rows, cells.length = length := by
  obtain ⟨cells, hcells, hlength⟩ := Option.map_eq_some_iff.mp h.length_eq
  exact ⟨cells, List.mem_of_getElem? hcells, hlength⟩

theorem head_mem (h : FirstRagged rows row length expected) :
    ∃ cells ∈ rows, cells.length = expected := by
  obtain ⟨cells, hcells, hlength⟩ := Option.map_eq_some_iff.mp h.expected_eq
  exact ⟨cells, List.mem_of_mem_head? hcells, hlength⟩

end FirstRagged

/-- A square has no fault. -/
theorem HasFault.not_isSquare {rows : List (List Bool)} {e : MaskError} (h : HasFault rows e) :
    ¬ IsSquare rows := by
  rintro ⟨hne, hlength⟩
  cases e with
  | empty => exact hne h
  | ragged row length expected =>
    obtain ⟨cells, hcells, rfl⟩ := FirstRagged.exists_mem h
    obtain ⟨first, hfirst, rfl⟩ := FirstRagged.head_mem h
    exact h.differs (by rw [hlength cells hcells, hlength first hfirst])
  | notSquare n cols =>
    obtain ⟨-, rfl, hcols, hdiffers⟩ := h
    obtain ⟨cells, rest, rfl⟩ := List.exists_cons_of_ne_nil hne
    refine hdiffers ?_
    rw [← hcols cells List.mem_cons_self, hlength cells List.mem_cons_self]
  | unknownGlyph _ _ _ => exact h
  | notRows => exact h

/-- **No rows have two faults**: the one that they have is reported. -/
theorem HasFault.shapeError_eq {rows : List (List Bool)} {e : MaskError} (h : HasFault rows e) :
    shapeError rows = e := by
  cases e with
  | empty =>
    rw [show rows = [] from h]
    rfl
  | ragged row length expected =>
    obtain ⟨first, hfirst, hexpected⟩ := Option.map_eq_some_iff.mp h.expected_eq
    obtain ⟨rest, rfl⟩ := List.head?_eq_some_iff.mp hfirst
    obtain ⟨cells, hcells, hlength⟩ := Option.map_eq_some_iff.mp h.length_eq
    obtain ⟨hlt, hget⟩ := List.getElem?_eq_some_iff.mp hcells
    have hrow : (first :: rest).findIdx? (·.length ≠ first.length) = some row := by
      rw [List.findIdx?_eq_some_iff_getElem]
      refine ⟨hlt, by simpa [hget, hlength, hexpected] using h.differs, ?_⟩
      intro i hi
      have hbefore := h.before i hi
      rw [List.getElem?_eq_getElem (by omega), Option.map_some, Option.some.injEq] at hbefore
      simp [hbefore, hexpected]
    rw [shapeError, hrow]
    dsimp only
    rw [hcells, Option.getD_some, hlength, hexpected]
  | notSquare n cols =>
    obtain ⟨hne, rfl, hcols, -⟩ := h
    obtain ⟨first, rest, rfl⟩ := List.exists_cons_of_ne_nil hne
    have hfirst : first.length = cols := hcols first List.mem_cons_self
    have hnone : (first :: rest).findIdx? (·.length ≠ first.length) = none := by
      rw [List.findIdx?_eq_none_iff]
      intro cells hcells
      simp [hcols cells hcells, hfirst]
    rw [shapeError, hnone]
    dsimp only
    rw [hfirst, List.length_cons]
  | unknownGlyph _ _ _ => exact h.elim
  | notRows => exact h.elim

/-- **What is reported of rows that are no square** is their fault. -/
theorem hasFault_shapeError {rows : List (List Bool)} (h : ¬ IsSquare rows) :
    HasFault rows (shapeError rows) := by
  cases rows with
  | nil => rfl
  | cons first rest =>
    rw [shapeError]
    split
    · next row hrow =>
      obtain ⟨hlt, hdiffers, hbefore⟩ := List.findIdx?_eq_some_iff_getElem.mp hrow
      rw [List.getElem?_eq_getElem hlt, Option.getD_some]
      refine ⟨rfl, by rw [List.getElem?_eq_getElem hlt]; rfl, by simpa using hdiffers, ?_⟩
      intro i hi
      have heq := hbefore i hi
      rw [List.getElem?_eq_getElem (by omega), Option.map_some]
      simpa using heq
    · next hnone =>
      have hcols : ∀ cells ∈ first :: rest, cells.length = first.length := by
        intro cells hcells
        simpa using List.findIdx?_eq_none_iff.mp hnone cells hcells
      refine ⟨List.cons_ne_nil _ _, rfl, hcols, ?_⟩
      intro heq
      exact h ⟨List.cons_ne_nil _ _, fun cells hcells => by rw [hcols cells hcells, heq]; rfl⟩

theorem ofRows_of_not_isSquare {rows : List (List Bool)} (h : ¬ IsSquare rows) :
    ofRows rows = .error (shapeError rows) := dif_neg h

theorem exists_ofRows {rows : List (List Bool)} (h : IsSquare rows) :
    ∃ m, ofRows rows = .ok m := ⟨_, dif_pos h⟩

/-- **When rows are refused**: for the fault that they have. -/
theorem ofRows_eq_error_iff (rows : List (List Bool)) (e : MaskError) :
    ofRows rows = .error e ↔ HasFault rows e := by
  by_cases hsquare : IsSquare rows
  · obtain ⟨m, hm⟩ := exists_ofRows hsquare
    rw [hm]
    constructor
    · intro h
      cases h
    · intro h
      exact absurd hsquare h.not_isSquare
  · rw [ofRows_of_not_isSquare hsquare, Except.error.injEq]
    constructor
    · rintro rfl
      exact hasFault_shapeError hsquare
    · exact HasFault.shapeError_eq

/-! ## The mask of rows -/

/-- A mask shows rows: it is as large, its land is theirs, there is no land outside, and to
look at a cell of the grid it never looks past the stored cells. -/
structure Shows (m : Mask) (rows : List (List Bool)) : Prop where
  size_eq : m.size = rows.length
  isLand_eq : ∀ row col : Nat, row < m.size → col < m.size →
    entryAt? rows row col = some (m.isLand ⟨row, col⟩)
  isLand_outside : ∀ c : Cell, ¬ (0 ≤ c.row ∧ c.row < m.size ∧ 0 ≤ c.col ∧ c.col < m.size) →
    m.isLand c = false
  landCount_eq : m.landCount = rows.flatten.count true
  index_lt : ∀ c : Cell, m.inBounds c = true →
    c.row.toNat * m.size + c.col.toNat < m.cells.size

/-- The index of a cell of the grid is one of the stored cells. -/
theorem index_lt_of_inBounds {m : Mask} {c : Cell} (h : m.inBounds c = true) :
    c.row.toNat * m.size + c.col.toNat < m.cells.size := by
  rw [inBounds_iff] at h
  have hrow : c.row.toNat + 1 ≤ m.size := by omega
  have hcol : c.col.toNat < m.size := by omega
  calc c.row.toNat * m.size + c.col.toNat
      < c.row.toNat * m.size + m.size := Nat.add_lt_add_left hcol _
    _ = (c.row.toNat + 1) * m.size := (Nat.succ_mul _ _).symm
    _ ≤ m.size * m.size := Nat.mul_le_mul_right m.size hrow
    _ = m.cells.size := m.size_cells.symm

/-- The mask of rows stores them one after the other. -/
theorem ofRows_eq_ok {rows : List (List Bool)} {m : Mask} (h : ofRows rows = .ok m) :
    IsSquare rows ∧ m.size = rows.length ∧ m.cells = rows.flatten.toArray := by
  unfold ofRows at h
  split at h
  · next hsquare =>
    cases h
    exact ⟨hsquare, rfl, rfl⟩
  · cases h

/-- **The mask of rows shows them.** -/
theorem shows_of_ofRows {rows : List (List Bool)} {m : Mask} (h : ofRows rows = .ok m) :
    m.Shows rows := by
  obtain ⟨⟨-, hlength⟩, hsize, hcells⟩ := ofRows_eq_ok h
  rw [← hsize] at hlength
  refine ⟨hsize, ?_, ?_, ?_, fun _ => index_lt_of_inBounds⟩
  · intro row col hrow hcol
    have hin : m.inBounds ⟨row, col⟩ = true := by
      rw [inBounds_iff]
      dsimp only
      omega
    have hindex : row * m.size + col < m.cells.size := by
      simpa using index_lt_of_inBounds hin
    rw [isLand, hin, Bool.true_and, ← getElem?_flatten hlength row hcol, ← List.getElem?_toArray,
      ← hcells]
    dsimp only
    rw [Int.toNat_natCast, Int.toNat_natCast, Array.getElem?_eq_getElem hindex, Option.getD_some]
  · intro c hc
    rw [← inBounds_iff, Bool.not_eq_true] at hc
    rw [isLand, hc, Bool.false_and]
  · rw [landCount, hcells, List.count_toArray]

/-! ## The law of rows -/

/-- What becomes of rows: they are refused for their fault, or there is a mask that shows
them. -/
structure RowsLaw (rows : List (List Bool)) : Prop where
  /-- The error is the fault of the rows, and rows with a fault are refused. -/
  refused_iff : ∀ e, ofRows rows = .error e ↔ HasFault rows e
  /-- Rows are ragged if one of them has another length than the first, whatever their number. -/
  ragged_iff : (∃ row length expected, ofRows rows = .error (.ragged row length expected)) ↔
    ∃ first ∈ rows.head?, ∃ cells ∈ rows, cells.length ≠ first.length
  /-- All squares are accepted, and nothing else. -/
  accepted_iff : (∃ m, ofRows rows = .ok m) ↔ IsSquare rows
  /-- An accepted square is shown as it is. -/
  shows : ∀ m, ofRows rows = .ok m → m.Shows rows

/-- Rows have a first ragged one if one of them differs in length from the first. -/
theorem exists_ragged_iff (rows : List (List Bool)) :
    (∃ row length expected, ofRows rows = .error (.ragged row length expected)) ↔
      ∃ first ∈ rows.head?, ∃ cells ∈ rows, cells.length ≠ first.length := by
  constructor
  · rintro ⟨row, length, expected, h⟩
    have hragged : FirstRagged rows row length expected := (ofRows_eq_error_iff rows _).mp h
    obtain ⟨first, hfirst, hexpected⟩ := Option.map_eq_some_iff.mp hragged.expected_eq
    obtain ⟨cells, hcells, hlength⟩ := hragged.exists_mem
    refine ⟨first, hfirst, cells, hcells, ?_⟩
    rw [hlength, hexpected]
    exact hragged.differs
  · rintro ⟨first, hfirst, cells, hcells, hdiffers⟩
    have hmem : first ∈ rows := List.mem_of_mem_head? hfirst
    have hsquare : ¬ IsSquare rows := by
      rintro ⟨-, hlength⟩
      exact hdiffers (by rw [hlength cells hcells, hlength first hmem])
    -- of the faults, only that of ragged rows goes with two lengths
    have hfault := hasFault_shapeError hsquare
    rw [ofRows_of_not_isSquare hsquare]
    cases herror : shapeError rows with
    | empty =>
      rw [herror] at hfault
      rw [show rows = [] from hfault] at hmem
      cases hmem
    | ragged row length expected => exact ⟨row, length, expected, rfl⟩
    | notSquare n cols =>
      rw [herror] at hfault
      obtain ⟨-, -, hcols, -⟩ := hfault
      exact absurd (by rw [hcols cells hcells, hcols first hmem]) hdiffers
    | unknownGlyph _ _ _ =>
      rw [herror] at hfault
      exact hfault.elim
    | notRows =>
      rw [herror] at hfault
      exact hfault.elim

theorem rowsLaw_ofRows (rows : List (List Bool)) : RowsLaw rows where
  refused_iff := ofRows_eq_error_iff rows
  ragged_iff := exists_ragged_iff rows
  accepted_iff := ⟨fun ⟨_, hm⟩ => (ofRows_eq_ok hm).1, exists_ofRows⟩
  shows := fun _ => shows_of_ofRows

end Mask

end CityScript
