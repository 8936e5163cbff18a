/-
What the map shows is what stands in the world.

The map is drawn from the log: of two objects on one cell the later one would hide the
earlier, and an object outside the grid would not be drawn at all. Neither occurs in a world
that has a history, because its objects stand on cells of their own and on land. So every
object is shown, by one character, and what is left of the map is the ground.

An object is never taken for ground, nor for an object of another kind, since no two glyphs
are the same. That makes the map a full account of what stands where: worlds over one mask
have one map only if they have the same kinds on the same cells. Of the order of the log, and
of the names, floors and directions, the map says nothing.
-/
import Mathlib.Data.List.Nodup
import CityScript.Proofs.MaskRows
import CityScript.Proofs.Occupancy
import CityScript.Proofs.Replay

set_option autoImplicit false

namespace CityScript

/-! ## Characters of the map -/

/-- The character of bare ground. -/
def groundGlyph (land : Bool) : Char := if land then '.' else '~'

/-- Whether a character stands for an object: it is no ground, and it ends no row. -/
def isObjectGlyph (c : Char) : Bool := c != '.' && c != '~' && c != '\n'

@[simp] theorem isObjectGlyph_glyph (kind : Kind) : isObjectGlyph kind.glyph = true := by
  cases kind <;> decide

@[simp] theorem isObjectGlyph_groundGlyph (land : Bool) :
    isObjectGlyph (groundGlyph land) = false := by
  cases land <;> decide

theorem groundGlyph_ne_newline (land : Bool) : groundGlyph land ≠ '\n' := by
  cases land <;> decide

theorem Kind.glyph_ne_newline (kind : Kind) : kind.glyph ≠ '\n' := by
  cases kind <;> decide

/-! ## Rows of characters -/

/-- The rows of a square, one after the other, are its entries as the grid is read. -/
theorem flatten_eq_map_gridCells {α : Type} {rows : List (List α)} {n : Nat} {f : Cell → α}
    (hlength : rows.length = n) (hrows : ∀ cells ∈ rows, cells.length = n)
    (hentry : ∀ row col : Nat, row < n → col < n → entryAt? rows row col = some (f ⟨row, col⟩)) :
    rows.flatten = (gridCells n).map f := by
  have hsize : rows.flatten.length = n * n := by
    rw [List.length_flatten, List.map_congr_left hrows, List.map_const', List.sum_replicate_nat,
      hlength]
  refine List.ext_getElem? ?_
  intro i
  by_cases hi : i < n * n
  · have hn : 0 < n := Nat.pos_of_ne_zero (by rintro rfl; simp at hi)
    have hrow : i / n < n := Nat.div_lt_of_lt_mul hi
    have hcol : i % n < n := Nat.mod_lt i hn
    have hindex : i / n * n + i % n = i := by
      rw [Nat.mul_comm]
      exact Nat.div_add_mod i n
    have hflat := getElem?_flatten hrows (i / n) hcol
    rw [hindex, hentry _ _ hrow hcol] at hflat
    rw [hflat]
    simp [gridCells, hi]
  · rw [List.getElem?_eq_none (by omega), List.getElem?_eq_none (by simp [gridCells]; omega)]

/-- Line feeds between rows are no objects. -/
theorem filter_isObjectGlyph_intercalate (rows : List (List Char)) :
    (['\n'].intercalate rows).filter isObjectGlyph = rows.flatten.filter isObjectGlyph := by
  induction rows with
  | nil => rfl
  | cons row rows ih =>
    cases rows with
    | nil => simp
    | cons next rows =>
      have hnewline : ['\n'].filter isObjectGlyph = [] := by decide
      rw [List.intercalate_cons_cons, List.filter_append, List.filter_append, ih, hnewline,
        List.append_nil, ← List.filter_append, ← List.flatten_cons]

namespace World

/-! ## What is drawn -/

/-- What the map of a world shows at a cell. -/
def shownAt (w : World) (c : Cell) : Char := w.glyphAt w.glyphs c

/-- Drawing objects one after the other, over what is drawn already. -/
theorem getElem?_foldl_insert_glyph {placed : List PlacedObject}
    (hnodup : (placed.map (·.cell)).Nodup) (drawn : Std.TreeMap Cell Char) (c : Cell) :
    (placed.foldl (fun drawn o => drawn.insert o.cell o.kind.glyph) drawn)[c]? =
      ((placed.find? (·.cell = c)).map (·.kind.glyph)).or drawn[c]? := by
  induction placed generalizing drawn with
  | nil => simp
  | cons o placed ih =>
    rw [List.map_cons, List.nodup_cons] at hnodup
    obtain ⟨hnew, hnodup⟩ := hnodup
    rw [List.foldl_cons, ih hnodup, Std.TreeMap.getElem?_insert, List.find?_cons]
    by_cases hc : o.cell = c
    · -- no later object stands on the cell, so what is drawn there stays
      have hnone : placed.find? (·.cell = c) = none := by
        rw [List.find?_eq_none]
        intro o' ho' hcell
        exact hnew (List.mem_map.mpr ⟨o', ho', by rw [hc]; simpa using hcell⟩)
      simp [hnone, hc]
    · simp [hc]

/-- A cell without an object shows the ground. -/
theorem shownAt_of_forall_ne {w : World} (h : w.cells.Nodup) {c : Cell}
    (hc : ∀ o ∈ w.placed, o.cell ≠ c) : w.shownAt c = groundGlyph (w.grid.mask.isLand c) := by
  have hnone : w.placed.find? (·.cell = c) = none := by
    rw [List.find?_eq_none]
    intro o ho hcell
    exact hc o ho (by simpa using hcell)
  rw [shownAt, glyphAt, glyphs, getElem?_foldl_insert_glyph h, hnone]
  simp [groundGlyph]

/-- **A cell with an object shows it.** -/
theorem shownAt_of_mem {w : World} (h : w.cells.Nodup) {o : PlacedObject} (ho : o ∈ w.placed) :
    w.shownAt o.cell = o.kind.glyph := by
  have hsome : w.placed.find? (·.cell = o.cell) = some o := by
    cases hfind : w.placed.find? (·.cell = o.cell) with
    | none => exact absurd (by simp) (List.find?_eq_none.mp hfind o ho)
    | some o' =>
      have hcell : o'.cell = o.cell := by simpa using List.find?_some hfind
      rw [List.inj_on_of_nodup_map h (List.mem_of_find?_eq_some hfind) ho hcell]
  rw [shownAt, glyphAt, glyphs, getElem?_foldl_insert_glyph h, hsome]
  simp

/-- What is shown at a cell is an object if one stands there. -/
theorem isObjectGlyph_shownAt {w : World} (h : w.cells.Nodup) (c : Cell) :
    isObjectGlyph (w.shownAt c) = true ↔ c ∈ w.cells := by
  rw [cells, List.mem_map]
  constructor
  · intro hglyph
    by_contra hnone
    rw [shownAt_of_forall_ne h fun o ho hc => hnone ⟨o, ho, hc⟩] at hglyph
    simp at hglyph
  · rintro ⟨o, ho, rfl⟩
    rw [shownAt_of_mem h ho, isObjectGlyph_glyph]

theorem shownAt_ne_newline {w : World} (h : w.cells.Nodup) (c : Cell) : w.shownAt c ≠ '\n' := by
  by_cases hc : ∃ o ∈ w.placed, o.cell = c
  · obtain ⟨o, ho, rfl⟩ := hc
    rw [shownAt_of_mem h ho]
    exact o.kind.glyph_ne_newline
  · rw [shownAt_of_forall_ne h fun o ho heq => hc ⟨o, ho, heq⟩]
    exact groundGlyph_ne_newline _

/-! ## The rows of the map -/

@[simp] theorem length_mapRows (w : World) : w.mapRows.length = w.grid.mask.size := by
  simp [mapRows]

theorem length_of_mem_mapRows {w : World} {row : List Char} (h : row ∈ w.mapRows) :
    row.length = w.grid.mask.size := by
  obtain ⟨r, -, rfl⟩ := List.mem_map.mp h
  simp

theorem entryAt?_mapRows (w : World) {row col : Nat} (hrow : row < w.grid.mask.size)
    (hcol : col < w.grid.mask.size) :
    entryAt? w.mapRows row col = some (w.shownAt ⟨row, col⟩) := by
  simp [entryAt?, mapRows, hrow, hcol, shownAt]

theorem toList_map (w : World) : w.map.toList = ['\n'].intercalate w.mapRows := by
  have hrows : (w.mapRows.map String.ofList).map String.toList = w.mapRows := by
    rw [List.map_map]
    refine List.map_id'' ?_ _
    intro row
    exact String.toList_ofList
  rw [map, String.toList_intercalate, hrows]
  rfl

theorem flatten_mapRows (w : World) :
    w.mapRows.flatten = (gridCells w.grid.mask.size).map w.shownAt :=
  flatten_eq_map_gridCells w.length_mapRows (fun _ => length_of_mem_mapRows)
    fun _ _ => w.entryAt?_mapRows

/-- **Every object is shown once**: the characters of the map that stand for objects are the
glyphs of the log. -/
theorem filter_isObjectGlyph_map {w : World} (h : w.Consistent) :
    (w.map.toList.filter isObjectGlyph).Perm (w.placed.map (·.kind.glyph)) := by
  have hcells : ((gridCells w.grid.mask.size).filter (isObjectGlyph ∘ w.shownAt)).Perm w.cells := by
    refine (List.perm_ext_iff_of_nodup ((gridCells_nodup _).filter _) h.nodup).mpr ?_
    intro c
    rw [List.mem_filter, Function.comp_apply, isObjectGlyph_shownAt h.nodup, mem_gridCells,
      ← Mask.inBounds_iff]
    refine and_iff_right_of_imp ?_
    intro hc
    have hland := h.isLand c hc
    rw [Mask.isLand, Bool.and_eq_true] at hland
    exact hland.1
  have hglyphs : w.cells.map w.shownAt = w.placed.map (·.kind.glyph) := by
    rw [cells, List.map_map]
    exact List.map_congr_left fun o ho => shownAt_of_mem h.nodup ho
  rw [toList_map, filter_isObjectGlyph_intercalate, flatten_mapRows, List.filter_map, ← hglyphs]
  exact hcells.map w.shownAt

/-! ## The map of one world -/

/-- Rows of characters that picture a world: a character for each cell, the glyph of the object
on it, or the ground where there is none. -/
structure Pictures (w : World) (rows : List (List Char)) : Prop where
  length_eq : rows.length = w.grid.mask.size
  length_row : ∀ row ∈ rows, row.length = w.grid.mask.size
  object : ∀ o ∈ w.placed, ∃ row col : Nat, row < w.grid.mask.size ∧ col < w.grid.mask.size ∧
    o.cell = ⟨row, col⟩ ∧ entryAt? rows row col = some o.kind.glyph
  ground : ∀ row col : Nat, row < w.grid.mask.size → col < w.grid.mask.size →
    (∀ o ∈ w.placed, o.cell ≠ ⟨row, col⟩) →
    entryAt? rows row col = some (groundGlyph (w.grid.mask.isLand ⟨row, col⟩))

theorem pictures_mapRows {w : World} (h : w.Consistent) : w.Pictures w.mapRows where
  length_eq := w.length_mapRows
  length_row := fun _ => length_of_mem_mapRows
  object := by
    intro o ho
    have hland := h.isLand o.cell (List.mem_map.mpr ⟨o, ho, rfl⟩)
    rw [Mask.isLand, Bool.and_eq_true, Mask.inBounds_iff] at hland
    obtain ⟨⟨hrow, hrow', hcol, hcol'⟩, -⟩ := hland
    -- the coordinates of a cell of the grid are natural numbers
    have hcell : o.cell = ⟨o.cell.row.toNat, o.cell.col.toNat⟩ := by
      rw [Int.toNat_of_nonneg hrow, Int.toNat_of_nonneg hcol]
    refine ⟨o.cell.row.toNat, o.cell.col.toNat, by omega, by omega, hcell, ?_⟩
    rw [w.entryAt?_mapRows (by omega) (by omega), ← hcell, shownAt_of_mem h.nodup ho]
  ground := by
    intro row col hrow hcol hnone
    rw [w.entryAt?_mapRows hrow hcol, shownAt_of_forall_ne h.nodup hnone]

/-- What the map of a world says of it. -/
structure MapLaw (w : World) : Prop where
  /-- The map is rows of characters that picture the world, with line feeds between them. -/
  pictures : ∃ rows, w.map.toList = ['\n'].intercalate rows ∧ w.Pictures rows
  /-- No two objects stand on one cell. -/
  nodup : (w.placed.map (·.cell)).Nodup
  /-- The characters for objects are those of the log, each as often as there. -/
  glyphs_perm : (w.map.toList.filter isObjectGlyph).Perm (w.placed.map (·.kind.glyph))
  /-- There are as many of them as objects. -/
  count_eq : w.map.toList.countP isObjectGlyph = w.placed.length

theorem Consistent.mapLaw {w : World} (h : w.Consistent) : w.MapLaw where
  pictures := ⟨w.mapRows, w.toList_map, pictures_mapRows h⟩
  nodup := h.nodup
  glyphs_perm := filter_isObjectGlyph_map h
  count_eq := by
    rw [List.countP_eq_length_filter, (filter_isObjectGlyph_map h).length_eq, List.length_map]

/-! ## The maps of two worlds -/

/-- An object of one world is one of the other, too, if both show the same. -/
theorem mem_placements_of_shownAt {w w' : World} (h : w.Consistent) (h' : w'.Consistent)
    (hshown : ∀ c, w.grid.mask.inBounds c = true → w.shownAt c = w'.shownAt c) {p : Placement}
    (hp : p ∈ w.placements) : p ∈ w'.placements := by
  obtain ⟨o, ho, rfl⟩ := List.mem_map.mp hp
  have hcell : o.cell ∈ w.cells := List.mem_map.mpr ⟨o, ho, rfl⟩
  have hland := h.isLand o.cell hcell
  rw [Mask.isLand, Bool.and_eq_true] at hland
  have heq := hshown o.cell hland.1
  rw [shownAt_of_mem h.nodup ho] at heq
  -- the other world shows an object there as well, and its glyph tells the kind
  have hcell' : o.cell ∈ w'.cells := by
    rw [← isObjectGlyph_shownAt h'.nodup, ← heq, isObjectGlyph_glyph]
  obtain ⟨o', ho', hsame⟩ := List.mem_map.mp hcell'
  rw [← hsame, shownAt_of_mem h'.nodup ho'] at heq
  refine List.mem_map.mpr ⟨o', ho', ?_⟩
  rw [PlacedObject.placement, PlacedObject.placement, hsame, Kind.glyph_injective _ _ heq]

/-- Worlds with the same kinds on the same cells show the same. -/
theorem shownAt_eq_of_placements {w w' : World} (h : w.Consistent) (h' : w'.Consistent)
    (hmask : w.grid.mask = w'.grid.mask) (hsame : ∀ p, p ∈ w.placements ↔ p ∈ w'.placements)
    (c : Cell) :
    w.shownAt c = w'.shownAt c := by
  by_cases hc : ∃ o ∈ w.placed, o.cell = c
  · obtain ⟨o, ho, rfl⟩ := hc
    obtain ⟨o', ho', heq⟩ := List.mem_map.mp ((hsame _).mp (List.mem_map.mpr ⟨o, ho, rfl⟩))
    rw [PlacedObject.placement, PlacedObject.placement, Placement.mk.injEq] at heq
    rw [shownAt_of_mem h.nodup ho, ← heq.1, shownAt_of_mem h'.nodup ho', heq.2]
  · have hnone : ∀ o ∈ w.placed, o.cell ≠ c := fun o ho hcell => hc ⟨o, ho, hcell⟩
    have hnone' : ∀ o ∈ w'.placed, o.cell ≠ c := by
      rintro o' ho' rfl
      obtain ⟨o, ho, heq⟩ := List.mem_map.mp ((hsame _).mpr (List.mem_map.mpr ⟨o', ho', rfl⟩))
      rw [PlacedObject.placement, PlacedObject.placement, Placement.mk.injEq] at heq
      exact hnone o ho heq.1
    rw [shownAt_of_forall_ne h.nodup hnone, shownAt_of_forall_ne h'.nodup hnone', hmask]

section Two

variable {w w' : World} (h : w.Consistent) (h' : w'.Consistent)
  (hmask : w.grid.mask = w'.grid.mask)
include h h' hmask

/-- Equal maps have equal rows, since no character of a row is a line feed. -/
theorem mapRows_eq_of_map_eq (hmap : w.map = w'.map) : w.mapRows = w'.mapRows := by
  have hnewline : ∀ {w : World}, w.Consistent → ∀ row ∈ w.mapRows, '\n' ∉ row := by
    intro w h row hrow hmem
    obtain ⟨r, -, rfl⟩ := List.mem_map.mp hrow
    obtain ⟨c, -, hc⟩ := List.mem_map.mp hmem
    exact shownAt_ne_newline h.nodup _ hc
  have htext : ['\n'].intercalate w.mapRows = ['\n'].intercalate w'.mapRows := by
    rw [← toList_map, ← toList_map, hmap]
  have hlength : w.mapRows.length = w'.mapRows.length := by
    rw [length_mapRows, length_mapRows, hmask]
  by_cases hnil : w.mapRows = []
  · rw [hnil] at hlength ⊢
    exact (List.eq_nil_of_length_eq_zero hlength.symm).symm
  · have hnil' : w'.mapRows ≠ [] := by
      intro heq
      rw [heq] at hlength
      exact hnil (List.eq_nil_of_length_eq_zero hlength)
    rw [← List.splitOn_intercalate '\n' (hnewline h) hnil, htext,
      List.splitOn_intercalate '\n' (hnewline h') hnil']

/-- **Equal maps show the same on every cell of the grid**, and only they do. -/
theorem map_eq_iff_shownAt :
    w.map = w'.map ↔ ∀ c, w.grid.mask.inBounds c = true → w.shownAt c = w'.shownAt c := by
  constructor
  · intro hmap c hc
    have hrows := congrArg List.flatten (mapRows_eq_of_map_eq h h' hmask hmap)
    rw [flatten_mapRows, flatten_mapRows, ← hmask, List.map_inj_left] at hrows
    exact hrows c (mem_gridCells.mpr ((w.grid.mask.inBounds_iff c).mp hc))
  · intro hshown
    have hrows : w.mapRows = w'.mapRows := by
      rw [mapRows, mapRows, ← hmask]
      refine List.map_congr_left ?_
      intro row hrow
      refine List.map_congr_left ?_
      intro col hcol
      rw [List.mem_range] at hrow hcol
      refine hshown ⟨row, col⟩ ((w.grid.mask.inBounds_iff _).mpr ?_)
      dsimp only
      omega
    rw [map, map, hrows]

/-- **Equal maps have the same objects.** -/
theorem map_eq_iff_placements :
    w.map = w'.map ↔ ∀ p, p ∈ w.placements ↔ p ∈ w'.placements := by
  rw [map_eq_iff_shownAt h h' hmask]
  constructor
  · intro hshown p
    refine ⟨mem_placements_of_shownAt h h' hshown, mem_placements_of_shownAt h' h ?_⟩
    intro c hc
    rw [← hmask] at hc
    exact (hshown c hc).symm
  · intro hsame c _
    exact shownAt_eq_of_placements h h' hmask hsame c

end Two

/-- **The map shows the world as it is.** After every history of a new world its map pictures
it: the glyph of the object on each cell, or else the ground. Every object is shown once. And
two worlds over one mask, whatever their settings and their histories, have the same map if the
same kinds stand on the same cells, and only then. -/
theorem map_faithful (mask : Mask) (settings : Settings) (orders : List Order) :
    let w := (World.new mask settings).after orders
    w.MapLaw ∧ w.grid.mask = mask ∧
      ∀ (settings' : Settings) (orders' : List Order),
        let w' := (World.new mask settings').after orders'
        w.map = w'.map ↔ ∀ p, p ∈ w.placements ↔ p ∈ w'.placements := by
  have hmask : ∀ (s : Settings) (o : List Order),
      ((World.new mask s).after o).grid.mask = mask := fun s o =>
    (sameGround_after (World.new mask s) o).mask_eq
  refine ⟨(consistent_after mask settings orders).mapLaw, hmask settings orders, ?_⟩
  intro settings' orders'
  refine map_eq_iff_placements (consistent_after mask settings orders)
    (consistent_after mask settings' orders') ?_
  rw [hmask, hmask]

end World

end CityScript
