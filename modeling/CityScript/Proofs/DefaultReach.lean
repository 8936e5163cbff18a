/-
With default settings no free land is out of reach.

When neither a radius nor a centre is set, a search starts in the middle of the grid
and goes half the side of the grid far. The middle is rounded down, and so is the
radius; with an even side the last row is one nearer to the middle than the first,
with an odd side both are as near. In either case the farthest cells of the grid are
just within the radius. So a placement without a position fails only when the whole
grid has no free cell, and by the law of occupancy that is when as many cells are
taken as there is land.

Both settings follow from the mask, so the grid size that the settings name does not
matter. The radius has 32 bits, which is why the side of the mask has a bound.
-/
import Mathlib.Algebra.Group.Nat.Defs
import CityScript.Proofs.Occupancy
import CityScript.Proofs.Requirements

set_option autoImplicit false

namespace CityScript

/-! ## The middle of the grid -/

/-- **From the middle of a grid every cell is within half its side.** -/
theorem Cell.distance_middle_le {size : Nat} {c : Cell}
    (hc : 0 ≤ c.row ∧ c.row < size ∧ 0 ≤ c.col ∧ c.col < size) :
    c.distance ⟨(size / 2 : Nat), (size / 2 : Nat)⟩ ≤ size / 2 := by
  unfold Cell.distance
  dsimp only
  omega

namespace World

/-- The radius that follows from the mask, unless its side has more than 33 bits. -/
theorem searchRadius_new {mask : Mask} (hsize : mask.size < 2 ^ 33) (gridSize : Nat) :
    (World.new mask { gridSize }).searchRadius = mask.size / 2 := by
  have hword : mask.size / 2 ≤ maxWord32 := by
    unfold maxWord32
    omega
  exact Nat.min_eq_left hword

theorem defaultCenter_new (mask : Mask) (gridSize : Nat) :
    (World.new mask { gridSize }).defaultCenter =
      ⟨(mask.size / 2 : Nat), (mask.size / 2 : Nat)⟩ := rfl

/-- A world whose searches start in the middle and go half the side far. -/
structure SearchesAll (w : World) : Prop where
  searchRadius_eq : w.searchRadius = w.grid.mask.size / 2
  defaultCenter_eq : w.defaultCenter =
    ⟨(w.grid.mask.size / 2 : Nat), (w.grid.mask.size / 2 : Nat)⟩

/-- Every history of a new world with default settings keeps the way to search. -/
theorem searchesAll_after {mask : Mask} (hsize : mask.size < 2 ^ 33) (gridSize : Nat)
    (orders : List Order) : ((World.new mask { gridSize }).after orders).SearchesAll := by
  have hsame := sameGround_after (World.new mask { gridSize }) orders
  have hmask : ((World.new mask { gridSize }).after orders).grid.mask = mask := hsame.mask_eq
  refine ⟨?_, ?_⟩
  · rw [hsame.searchRadius_eq, hmask, searchRadius_new hsize]
  · rw [hsame.defaultCenter_eq, hmask, defaultCenter_new]

/-! ## Searches without a position -/

/-- **A search from the middle fails only on a full grid.** -/
theorem SearchesAll.cellNear?_eq_none_iff {w : World} (h : w.SearchesAll) :
    w.cellNear? none none = none ↔ ∀ c, w.grid.isFree c = false := by
  have hcenter : w.defaultCenter ≠ .least := by
    rw [h.defaultCenter_eq]
    intro hleast
    have hrow : ((w.grid.mask.size / 2 : Nat) : Int) = minInt64 := congrArg Cell.row hleast
    unfold minInt64 at hrow
    omega
  have hcell : w.cellNear? none none = w.grid.findFree? w.defaultCenter w.searchRadius := by
    rw [← Allocator.findFreeInWords?_of_ne hcenter]
    unfold cellNear?
    exact if_neg fun hexact => Bool.false_ne_true hexact.1
  rw [hcell, Allocator.findFree?_eq_none_iff]
  constructor
  · intro hfar c
    rw [Bool.eq_false_iff]
    intro hfree
    have hin := (w.grid.mask.inBounds_iff c).mp (Allocator.inBounds_of_isFree hfree)
    have hnear := Cell.distance_middle_le hin
    have hout := hfar c hfree
    rw [h.searchRadius_eq, h.defaultCenter_eq] at hout
    omega
  · intro hfull c hfree
    rw [hfull c] at hfree
    cases hfree

/-- **The grid is full exactly if as many cells are taken as there is land.** -/
theorem Consistent.reservedCount_eq_landCount_iff {w : World} (h : w.Consistent) :
    w.grid.reservedCount = w.grid.mask.landCount ↔ ∀ c, w.grid.isFree c = false := by
  have hlength := (consistent_iff_holds.mp h).length_add_length_freeCells
  rw [cells, List.length_map] at hlength
  have hempty : (∀ c, w.grid.isFree c = false) ↔ w.grid.freeCells.length = 0 := by
    rw [List.length_eq_zero_iff, List.eq_nil_iff_forall_not_mem]
    simp only [Allocator.mem_freeCells, Bool.not_eq_true]
  rw [hempty, h.reservedCount_eq]
  omega

end World

/-! ## Calls without a position -/

/-- The order of a call that builds near no position in particular. -/
theorem Operation.order_build {kind : Kind} (hkind : kind ≠ .road) {arguments : List Value}
    (hrow : Argument.get arguments 0 = .null) (hcol : Argument.get arguments 1 = .null)
    {details : Details} (hdetails : kind.detailForm.read arguments = .ok details) :
    (Operation.build kind).order arguments = .ok (.placeNear kind none none details) := by
  rw [order_of_ne_road hkind, orderNear, hrow, hcol, hdetails]
  rfl

theorem Registry.isOk_step_build {registry : Registry} {call : Call} {kind : Kind}
    (hbound : registry.get? call.operation = some (.build kind)) {details : Details}
    (horder : (Operation.build kind).order call.arguments =
      .ok (.placeNear kind none none details)) (w : World) :
    (registry.step w call).1.isOk = false ↔ w.cellNear? none none = none := by
  have hperform : registry.perform w call =
      ((w.placeNear kind none none details).1.map Outcome.placed |>.mapError CallError.placement,
        (w.placeNear kind none none details).2) := by
    rw [perform, hbound]
    dsimp only
    rw [Operation.run, horder]
    rfl
  rw [step, hperform, CallResult.isOk]
  dsimp only
  cases hcell : w.cellNear? none none with
  | none => simp [World.placeNear_of_none hcell, Except.map, Except.mapError]
  | some cell => simp [World.placeNear_of_some hcell, Except.map, Except.mapError]

namespace Session

/-- The session has begun with the new world of a mask, with any catalog and any registry,
and has any history since. -/
def BegunOn (mask : Mask) (settings : Settings) (s : Session) : Prop :=
  ∃ (first : Session) (changes : List Change),
    first.world = .new mask settings ∧ s = first.after changes

theorem BegunOn.exists_orders {mask : Mask} {settings : Settings} {s : Session}
    (h : s.BegunOn mask settings) :
    ∃ orders : List Order, s.world = (World.new mask settings).after orders := by
  obtain ⟨first, changes, hfirst, rfl⟩ := h
  obtain ⟨orders, horders⟩ := first.after_eq_after changes
  exact ⟨orders, by rw [horders, hfirst]⟩

/-- **Default settings never strand free land.** In every session on a mask for which
neither a radius nor a centre is set, whatever its history, a call that builds a thing
other than a road without a position, and with arguments that are fine otherwise, fails
exactly if as many cells are taken as there is land, which is if no cell of the grid is
free. -/
theorem build_fails_iff_full (mask : Mask) (hsize : mask.size < 2 ^ 33) (gridSize : Nat)
    (s : Session) (hs : s.BegunOn mask { gridSize }) (call : Call) (kind : Kind)
    (hkind : kind ≠ .road) (hbound : s.registry.get? call.operation = some (.build kind))
    (hrow : Argument.get call.arguments 0 = .null) (hcol : Argument.get call.arguments 1 = .null)
    (details : Details) (hdetails : kind.detailForm.read call.arguments = .ok details) :
    ((s.registry.step s.world call).1.isOk = false ↔
      s.world.grid.reservedCount = mask.landCount) ∧
    (s.world.grid.reservedCount = mask.landCount ↔ ∀ c, s.world.grid.isFree c = false) := by
  obtain ⟨orders, hworld⟩ := hs.exists_orders
  have hmask : ((World.new mask { gridSize }).after orders).grid.mask = mask :=
    (World.sameGround_after _ orders).mask_eq
  have hfull := (World.consistent_after mask { gridSize } orders).reservedCount_eq_landCount_iff
  rw [hmask] at hfull
  rw [hworld]
  refine ⟨?_, hfull⟩
  rw [hfull, Registry.isOk_step_build hbound (Operation.order_build hkind hrow hcol hdetails),
    (World.searchesAll_after hsize gridSize orders).cellNear?_eq_none_iff]

/-- One road takes the only cell of a grid, so a house finds no place. -/
theorem build_fails_iff_full_house :
    let s := (⟨.builtin, .builtin, .new (.allLand 1) { gridSize := 7 }⟩ : Session).after
      [.run "build_road(0, 0)"]
    let call : Call :=
      ⟨(Operation.build .house).name, [.null, .null, .number (.ofInt 1), .text ""], "", 1⟩
    (Mask.allLand 1).size < 2 ^ 33 ∧ s.BegunOn (.allLand 1) { gridSize := 7 } ∧
    Kind.house ≠ .road ∧ s.registry.get? call.operation = some (.build .house) ∧
    Argument.get call.arguments 0 = .null ∧ Argument.get call.arguments 1 = .null ∧
    Kind.house.detailForm.read call.arguments = .ok { floors := some 1 } ∧
    s.world.grid.reservedCount = (Mask.allLand 1).landCount ∧
    (s.registry.step s.world call).1.isOk = false := by
  intro s call
  have hsize : (Mask.allLand 1).size < 2 ^ 33 := by decide
  have hs : s.BegunOn (.allLand 1) { gridSize := 7 } := ⟨_, _, rfl, rfl⟩
  have hkind : Kind.house ≠ .road := by decide
  have hbound : s.registry.get? call.operation = some (.build .house) := by
    have hregistry : s.registry = .builtin := congrArg registry (after_eq_withWorld _ _)
    rw [hregistry]
    exact Registry.get?_builtin (.build .house)
  have hrow : Argument.get call.arguments 0 = .null := rfl
  have hcol : Argument.get call.arguments 1 = .null := rfl
  have hdetails : Kind.house.detailForm.read call.arguments = .ok { floors := some 1 } := by
    decide +kernel
  have hcount : s.world.grid.reservedCount = (Mask.allLand 1).landCount := by decide +kernel
  have hfull := build_fails_iff_full (.allLand 1) hsize 7 s hs call .house hkind hbound hrow hcol
    { floors := some 1 } hdetails
  exact ⟨hsize, hs, hkind, hbound, hrow, hcol, hdetails, hcount, hfull.1.mpr hcount⟩

end Session

end CityScript
