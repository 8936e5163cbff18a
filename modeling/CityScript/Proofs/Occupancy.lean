/-
The occupancy of a world: the taken cells and the log of the objects tell the same.

A world keeps two records of what stands where. The allocator has the set of the
taken cells, the log has the objects in the order of their placement, and nothing
in the definition of a world ties the one to the other. What ties them is that
every change goes through both: a placement takes a cell and logs an object on it,
clearing empties both, and a failure touches neither. `Consistent` is that tie, and
it is kept by every order because the cell of a new object was free before.

The count of the land follows from it. The free cells are the land that is not
taken, the taken cells are land and none is logged twice, so the length of the log
and the number of free cells add up to the land of the mask.
-/
import CityScript.Proofs.GridCells
import CityScript.Proofs.History

set_option autoImplicit false

namespace CityScript

namespace World

/-! ## The invariant -/

/-- The taken cells are those of the log, one for each object, and all of them land. -/
structure Consistent (w : World) : Prop where
  nodup : w.cells.Nodup
  isReserved_iff : ∀ c, w.grid.isReserved c = true ↔ c ∈ w.cells
  reservedCount_eq : w.grid.reservedCount = w.placed.length
  isLand : ∀ c ∈ w.cells, w.grid.mask.isLand c = true

/-- The records are together if the allocator holds the cells of the log. -/
theorem consistent_iff_holds {w : World} : w.Consistent ↔ w.grid.Holds w.cells := by
  have hlength : w.cells.length = w.placed.length := List.length_map _
  constructor
  · exact fun h => ⟨h.nodup, h.isReserved_iff, by rw [h.reservedCount_eq, hlength], h.isLand⟩
  · exact fun h => ⟨h.nodup, h.isReserved_iff, by rw [h.reservedCount_eq, hlength], h.isLand⟩

theorem consistent_ofMask (mask : Mask) (searchRadius : Nat) (defaultCenter : Cell) :
    (ofMask mask searchRadius defaultCenter).Consistent :=
  consistent_iff_holds.mpr (Allocator.holds_ofMask mask)

/-- A new object on a free cell keeps the records together. -/
theorem Consistent.withObject {w : World} (h : w.Consistent) {object : PlacedObject}
    (hfree : w.grid.isFree object.cell = true) : (w.withObject object).Consistent := by
  rw [consistent_iff_holds, cells_withObject]
  exact (consistent_iff_holds.mp h).take hfree

/-- **Every order keeps the records together.** -/
theorem Consistent.run {w : World} (h : w.Consistent) (o : Order) : (o.run w).2.Consistent := by
  rcases Order.run_cases w o with ⟨object, hfree, hrun⟩ | ⟨_, hrun⟩ | ⟨e, hrun⟩
  · rw [hrun]
    exact h.withObject hfree
  · rw [hrun]
    exact consistent_ofMask w.grid.mask w.searchRadius w.defaultCenter
  · rw [hrun]
    exact h

/-- What no order changes: the mask, how far a search goes, and where it starts. -/
structure SameGround (first w : World) : Prop where
  mask_eq : w.grid.mask = first.grid.mask
  searchRadius_eq : w.searchRadius = first.searchRadius
  defaultCenter_eq : w.defaultCenter = first.defaultCenter

theorem SameGround.refl (w : World) : w.SameGround w := ⟨rfl, rfl, rfl⟩

theorem SameGround.run {first w : World} (h : first.SameGround w) (o : Order) :
    first.SameGround (o.run w).2 := by
  rcases Order.run_cases w o with ⟨object, _, hrun⟩ | ⟨_, hrun⟩ | ⟨e, hrun⟩
  · rw [hrun]
    exact ⟨h.mask_eq, h.searchRadius_eq, h.defaultCenter_eq⟩
  · rw [hrun]
    exact ⟨h.mask_eq, h.searchRadius_eq, h.defaultCenter_eq⟩
  · rw [hrun]
    exact h

/-- The records are together after every history. -/
theorem consistent_after (mask : Mask) (settings : Settings) (orders : List Order) :
    ((World.new mask settings).after orders).Consistent :=
  after_induction (fun _ h o => h.run o) (consistent_ofMask mask _ _) orders

/-- The ground is the same after every history. -/
theorem sameGround_after (first : World) (orders : List Order) :
    first.SameGround (first.after orders) :=
  after_induction (fun _ h o => h.run o) (SameGround.refl first) orders

/-! ## The law of occupancy -/

/-- What holds of a world that a first one has become. -/
structure OccupancyLaw (first w : World) : Prop where
  /-- No two objects stand on one cell. -/
  nodup : (w.placed.map (·.cell)).Nodup
  /-- The taken cells are those of the objects. -/
  isReserved_iff : ∀ c, w.grid.isReserved c = true ↔ c ∈ w.placed.map (·.cell)
  /-- There are as many of them as objects. -/
  reservedCount_eq : w.grid.reservedCount = w.placed.length
  /-- They are on the grid and land. -/
  ground : ∀ c ∈ w.placed.map (·.cell),
    first.grid.mask.inBounds c = true ∧ first.grid.mask.isLand c = true
  /-- The land is what is taken and what is free. -/
  landCount_eq : w.grid.reservedCount + w.grid.freeCells.length = first.grid.mask.landCount
  /-- The mask and the way to search are those of the first world. -/
  same : w.grid.mask = first.grid.mask ∧ w.searchRadius = first.searchRadius ∧
    w.defaultCenter = first.defaultCenter
  /-- A placement near a position fails only for want of a free cell, and without a trace. -/
  placeNear_error : ∀ kind row col details e,
    (w.placeNear kind row col details).1 = .error e →
      e = .noFreeCell kind (w.centerFor row col) w.searchRadius ∧
        (w.placeNear kind row col details).2 = w
  /-- A placement on an exact cell fails only if that is not free, and without a trace. -/
  placeAt_error : ∀ kind cell details e,
    (w.placeAt kind cell details).1 = .error e →
      e = .cellUnavailable cell ∧ (w.placeAt kind cell details).2 = w
  /-- The cell that is chosen near a position can be taken. -/
  reserve_cellNear : ∀ row col cell, w.cellNear? row col = some cell →
    (w.grid.reserve cell).1 = .ok ()

theorem Consistent.occupancyLaw {first w : World} (h : w.Consistent) (hsame : first.SameGround w) :
    first.OccupancyLaw w where
  nodup := h.nodup
  isReserved_iff := h.isReserved_iff
  reservedCount_eq := h.reservedCount_eq
  ground := by
    intro c hc
    have hland : first.grid.mask.isLand c = true := by
      rw [← hsame.mask_eq]
      exact h.isLand c hc
    refine ⟨?_, hland⟩
    rw [Mask.isLand, Bool.and_eq_true] at hland
    exact hland.1
  landCount_eq := by
    have hlength := (consistent_iff_holds.mp h).length_add_length_freeCells
    rw [cells, List.length_map, hsame.mask_eq] at hlength
    rw [h.reservedCount_eq, hlength]
  same := ⟨hsame.mask_eq, hsame.searchRadius_eq, hsame.defaultCenter_eq⟩
  placeNear_error := fun _ _ _ _ _ herror => World.placeNear_error herror
  placeAt_error := fun _ _ _ _ herror => World.placeAt_error herror
  reserve_cellNear := by
    intro row col cell hcell
    rw [Allocator.reserve_of_isFree (isFree_of_cellNear? hcell)]

/-- **The law of occupancy** holds after every history of a new world, and in every
session that starts with one, whatever its catalog and its registry. -/
theorem occupancyLaw_of_every_history (mask : Mask) (settings : Settings) :
    (∀ orders : List Order,
      (World.new mask settings).OccupancyLaw ((World.new mask settings).after orders)) ∧
    (∀ (catalog : Catalog) (registry : Registry) (changes : List Session.Change),
      (World.new mask settings).OccupancyLaw
        ((⟨catalog, registry, .new mask settings⟩ : Session).after changes).world) := by
  have hlaw : ∀ orders : List Order,
      (World.new mask settings).OccupancyLaw ((World.new mask settings).after orders) := by
    intro orders
    exact (consistent_after mask settings orders).occupancyLaw (sameGround_after _ orders)
  refine ⟨hlaw, ?_⟩
  intro catalog registry changes
  obtain ⟨orders, horders⟩ :=
    (⟨catalog, registry, .new mask settings⟩ : Session).after_eq_after changes
  rw [horders]
  exact hlaw orders

end World

end CityScript
