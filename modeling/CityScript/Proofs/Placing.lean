/-
What a placement, an order and a call can do to a world.

A placement either adds one object on a free cell or changes nothing. That is
clear of a placement on an exact cell. Of a placement near a position it needs the
search: the cell that was chosen is then taken by `Allocator.reserve`, which fails
on a cell that is not free, and only because the search never names such a cell
does that second failure not occur.

`Order.run_cases`, `Registry.perform_cases` and `Registry.step_cases` say once what one
step can do. Everything about runs is derived from them, without a look at the
definitions.
-/
import CityScript.Session.Basic
import CityScript.Proofs.NearestCell

set_option autoImplicit false

namespace CityScript

namespace World

/-- The cells of the objects, in the order of the log. -/
def cells (w : World) : List Cell := w.placed.map (·.cell)

/-- The world with one more object, on a cell of its own. -/
def withObject (w : World) (object : PlacedObject) : World :=
  { w with grid := w.grid.take object.cell, placed := w.placed ++ [object] }

@[simp] theorem cells_withObject (w : World) (object : PlacedObject) :
    (w.withObject object).cells = w.cells ++ [object.cell] := by
  simp [cells, withObject]

/-! ## Placements -/

theorem placeAt_of_isFree {w : World} {cell : Cell} (h : w.grid.isFree cell = true) (kind : Kind)
    (details : Details) :
    w.placeAt kind cell details = (.ok ⟨cell, kind⟩, w.withObject ⟨cell, kind, details⟩) := by
  rw [placeAt, Allocator.reserve_of_isFree h]
  rfl

theorem placeAt_of_not_isFree {w : World} {cell : Cell} (h : ¬ w.grid.isFree cell = true)
    (kind : Kind) (details : Details) :
    w.placeAt kind cell details = (.error (.cellUnavailable cell), w) := by
  rw [placeAt, Allocator.reserve_of_not_isFree h]

/-- **The chosen cell is free**, be it the preferred one or found by the search. -/
theorem isFree_of_cellNear? {w : World} {row col : Option Int} {cell : Cell}
    (h : w.cellNear? row col = some cell) : w.grid.isFree cell = true := by
  unfold cellNear? at h
  dsimp only at h
  split at h
  · next hexact =>
    cases h
    exact hexact.2.2
  · exact Allocator.isFree_of_findFreeInWords? h

theorem placeNear_of_some {w : World} {row col : Option Int} {cell : Cell}
    (h : w.cellNear? row col = some cell) (kind : Kind) (details : Details) :
    w.placeNear kind row col details =
      (.ok ⟨cell, kind⟩, w.withObject ⟨cell, kind, details⟩) := by
  rw [placeNear, h]
  exact placeAt_of_isFree (isFree_of_cellNear? h) kind details

theorem placeNear_of_none {w : World} {row col : Option Int}
    (h : w.cellNear? row col = none) (kind : Kind) (details : Details) :
    w.placeNear kind row col details =
      (.error (.noFreeCell kind (w.centerFor row col) w.searchRadius), w) := by
  rw [placeNear, h]

/-- **What a placement on an exact cell can do**: it puts its object there, or fails for one
reason only and changes nothing. -/
theorem placeAt_cases (w : World) (kind : Kind) (cell : Cell) (details : Details) :
    (w.grid.isFree cell = true ∧ w.placeAt kind cell details =
      (.ok ⟨cell, kind⟩, w.withObject ⟨cell, kind, details⟩)) ∨
    w.placeAt kind cell details = (.error (.cellUnavailable cell), w) := by
  by_cases hfree : w.grid.isFree cell = true
  · exact .inl ⟨hfree, placeAt_of_isFree hfree kind details⟩
  · exact .inr (placeAt_of_not_isFree hfree kind details)

/-- **What a placement near a position can do**: it puts its object on a free cell, or fails
for one reason only and changes nothing. -/
theorem placeNear_cases (w : World) (kind : Kind) (row col : Option Int) (details : Details) :
    (∃ cell, w.grid.isFree cell = true ∧ w.placeNear kind row col details =
      (.ok ⟨cell, kind⟩, w.withObject ⟨cell, kind, details⟩)) ∨
    w.placeNear kind row col details =
      (.error (.noFreeCell kind (w.centerFor row col) w.searchRadius), w) := by
  cases hcell : w.cellNear? row col with
  | some cell =>
    exact .inl ⟨cell, isFree_of_cellNear? hcell, placeNear_of_some hcell kind details⟩
  | none => exact .inr (placeNear_of_none hcell kind details)

theorem placeAt_error {w : World} {kind : Kind} {cell : Cell} {details : Details}
    {e : PlacementError} (h : (w.placeAt kind cell details).1 = .error e) :
    e = .cellUnavailable cell ∧ (w.placeAt kind cell details).2 = w := by
  rcases w.placeAt_cases kind cell details with ⟨_, hplace⟩ | hplace
  · rw [hplace] at h
    cases h
  · rw [hplace] at h ⊢
    cases h
    exact ⟨rfl, rfl⟩

theorem placeNear_error {w : World} {kind : Kind} {row col : Option Int} {details : Details}
    {e : PlacementError} (h : (w.placeNear kind row col details).1 = .error e) :
    e = .noFreeCell kind (w.centerFor row col) w.searchRadius ∧
      (w.placeNear kind row col details).2 = w := by
  rcases w.placeNear_cases kind row col details with ⟨_, _, hplace⟩ | hplace
  · rw [hplace] at h
    cases h
  · rw [hplace] at h ⊢
    cases h
    exact ⟨rfl, rfl⟩

end World

/-! ## Orders -/

/-- **What one order can do.** It adds one object on a free cell, or clears the world,
or fails and changes nothing. -/
theorem Order.run_cases (w : World) (o : Order) :
    (∃ object, w.grid.isFree object.cell = true ∧
      o.run w = (.ok (.placed object.placement), w.withObject object)) ∨
    (o = .clear ∧ o.run w = (.ok (.cleared w.placed.length), w.clear.2)) ∨
    (∃ e, o.run w = (.error e, w)) := by
  cases o with
  | placeNear kind row col details =>
    rcases w.placeNear_cases kind row col details with ⟨cell, hfree, hplace⟩ | hplace
    · refine .inl ⟨⟨cell, kind, details⟩, hfree, ?_⟩
      rw [run, hplace]
      rfl
    · exact .inr (.inr ⟨_, by rw [run, hplace]; rfl⟩)
  | placeAt kind cell details =>
    rcases w.placeAt_cases kind cell details with ⟨hfree, hplace⟩ | hplace
    · refine .inl ⟨⟨cell, kind, details⟩, hfree, ?_⟩
      rw [run, hplace]
      rfl
    · exact .inr (.inr ⟨_, by rw [run, hplace]; rfl⟩)
  | clear => exact .inr (.inl ⟨rfl, rfl⟩)

/-- An order that fails changes nothing. -/
theorem Order.run_error {w : World} {o : Order} {e : PlacementError}
    (h : (o.run w).1 = .error e) : (o.run w).2 = w := by
  rcases Order.run_cases w o with ⟨object, _, hrun⟩ | ⟨_, hrun⟩ | ⟨e', hrun⟩
  · rw [hrun] at h
    cases h
  · rw [hrun] at h
    cases h
  · rw [hrun]

/-! ## Calls -/

namespace Registry

/-- **What one call can do.** It fails and changes nothing, or its arguments make an
order for the operation under its name, which succeeds. -/
theorem perform_cases (registry : Registry) (w : World) (call : Call) :
    (∃ e, registry.perform w call = (.error e, w)) ∨
    (∃ (operation : Operation) (order : Order) (outcome : Outcome),
      registry.get? call.operation = some operation ∧
      operation.order call.arguments = .ok order ∧ (order.run w).1 = .ok outcome ∧
      registry.perform w call = (.ok outcome, (order.run w).2)) := by
  unfold perform
  split
  · exact .inl ⟨_, rfl⟩
  · next operation hoperation =>
    unfold Operation.run
    split
    · exact .inl ⟨_, rfl⟩
    · next order horder =>
      cases hresult : (order.run w).1 with
      | error e =>
        -- the world after the failed order is given on, and it is the one from before
        refine .inl ⟨.placement e, ?_⟩
        dsimp only
        rw [hresult, Order.run_error hresult]
        rfl
      | ok outcome =>
        refine .inr ⟨operation, order, outcome, hoperation, horder, hresult, ?_⟩
        dsimp only
        rw [hresult]
        rfl

/-- **What comes of one call**: an error and no change, one object on a free cell, or a
world that is cleared. -/
theorem step_cases (registry : Registry) (w : World) (call : Call) :
    (∃ e, (registry.step w call).1.outcome = .error e ∧ (registry.step w call).2 = w) ∨
    (∃ object, w.grid.isFree object.cell = true ∧
      (registry.step w call).1.outcome = .ok (.placed object.placement) ∧
      (registry.step w call).2 = w.withObject object) ∨
    ((registry.step w call).1.outcome = .ok (.cleared w.placed.length) ∧
      (registry.step w call).2 = w.clear.2) := by
  rcases registry.perform_cases w call with
    ⟨e, hperform⟩ | ⟨_, order, outcome, _, _, hresult, hperform⟩
  · exact .inl ⟨e, by rw [step, hperform], by rw [step, hperform]⟩
  · have houtcome : (registry.step w call).1.outcome = .ok outcome := by rw [step, hperform]
    have hworld : (registry.step w call).2 = (order.run w).2 := by rw [step, hperform]
    rw [houtcome, hworld]
    rcases Order.run_cases w order with ⟨object, hfree, hrun⟩ | ⟨_, hrun⟩ | ⟨e, hrun⟩
    · rw [hrun] at hresult ⊢
      cases hresult
      exact .inr (.inl ⟨object, hfree, rfl, rfl⟩)
    · rw [hrun] at hresult ⊢
      cases hresult
      exact .inr (.inr ⟨rfl, rfl⟩)
    · rw [hrun] at hresult
      cases hresult

@[simp] theorem call_step (registry : Registry) (w : World) (call : Call) :
    (registry.step w call).1.call = call := rfl

/-- The results of a batch are those of its calls, in order. -/
theorem map_call_execute (registry : Registry) (w : World) (calls : List Call) :
    (registry.execute w calls).1.map CallResult.call = calls := by
  induction calls generalizing w with
  | nil => rfl
  | cons call calls ih =>
    rw [execute]
    dsimp only
    rw [List.map_cons, ih, call_step]

/-- A call that fails changes nothing. -/
theorem step_of_not_isOk {registry : Registry} {w : World} {call : Call}
    (h : (registry.step w call).1.isOk = false) : (registry.step w call).2 = w := by
  rcases registry.perform_cases w call with ⟨e, hperform⟩ | ⟨_, _, _, _, _, _, hperform⟩
  · rw [step, hperform]
  · rw [step, hperform] at h
    cases h

/-- A call leaves the world as it was or as one order leaves it. -/
theorem step_eq_run (registry : Registry) (w : World) (call : Call) :
    (registry.step w call).2 = w ∨ ∃ order : Order, (registry.step w call).2 = (order.run w).2 := by
  rcases registry.perform_cases w call with ⟨e, hperform⟩ | ⟨_, order, _, _, _, _, hperform⟩
  · exact .inl (by rw [step, hperform])
  · exact .inr ⟨order, by rw [step, hperform]⟩

end Registry

end CityScript
