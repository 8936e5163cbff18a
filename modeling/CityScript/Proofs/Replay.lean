/-
What a report says was done is what was done.

A report has one outcome for each call, and nothing of the world. Replaying it
means to keep a log of one's own: a reported placement is added at the end, a
reported clearing empties the log, and an error leaves it alone. A clearing also
reports how many objects it took off the map. The replay does not take that on
trust; it stops when the count is not the length of the log at that point.

One step of a batch agrees with one step of the replay, by the cases of
`Order.run_cases`. So the replay of a whole report, begun with the log from
before the batch, never stops and ends with the log after it.
-/
import CityScript.Proofs.Placing

set_option autoImplicit false

namespace CityScript

/-! ## Replaying -/

/-- Where the objects of a world stand and what they are, in the order of the log. -/
def World.placements (w : World) : List Placement := w.placed.map PlacedObject.placement

@[simp] theorem World.placements_withObject (w : World) (object : PlacedObject) :
    (w.withObject object).placements = w.placements ++ [object.placement] := by
  simp [placements, withObject]

/-- A log after one more reported outcome. There is none when a clearing does not
count what is in the log. -/
def replayOutcome? (log : List Placement) : Except CallError Outcome → Option (List Placement)
  | .ok (.placed p) => some (log ++ [p])
  | .ok (.cleared removed) => if removed = log.length then some [] else none
  | .error _ => some log

/-- A log after all outcomes of a report. -/
def replay? (log : List Placement) (results : List CallResult) : Option (List Placement) :=
  results.foldlM (fun log r => replayOutcome? log r.outcome) log

@[simp] theorem replay?_nil (log : List Placement) : replay? log [] = some log := rfl

theorem replay?_cons (log : List Placement) (r : CallResult) (results : List CallResult) :
    replay? log (r :: results) =
      (replayOutcome? log r.outcome).bind fun log => replay? log results := by
  rw [replay?, List.foldlM_cons]
  rfl

/-! ## One call -/

/-- The reported outcome of an order that succeeds is what the order did to the log. -/
theorem Order.replayOutcome?_run {w : World} {o : Order} {outcome : Outcome}
    (h : (o.run w).1 = .ok outcome) :
    replayOutcome? w.placements (.ok outcome) = some (o.run w).2.placements := by
  rcases Order.run_cases w o with ⟨object, _, hrun⟩ | ⟨_, hrun⟩ | ⟨e, hrun⟩
  · rw [hrun] at h ⊢
    cases h
    rw [replayOutcome?, World.placements_withObject]
  · rw [hrun] at h ⊢
    cases h
    have hcount : w.placed.length = w.placements.length := by
      rw [World.placements, List.length_map]
    rw [replayOutcome?, if_pos hcount]
    rfl
  · rw [hrun] at h
    cases h

/-- **The outcome of a call is what the call did to the log.** -/
theorem Registry.replayOutcome?_step (registry : Registry) (w : World) (call : Call) :
    replayOutcome? w.placements (registry.step w call).1.outcome =
      some (registry.step w call).2.placements := by
  rcases registry.perform_cases w call with ⟨e, hperform⟩ | ⟨_, order, outcome, _, _, hresult, hperform⟩
  · rw [step, hperform]
    rfl
  · rw [step, hperform]
    exact Order.replayOutcome?_run hresult

/-! ## Batches of calls -/

/-- The log after a batch is the log before it, with the report replayed. -/
theorem Registry.replay?_execute (registry : Registry) (w : World) (calls : List Call) :
    replay? w.placements (registry.execute w calls).1 =
      some (registry.execute w calls).2.placements := by
  induction calls generalizing w with
  | nil => rfl
  | cons call calls ih =>
    -- the rest is run in the world after the first call, whose log the first step gives
    rw [execute]
    dsimp only
    rw [replay?_cons, registry.replayOutcome?_step, Option.bind_some, ih]

/-- The successes are the outcomes that are no errors. -/
theorem successCount_eq_length (results : List CallResult) :
    successCount results = (results.filterMap fun r => r.outcome.toOption).length := by
  rw [successCount, List.length_filterMap_eq_countP]
  refine List.countP_congr ?_
  intro r _
  rw [CallResult.isOk]
  cases r.outcome <;> simp [Except.toOption]

end CityScript
