/-
A session that was cleared is a new session.

Nothing of a session changes but its world, and of the world nothing but the log and
the taken cells. Both are emptied at once, by a reset between two scripts or by a call
in the middle of one, and so whatever was there before can no longer be told.

The number that a clearing reports is the length of the log. What has been placed
since the last clearing can also be read off the outcomes that were reported: these
are the placements behind the last outcome that is a clearing. Each outcome changes
the one number as it changes the other, so they agree after every history.
-/
import Mathlib.Data.List.DropRight
import CityScript.Proofs.Occupancy

set_option autoImplicit false

namespace CityScript

/-! ## Placements since the last clearing -/

namespace Outcome

/-- Whether a call has cleared the world. -/
def isClearing : Except CallError Outcome → Bool
  | .ok (.cleared _) => true
  | _ => false

/-- Whether a call has placed an object. -/
def isPlacement : Except CallError Outcome → Bool
  | .ok (.placed _) => true
  | _ => false

/-- How many objects were placed after the last clearing. -/
def placedSinceClearing (outcomes : List (Except CallError Outcome)) : Nat :=
  (outcomes.rtakeWhile fun o => !isClearing o).countP isPlacement

@[simp] theorem placedSinceClearing_nil : placedSinceClearing [] = 0 := rfl

/-- After a clearing the count begins anew. -/
theorem placedSinceClearing_of_isClearing {outcomes : List (Except CallError Outcome)}
    {o : Except CallError Outcome} (h : isClearing o = true) :
    placedSinceClearing (outcomes ++ [o]) = 0 := by
  rw [placedSinceClearing, List.rtakeWhile_concat_neg _ _ _ (by simp [h])]
  rfl

/-- Any other outcome counts if it is a placement. -/
theorem placedSinceClearing_of_not_isClearing {outcomes : List (Except CallError Outcome)}
    {o : Except CallError Outcome} (h : isClearing o = false) :
    placedSinceClearing (outcomes ++ [o]) =
      placedSinceClearing outcomes + if isPlacement o then 1 else 0 := by
  rw [placedSinceClearing, List.rtakeWhile_concat_pos _ _ _ (by simp [h]), List.countP_append,
    List.countP_singleton]
  rfl

end Outcome

/-! ## Calls that clear -/

namespace Registry

/-- A batch can be cut before any of its results. -/
theorem execute_take_drop (registry : Registry) (w : World) (calls : List Call) (i : Nat) :
    let results := (registry.execute w calls).1
    let first := registry.execute w ((results.take i).map CallResult.call)
    first.1 = results.take i ∧
    registry.execute first.2 ((results.drop i).map CallResult.call) =
      (results.drop i, (registry.execute w calls).2) := by
  intro results first
  have hresults : results.map CallResult.call = calls := registry.map_call_execute w calls
  have hcalls : (results.take i).map CallResult.call ++ (results.drop i).map CallResult.call =
      calls := by
    rw [← List.map_append, List.take_append_drop, hresults]
  have happend := registry.execute_append w ((results.take i).map CallResult.call)
    ((results.drop i).map CallResult.call)
  rw [hcalls] at happend
  have hlist : results.take i ++ results.drop i = first.1 ++
      (registry.execute first.2 ((results.drop i).map CallResult.call)).1 := by
    rw [List.take_append_drop]
    exact congrArg Prod.fst happend
  obtain ⟨hfirst, hrest⟩ := List.append_inj hlist (by simp [first])
  exact ⟨hfirst.symm, Prod.ext hrest.symm (congrArg Prod.snd happend).symm⟩

/-- **A call that clears** empties the world and reports how much that was. -/
theorem step_of_cleared {registry : Registry} {w : World} {call : Call} {removed : Nat}
    (h : (registry.step w call).1.outcome = .ok (.cleared removed)) :
    removed = w.placed.length ∧ (registry.step w call).2 = w.clear.2 := by
  rcases registry.step_cases w call with ⟨e, he, _⟩ | ⟨object, _, hplaced, _⟩ | ⟨hcleared, hworld⟩
  · rw [he] at h
    cases h
  · rw [hplaced] at h
    cases h
  · rw [hcleared] at h
    cases h
    exact ⟨rfl, hworld⟩

/-- What is known of a batch in the middle of which a call has cleared: it leaves the world
before it cleared, it reports how much was in that world, and the results after it are
those of a batch in the cleared world. -/
theorem execute_of_cleared {registry : Registry} {w : World} {calls : List Call}
    {results : List CallResult} (hresults : (registry.execute w calls).1 = results)
    {i removed : Nat}
    (hcleared : results[i]?.map CallResult.outcome = some (.ok (.cleared removed))) :
    let before := registry.execute w ((results.take i).map CallResult.call)
    before.1 = results.take i ∧
    (registry.execute w ((results.take (i + 1)).map CallResult.call)).2 = before.2.clear.2 ∧
    registry.execute before.2.clear.2 ((results.drop (i + 1)).map CallResult.call) =
      (results.drop (i + 1), (registry.execute w calls).2) ∧
    removed = before.2.placed.length := by
  subst hresults
  intro before
  obtain ⟨r, hr, houtcome⟩ := Option.map_eq_some_iff.mp hcleared
  obtain ⟨hi, hget⟩ := List.getElem?_eq_some_iff.mp hr
  obtain ⟨hbefore, hafter⟩ := registry.execute_take_drop w calls i
  -- the result of the call is the first of those behind the cut
  rw [List.drop_eq_getElem_cons hi, hget, List.map_cons, execute] at hafter
  dsimp only at hafter
  obtain ⟨hlist, hworld⟩ := Prod.mk.inj hafter
  obtain ⟨hstep, hrest⟩ := List.cons.inj hlist
  rw [← hstep] at houtcome
  obtain ⟨hremoved, hclear⟩ := step_of_cleared houtcome
  rw [hclear] at hrest hworld
  refine ⟨hbefore, ?_, Prod.ext hrest hworld, hremoved⟩
  rw [List.take_add_one, hr, Option.toList_some, List.map_append, execute_append]
  exact hclear

/-- **One call keeps the count**: when the log is as long as the outcomes so far tell, it
is so after one more. -/
theorem length_placed_step {registry : Registry} {w : World}
    {past : List (Except CallError Outcome)}
    (h : w.placed.length = Outcome.placedSinceClearing past) (call : Call) :
    (registry.step w call).2.placed.length =
      Outcome.placedSinceClearing (past ++ [(registry.step w call).1.outcome]) := by
  rcases registry.step_cases w call with
    ⟨e, he, hworld⟩ | ⟨object, _, hplaced, hworld⟩ | ⟨hcleared, hworld⟩
  · rw [he, hworld, Outcome.placedSinceClearing_of_not_isClearing rfl, h]
    rfl
  · rw [hplaced, hworld, Outcome.placedSinceClearing_of_not_isClearing rfl, ← h]
    simp [World.withObject, Outcome.isPlacement]
  · rw [hcleared, hworld, Outcome.placedSinceClearing_of_isClearing rfl]
    rfl

/-- **A batch keeps the count.** -/
theorem length_placed_execute {registry : Registry} {w : World}
    {past : List (Except CallError Outcome)}
    (h : w.placed.length = Outcome.placedSinceClearing past) (calls : List Call) :
    (registry.execute w calls).2.placed.length =
      Outcome.placedSinceClearing
        (past ++ (registry.execute w calls).1.map CallResult.outcome) := by
  induction calls generalizing w past with
  | nil => simpa using h
  | cons call calls ih =>
    -- the first call adds its outcome to the past of the others
    rw [execute]
    dsimp only
    rw [ih (length_placed_step h call), List.map_cons, List.append_assoc, List.singleton_append]

end Registry

/-! ## Histories of sessions -/

namespace World

/-- What becomes of a world is, when cleared, that world as it was when cleared. -/
theorem SameGround.clear_eq {first w : World} (h : first.SameGround w) :
    w.clear.2 = first.clear.2 := by
  rw [clear_eq_ofMask, clear_eq_ofMask, h.mask_eq, h.searchRadius_eq, h.defaultCenter_eq]

theorem sameGround_execute (registry : Registry) (w : World) (calls : List Call) :
    w.SameGround (registry.execute w calls).2 := by
  obtain ⟨orders, horders⟩ := registry.execute_eq_after w calls
  rw [horders]
  exact sameGround_after w orders

end World

namespace Session

/-- What was reported of a change: the outcomes of the calls of a script, or the clearing
of a reset. -/
def outcomesOf (s : Session) : Change → List (Except CallError Outcome)
  | .run source => (s.run source).1.results.map CallResult.outcome
  | .reset => [.ok (.cleared s.reset.1)]

/-- What was reported over a history. -/
def outcomes (s : Session) : List Change → List (Except CallError Outcome)
  | [] => []
  | c :: changes => s.outcomesOf c ++ (s.change c).outcomes changes

theorem length_placed_change {s : Session} {past : List (Except CallError Outcome)}
    (h : s.world.placed.length = Outcome.placedSinceClearing past) (c : Change) :
    (s.change c).world.placed.length =
      Outcome.placedSinceClearing (past ++ s.outcomesOf c) := by
  cases c with
  | run source =>
    rw [change, outcomesOf, run_snd, results_run]
    exact Registry.length_placed_execute h _
  | reset =>
    rw [outcomesOf, Outcome.placedSinceClearing_of_isClearing rfl]
    rfl

/-- **A history keeps the count**: the log is as long as the reported outcomes tell. -/
theorem length_placed_after {s : Session} {past : List (Except CallError Outcome)}
    (h : s.world.placed.length = Outcome.placedSinceClearing past) (changes : List Change) :
    (s.after changes).world.placed.length =
      Outcome.placedSinceClearing (past ++ s.outcomes changes) := by
  induction changes generalizing s past with
  | nil => simpa [outcomes] using h
  | cons c changes ih =>
    rw [after_cons, ih (length_placed_change h c), outcomes, List.append_assoc]

/-- Clearing the world after a history gives back the first world, cleared. -/
theorem clear_after (s : Session) (changes : List Change) :
    (s.after changes).world.clear.2 = s.world.clear.2 := by
  obtain ⟨orders, horders⟩ := s.after_eq_after changes
  rw [horders]
  exact (World.sameGround_after s.world orders).clear_eq

/-! ## Answers -/

/-- What can be asked of a session: to run a script, to take everything off the map, or to
show the map. -/
inductive Request where
  | run (source : String)
  | reset
  | map
  deriving DecidableEq, Repr, Inhabited

/-- What a session gives back. -/
inductive Reply where
  | report (r : Report)
  | removed (n : Nat)
  | map (text : String)

/-- The reply to a request, and the session after it. -/
def request (s : Session) : Request → Reply × Session
  | .run source => (.report (s.run source).1, (s.run source).2)
  | .reset => (.removed s.reset.1, s.reset.2)
  | .map => (.map s.map, s)

/-- The replies to requests that are made one after the other. -/
def replies (s : Session) : List Request → List Reply
  | [] => []
  | r :: requests => (s.request r).1 :: (s.request r).2.replies requests

/-! ## Fresh starts -/

/-- **A cleared session is a new session.** After every history of a session a reset gives
back the new session on its mask, which answers everything as that one does, and reports
how many objects were placed since the last clearing. A call that clears does the same in
the middle of a script: it leaves the new world, in which the rest of the script is run,
it reports what was placed before it and after the last clearing, and if it is the last
call, the session is the new one. -/
theorem cleared_eq_fresh (mask : Mask) (settings : Settings) (catalog : Catalog)
    (registry : Registry) (changes : List Change) :
    let fresh : Session := ⟨catalog, registry, .new mask settings⟩
    let s := fresh.after changes
    let past := fresh.outcomes changes
    (s.reset.2 = fresh ∧ (∀ requests, s.reset.2.replies requests = fresh.replies requests) ∧
      s.reset.1 = Outcome.placedSinceClearing past) ∧
    ∀ source i removed,
      (s.run source).1.results[i]?.map CallResult.outcome = some (.ok (.cleared removed)) →
      let results := (s.run source).1.results
      (registry.execute s.world ((results.take (i + 1)).map CallResult.call)).2 = fresh.world ∧
      registry.execute fresh.world ((results.drop (i + 1)).map CallResult.call) =
        (results.drop (i + 1), (s.run source).2.world) ∧
      (results.length = i + 1 → (s.run source).2 = fresh ∧
        ∀ requests, (s.run source).2.replies requests = fresh.replies requests) ∧
      removed =
        Outcome.placedSinceClearing (past ++ (results.take i).map CallResult.outcome) := by
  intro fresh s past
  have hclear : s.world.clear.2 = fresh.world := fresh.clear_after changes
  have hsession : s = { fresh with world := s.world } := fresh.after_eq_withWorld changes
  have hcatalog : s.catalog = catalog := congrArg Session.catalog hsession
  have hregistry : s.registry = registry := congrArg Session.registry hsession
  have hempty : fresh.world.placed.length = Outcome.placedSinceClearing [] := rfl
  have hcount : s.world.placed.length = Outcome.placedSinceClearing past :=
    length_placed_after hempty changes
  have hreset : s.reset.2 = fresh := by
    rw [reset, hsession]
    exact congrArg (Session.mk catalog registry) hclear
  refine ⟨⟨hreset, fun requests => by rw [hreset], hcount⟩, ?_⟩
  intro source i removed hcleared results
  have hexecute : registry.execute s.world (Program.read s.catalog source).calls =
      (results, (s.run source).2.world) := by
    dsimp only [results]
    rw [results_run, run_snd, hregistry]
  have hresults : (registry.execute s.world (Program.read s.catalog source).calls).1 = results :=
    congrArg Prod.fst hexecute
  obtain ⟨hbefore, hafter, hrest, hremoved⟩ := Registry.execute_of_cleared hresults hcleared
  have hbetween : (registry.execute s.world ((results.take i).map CallResult.call)).2.clear.2 =
      fresh.world := by
    rw [(World.sameGround_execute registry s.world _).clear_eq, hclear]
  rw [hbetween] at hafter hrest
  rw [hexecute] at hrest
  refine ⟨hafter, hrest, ?_, ?_⟩
  · intro hlast
    -- no call is left for the new world, so the script ends in it
    rw [← hlast, List.drop_length] at hrest
    have hworld : fresh.world = (s.run source).2.world := congrArg Prod.snd hrest
    have hsame : (s.run source).2 = fresh := by
      calc (s.run source).2 = ⟨s.catalog, s.registry, (s.run source).2.world⟩ := rfl
        _ = ⟨catalog, registry, fresh.world⟩ := by rw [hcatalog, hregistry, hworld]
    exact ⟨hsame, fun requests => by rw [hsame]⟩
  · rw [hremoved, Registry.length_placed_execute hcount, hbefore]

/-- Of two roads on one cell the first stands. A script that then places another road and
clears takes two objects away and leaves the new session. -/
theorem cleared_eq_fresh_roads :
    let fresh : Session := ⟨.builtin, .builtin, .new (.allLand 2) {}⟩
    let s := fresh.after [.run "build_road(0, 0)\nbuild_road(0, 0)"]
    let run := s.run "build_road(0, 1)\nclear_all()"
    run.1.results.length = 2 ∧
    run.1.results[1]?.map CallResult.outcome = some (.ok (.cleared 2)) ∧ run.2 = fresh := by
  intro fresh s run
  have hlength : run.1.results.length = 2 := by decide +kernel
  have hcleared : run.1.results[1]?.map CallResult.outcome = some (.ok (.cleared 2)) := by
    decide +kernel
  dsimp only [run, s, fresh] at hlength hcleared ⊢
  have h := (cleared_eq_fresh (.allLand 2) {} .builtin .builtin
    [.run "build_road(0, 0)\nbuild_road(0, 0)"]).2 "build_road(0, 1)\nclear_all()" 1 2 hcleared
  exact ⟨hlength, hcleared, (h.2.2.1 hlength).1⟩

end Session

end CityScript
