/-
Batches of roads, in any order.

A road goes on the very cell that its call names, or nowhere. Which cell that is, and
whether the arguments are fine, is settled without a look at the world, and a road that is
built takes its own cell and no other. So it does not matter to a cell how many calls
for other cells come before. The first call that names it, with arguments that are
accepted, gets it if it was free at the start, and all later ones find it taken.

The free cells that a batch names are therefore what the batch takes. As a set they do not
depend on the order of the calls. One step either takes the first of them off the set, or
leaves the set and the world as they are.
-/
import Mathlib.Data.Finset.Dedup
import Mathlib.Data.Finset.Card
import CityScript.Proofs.Filling
import CityScript.Proofs.Requirements

set_option autoImplicit false

namespace CityScript

/-! ## What a call names -/

/-- The cell that arguments name for a road; there is none unless all are accepted. -/
def roadCell? (arguments : List Value) : Option Cell :=
  if (Operation.build .road).accepts arguments then
    some ⟨Argument.integer (Argument.get arguments 0), Argument.integer (Argument.get arguments 1)⟩
  else none

/-- The cells that the calls of a batch name, one after the other. -/
def roadCells (calls : List Call) : List (Option Cell) :=
  calls.map fun call => roadCell? call.arguments

/-- **What one call for a road does.** It takes the cell that it names if that is free, and
else it fails and changes nothing. -/
theorem Registry.step_road {registry : Registry} {call : Call}
    (hbound : registry.get? call.operation = some (.build .road)) (w : World) :
    (∃ c details, roadCell? call.arguments = some c ∧ w.grid.isFree c = true ∧
      (registry.step w call).1.outcome = .ok (.placed ⟨c, .road⟩) ∧
      (registry.step w call).2 = w.withObject ⟨c, .road, details⟩) ∨
    ((∀ c, roadCell? call.arguments = some c → ¬ w.grid.isFree c = true) ∧
      (registry.step w call).1.isOk = false ∧ (registry.step w call).2 = w) := by
  have hstep : registry.step w call =
      (⟨call, ((Operation.build .road).run call.arguments w).1⟩,
        ((Operation.build .road).run call.arguments w).2) := by
    rw [step, perform, hbound]
  rw [hstep]
  by_cases haccepts : (Operation.build .road).accepts call.arguments = true
  · rw [roadCell?, if_pos haccepts, Operation.carriesOut_of_accepts haccepts, Operation.effect]
    generalize (⟨Argument.integer (Argument.get call.arguments 0),
      Argument.integer (Argument.get call.arguments 1)⟩ : Cell) = c
    by_cases hfree : w.grid.isFree c = true
    · rw [World.placeAt_of_isFree hfree]
      exact .inl ⟨c, _, rfl, hfree, rfl, rfl⟩
    · rw [World.placeAt_of_not_isFree hfree]
      refine .inr ⟨?_, rfl, rfl⟩
      rintro d hd
      cases hd
      exact hfree
  · -- the call is refused whatever is on the cell
    obtain ⟨before, r, v, after, -, -, -, hrun⟩ :=
      Operation.refuses_of_not_accepts (Bool.eq_false_iff.mpr haccepts)
    rw [roadCell?, if_neg haccepts, hrun]
    refine .inr ⟨?_, rfl, rfl⟩
    intro c hc
    cases hc

/-! ## What a batch names -/

namespace World

/-- The cells that are free in a world and named by a call of a batch. -/
def roadTargets (w : World) (calls : List Call) : Finset Cell :=
  (calls.filterMap fun call => roadCell? call.arguments).toFinset.filter
    fun c => w.grid.isFree c = true

theorem mem_roadTargets {w : World} {calls : List Call} {c : Cell} :
    c ∈ w.roadTargets calls ↔
      w.grid.isFree c = true ∧ ∃ call ∈ calls, roadCell? call.arguments = some c := by
  rw [roadTargets, Finset.mem_filter, List.mem_toFinset, List.mem_filterMap, and_comm]

theorem roadTargets_perm (w : World) {first second : List Call} (h : first.Perm second) :
    w.roadTargets first = w.roadTargets second := by
  rw [roadTargets, roadTargets, List.toFinset_eq_of_perm _ _ (h.filterMap _)]

theorem roadTargets_cons_of_failed {w : World} {call : Call}
    (h : ∀ c, roadCell? call.arguments = some c → ¬ w.grid.isFree c = true) (calls : List Call) :
    w.roadTargets (call :: calls) = w.roadTargets calls := by
  ext c
  rw [mem_roadTargets, mem_roadTargets, List.exists_mem_cons_iff]
  refine and_congr_right fun hfree => or_iff_right ?_
  intro hcall
  exact h c hcall hfree

theorem mem_roadTargets_withObject {w : World} {c d : Cell} {details : Details}
    {calls : List Call} :
    d ∈ (w.withObject ⟨c, .road, details⟩).roadTargets calls ↔ d ∈ w.roadTargets calls ∧ d ≠ c := by
  have hfree := w.grid.isFree_take c d
  rw [mem_roadTargets, mem_roadTargets, and_right_comm]
  exact and_congr_left' hfree

/-- A call that gets its cell has that target, and leaves the others to the calls after it. -/
theorem roadTargets_cons_of_placed {w : World} {call : Call} {c : Cell}
    (hcall : roadCell? call.arguments = some c) (hfree : w.grid.isFree c = true)
    (details : Details) (calls : List Call) :
    w.roadTargets (call :: calls) =
      insert c ((w.withObject ⟨c, .road, details⟩).roadTargets calls) := by
  ext d
  rw [Finset.mem_insert, mem_roadTargets_withObject, mem_roadTargets, mem_roadTargets,
    List.exists_mem_cons_iff, hcall]
  by_cases hd : d = c
  · subst hd
    simp [hfree]
  · simp [hd, Ne.symm hd]

end World

/-! ## What a batch does -/

/-- What a batch of roads leaves of a world, and what it reports. -/
structure RoadLaw (w : World) (calls : List Call) (run : List CallResult × World) : Prop where
  isReserved_iff : ∀ c, run.2.grid.isReserved c = true ↔
    w.grid.isReserved c = true ∨ c ∈ w.roadTargets calls
  successes : successCount run.1 = (w.roadTargets calls).card
  /-- The call that gets a target is the first that names it. -/
  placed_iff : ∀ i c, run.1[i]?.map CallResult.outcome = some (.ok (.placed ⟨c, .road⟩)) ↔
    c ∈ w.roadTargets calls ∧ i = (roadCells calls).idxOf (some c)
  /-- Whatever succeeds has got a target. -/
  placed_of_isOk : ∀ r ∈ run.1, r.isOk = true →
    ∃ c ∈ w.roadTargets calls, r.outcome = .ok (.placed ⟨c, .road⟩)

namespace RoadLaw

variable {w : World} {call : Call} {calls : List Call} {r : CallResult}
  {run : List CallResult × World}

theorem nil (w : World) : RoadLaw w [] ([], w) where
  isReserved_iff := fun c => by simp [World.roadTargets]
  successes := rfl
  placed_iff := fun i c => by simp [World.roadTargets]
  placed_of_isOk := fun r hr => by cases hr

theorem cons_of_failed (hcall : ∀ c, roadCell? call.arguments = some c → ¬ w.grid.isFree c = true)
    (hr : r.isOk = false) (h : RoadLaw w calls run) :
    RoadLaw w (call :: calls) (r :: run.1, run.2) := by
  have htargets := World.roadTargets_cons_of_failed hcall calls
  constructor
  · intro c
    rw [htargets]
    exact h.isReserved_iff c
  · rw [htargets, ← h.successes, successCount, List.countP_cons_of_neg (by simp [hr])]
    rfl
  · intro i c
    -- the call names no target, so it is not the first that names one
    have hindex : c ∈ w.roadTargets calls →
        (roadCells (call :: calls)).idxOf (some c) = (roadCells calls).idxOf (some c) + 1 := by
      intro hc
      exact List.idxOf_cons_ne _ fun heq => hcall c heq (World.mem_roadTargets.mp hc).1
    rw [htargets]
    cases i with
    | zero =>
      constructor
      · intro houtcome
        rw [CallResult.isOk, Option.some.inj houtcome] at hr
        cases hr
      · rintro ⟨hc, hzero⟩
        rw [hindex hc] at hzero
        omega
    | succ i =>
      rw [List.getElem?_cons_succ, h.placed_iff]
      refine and_congr_right fun hc => ?_
      rw [hindex hc]
      omega
  · intro s hs hok
    rw [htargets]
    rcases List.mem_cons.mp hs with rfl | hs
    · rw [hr] at hok
      cases hok
    · exact h.placed_of_isOk s hs hok

theorem cons_of_placed {c : Cell} {details : Details}
    (hcall : roadCell? call.arguments = some c) (hfree : w.grid.isFree c = true)
    (hr : r.outcome = .ok (.placed ⟨c, .road⟩))
    (h : RoadLaw (w.withObject ⟨c, .road, details⟩) calls run) :
    RoadLaw w (call :: calls) (r :: run.1, run.2) := by
  have htargets := World.roadTargets_cons_of_placed hcall hfree details calls
  have hnot : c ∉ (w.withObject ⟨c, .road, details⟩).roadTargets calls := by
    rw [World.mem_roadTargets_withObject]
    exact fun hc => hc.2 rfl
  constructor
  · intro d
    have hd := w.grid.isReserved_take c d
    rw [htargets, Finset.mem_insert, h.isReserved_iff, ← or_assoc, ← or_comm (a := d = c)]
    exact or_congr_left hd
  · -- the cell of the call is none of the later targets, so it counts once
    rw [htargets, Finset.card_insert_of_notMem hnot, ← h.successes, successCount,
      List.countP_cons_of_pos (by rw [CallResult.isOk, hr])]
    rfl
  · intro i d
    have hfirst : (roadCells (call :: calls)).idxOf (some c) = 0 :=
      List.idxOf_cons_eq _ hcall
    have hlater : d ≠ c →
        (roadCells (call :: calls)).idxOf (some d) = (roadCells calls).idxOf (some d) + 1 := by
      intro hd
      refine List.idxOf_cons_ne _ fun heq => hd ?_
      exact Option.some.inj (heq.symm.trans hcall)
    rw [htargets, Finset.mem_insert]
    by_cases hd : d = c
    · subst hd
      rw [hfirst]
      cases i with
      | zero => simp [hr]
      | succ i =>
        -- the cell is taken, so no call after the first gets it
        rw [List.getElem?_cons_succ, h.placed_iff]
        simp [hnot]
    · rw [hlater hd, or_iff_right hd]
      cases i with
      | zero =>
        have hne : ¬ r.outcome = .ok (.placed ⟨d, .road⟩) := by
          rw [hr]
          simpa using Ne.symm hd
        simp [hne]
      | succ i =>
        rw [List.getElem?_cons_succ, h.placed_iff]
        refine and_congr_right fun _ => ?_
        omega
  · intro s hs hok
    rw [htargets]
    rcases List.mem_cons.mp hs with rfl | hs
    · exact ⟨c, Finset.mem_insert_self _ _, hr⟩
    · obtain ⟨d, hd, houtcome⟩ := h.placed_of_isOk s hs hok
      exact ⟨d, Finset.mem_insert_of_mem hd, houtcome⟩

end RoadLaw

namespace Registry

variable {registry : Registry} {calls : List Call}

/-- **Every batch of roads** keeps to the law, from whatever world it starts. -/
theorem roadLaw_execute
    (hroads : ∀ call ∈ calls, registry.get? call.operation = some (.build .road)) (w : World) :
    RoadLaw w calls (registry.execute w calls) := by
  induction calls generalizing w with
  | nil => exact RoadLaw.nil w
  | cons call calls ih =>
    have hrest := ih fun c hc => hroads c (List.mem_cons_of_mem call hc)
    rw [execute]
    dsimp only
    rcases step_road (hroads call List.mem_cons_self) w with
      ⟨c, details, hcall, hfree, houtcome, hworld⟩ | ⟨hcall, hfailed, hworld⟩
    · rw [hworld]
      exact RoadLaw.cons_of_placed hcall hfree houtcome (hrest _)
    · rw [hworld]
      exact RoadLaw.cons_of_failed hcall hfailed (hrest w)

/-- **Roads in any order.** When all calls of a batch build roads, the cells that are taken
afterwards are those that were taken before and the targets: the cells that were free and
that a call with accepted arguments names. There are as many successes as targets, and each
target goes to the first call that names it. So the same calls in another order take the
same cells, with as many successes. -/
theorem execute_roads
    (hroads : ∀ call ∈ calls, registry.get? call.operation = some (.build .road)) (w : World) :
    let results := (registry.execute w calls).1
    let targets := w.roadTargets calls
    (∀ c, (registry.execute w calls).2.grid.isReserved c = true ↔
      w.grid.isReserved c = true ∨ c ∈ targets) ∧
    successCount results = targets.card ∧
    (∀ other, other.Perm calls →
      (∀ c, (registry.execute w other).2.grid.isReserved c =
        (registry.execute w calls).2.grid.isReserved c) ∧
      successCount (registry.execute w other).1 = successCount results) ∧
    (∀ c ∈ targets, ∀ i,
      results[i]?.map CallResult.outcome = some (.ok (.placed ⟨c, .road⟩)) ↔
        i = (roadCells calls).idxOf (some c)) ∧
    ∀ r ∈ results, r.isOk = true → ∃ c ∈ targets, r.outcome = .ok (.placed ⟨c, .road⟩) := by
  intro results targets
  have hlaw := roadLaw_execute hroads w
  refine ⟨hlaw.isReserved_iff, hlaw.successes, ?_, ?_, hlaw.placed_of_isOk⟩
  · -- the law says the same of both orders, since the targets are a set
    intro other hperm
    have hother : RoadLaw w other (registry.execute w other) :=
      roadLaw_execute (fun call hcall => hroads call (hperm.mem_iff.mp hcall)) w
    have htargets : w.roadTargets other = targets := w.roadTargets_perm hperm
    refine ⟨?_, ?_⟩
    · intro c
      rw [Bool.eq_iff_iff, hother.isReserved_iff, htargets]
      exact (hlaw.isReserved_iff c).symm
    · rw [hother.successes, htargets]
      exact hlaw.successes.symm
  · intro c hc i
    rw [hlaw.placed_iff i c]
    exact and_iff_right hc

/-- Six calls for roads on a grid of four cells. The second has no row, the third comes too
late, the fourth is off the grid, and the fifth names its cell with a direction that is none. -/
theorem execute_roads_contested :
    let calls : List Call := [
        [.ofInt 0, .ofInt 1],
        [.null, .ofInt 0],
        [.ofInt 0, .ofInt 1, .text "v"],
        [.ofInt 5, .ofInt 5],
        [.ofInt 1, .ofInt 1, .text "up"],
        [.ofInt 1, .ofInt 1]].map fun arguments =>
      ⟨(Operation.build .road).name, arguments, "", 1⟩
    let w := World.new (.allLand 2) {}
    let results := (builtin.execute w calls).1
    (∀ call ∈ calls, builtin.get? call.operation = some (.build .road)) ∧
    w.roadTargets calls = {⟨0, 1⟩, ⟨1, 1⟩} ∧
    successCount results = 2 ∧
    successCount (builtin.execute w calls.reverse).1 = 2 ∧
    results[5]?.map CallResult.outcome = some (.ok (.placed ⟨⟨1, 1⟩, .road⟩)) := by
  intro calls w results
  have hroads : ∀ call ∈ calls, builtin.get? call.operation = some (.build .road) := by
    intro call hcall
    obtain ⟨arguments, -, rfl⟩ := List.mem_map.mp hcall
    exact get?_builtin (.build .road)
  have htargets : w.roadTargets calls = {⟨0, 1⟩, ⟨1, 1⟩} := by decide +kernel
  obtain ⟨-, hsuccesses, hperm, hfirst, -⟩ := execute_roads hroads w
  have hcard : successCount results = 2 := by
    rw [hsuccesses, htargets]
    rfl
  refine ⟨hroads, htargets, hcard, ?_, ?_⟩
  · exact (hperm calls.reverse (List.reverse_perm calls)).2.trans hcard
  · have hmem : (⟨1, 1⟩ : Cell) ∈ w.roadTargets calls := by
      rw [htargets]
      decide
    have hindex : 5 = (roadCells calls).idxOf (some ⟨1, 1⟩) := by decide +kernel
    exact (hfirst _ hmem 5).mpr hindex

end Registry

end CityScript
