/-
Running calls: each call is carried out in order on one world, and what became
of it is recorded. A call that fails does not stop the calls after it.
-/
import CityScript.Script.Line
import CityScript.Session.Registry

set_option autoImplicit false

namespace CityScript

/-! ## Errors -/

/-- Why a call failed. -/
inductive CallError where
  | unbound (operation : String)
  | argument (e : ArgumentError)
  | placement (e : PlacementError)
  deriving DecidableEq, Repr, Inhabited

/-- The problem in words. -/
def CallError.message : CallError → String
  | .unbound operation => "handler not found: " ++ operation
  | .argument e => e.message
  | .placement e => e.message

/-! ## Results -/

/-- A call and what became of it. -/
structure CallResult where
  call : Call
  outcome : Except CallError Outcome

namespace CallResult

/-- Whether the call succeeded. -/
def isOk (r : CallResult) : Bool :=
  match r.outcome with
  | .ok _ => true
  | .error _ => false

/-- What became of the call, in words. -/
def text (r : CallResult) : String :=
  match r.outcome with
  | .ok outcome => outcome.text
  | .error e => e.message

end CallResult

/-! ## Running -/

/-- Carries out an operation with arguments: what came of it, and the world after it. -/
def Operation.run (operation : Operation) (arguments : List Value) (w : World) :
    Except CallError Outcome × World :=
  match operation.order arguments with
  | .error e => (.error (.argument e), w)
  | .ok order =>
    let (result, w) := order.run w
    (result.mapError .placement, w)

/-- Carries out a call. -/
def Registry.perform (registry : Registry) (w : World) (call : Call) :
    Except CallError Outcome × World :=
  match registry.get? call.operation with
  | none => (.error (.unbound call.operation), w)
  | some operation => operation.run call.arguments w

/-- The result of a call and the world after it. -/
def Registry.step (registry : Registry) (w : World) (call : Call) : CallResult × World :=
  let (outcome, w) := registry.perform w call
  (⟨call, outcome⟩, w)

/-- Runs calls in order: the results, and the world after the last call. -/
def Registry.execute (registry : Registry) (w : World) : List Call → List CallResult × World
  | [] => ([], w)
  | call :: rest =>
    let (result, w) := registry.step w call
    let (results, w) := registry.execute w rest
    (result :: results, w)

@[simp] theorem Registry.execute_nil (registry : Registry) (w : World) :
    registry.execute w [] = ([], w) := rfl

/-- Running two lists of calls one after the other is running them together. -/
theorem Registry.execute_append (registry : Registry) (w : World) (a b : List Call) :
    registry.execute w (a ++ b) =
      ((registry.execute w a).1 ++ (registry.execute (registry.execute w a).2 b).1,
        (registry.execute (registry.execute w a).2 b).2) := by
  induction a generalizing w with
  | nil => rfl
  | cons call a ih => simp [execute, ih]

/-- Every call has one result. -/
@[simp] theorem Registry.length_execute (registry : Registry) (w : World) (calls : List Call) :
    (registry.execute w calls).1.length = calls.length := by
  induction calls generalizing w with
  | nil => rfl
  | cons call calls ih => simp [execute, ih]

/-- How many calls succeeded. -/
def successCount (results : List CallResult) : Nat := results.countP CallResult.isOk

/-! ## Counting along the way -/

/-- The results of a run so far, with the count of the successes among them. -/
structure Tally where
  results : Array CallResult
  successes : Nat
  successes_eq : successes = successCount results.toList

namespace Tally

/-- Nothing run yet. -/
def empty : Tally := ⟨#[], 0, rfl⟩

/-- One more result; a success counts. -/
def push (t : Tally) (result : CallResult) : Tally where
  results := t.results.push result
  successes := if result.isOk then t.successes + 1 else t.successes
  successes_eq := by
    rw [t.successes_eq, Array.toList_push, successCount, successCount, List.countP_append,
      List.countP_singleton]
    split <;> rfl

end Tally

/-- Runs calls in order on top of what was run before: each result is added at the end, and
each success to the count. -/
def Registry.executeOnto (registry : Registry) (t : Tally) (w : World) : List Call → Tally × World
  | [] => (t, w)
  | call :: rest =>
    let (result, w) := registry.step w call
    registry.executeOnto (t.push result) w rest

/-- The loop adds the results of `execute`, and leaves its world. -/
theorem Registry.executeOnto_eq (registry : Registry) (t : Tally) (w : World)
    (calls : List Call) :
    (registry.executeOnto t w calls).1.results.toList =
        t.results.toList ++ (registry.execute w calls).1 ∧
      (registry.executeOnto t w calls).2 = (registry.execute w calls).2 := by
  induction calls generalizing t w with
  | nil => simp [executeOnto]
  | cons call calls ih =>
    rw [executeOnto, execute]
    obtain ⟨hresults, hworld⟩ := ih (t.push (registry.step w call).1) (registry.step w call).2
    refine ⟨?_, hworld⟩
    rw [hresults, Tally.push, Array.toList_push, List.append_assoc]
    rfl

end CityScript
