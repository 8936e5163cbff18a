/-
Nothing is logged unless it is asked for.

What goes wrong with a line or a call is in the report, so the log has no need to warn of
it. Every event is for debugging or sums up a batch, below the level of a warning. A
program that is not told to be verbose therefore writes its answer and nothing else, and
whether it is told so does not change the standard output.
-/
import CityScript.CommandLine.Log

set_option autoImplicit false

namespace CityScript

/-- An event that is no warning. -/
def LogEvent.IsMinor (e : LogEvent) : Prop := e.level.rank < LogLevel.warn.rank

instance (e : LogEvent) : Decidable e.IsMinor := inferInstanceAs (Decidable (_ < _))

theorem Line.isMinor_of_mem_events {l : Line} {e : LogEvent} (h : e ∈ l.events) :
    e.IsMinor := by
  unfold events at h
  split at h
  · rw [List.mem_singleton.mp h]
    decide
  · rw [List.mem_singleton.mp h]
    decide
  · cases h

theorem World.isMinor_of_mem_searchEvents {w : World} {row col : Option Int} {e : LogEvent}
    (h : e ∈ w.searchEvents row col) : e.IsMinor := by
  unfold searchEvents at h
  dsimp only at h
  split at h
  · cases h
  · split at h
    · cases h
    · split at h <;> rw [List.mem_singleton.mp h] <;> decide

theorem Order.isMinor_of_mem_events {w : World} {order : Order} {e : LogEvent}
    (h : e ∈ order.events w) : e.IsMinor := by
  cases order with
  | placeNear kind row col details => exact World.isMinor_of_mem_searchEvents h
  | placeAt kind cell details => cases h
  | clear =>
    rw [List.mem_singleton.mp h]
    decide

theorem Operation.isMinor_of_mem_events {operation : Operation} {arguments : List Value}
    {w : World} {e : LogEvent} (h : e ∈ operation.events arguments w) : e.IsMinor := by
  unfold Operation.events at h
  split at h
  · cases h
  · exact Order.isMinor_of_mem_events h

namespace Registry

/-- **One call** logs minor events only. -/
theorem isMinor_of_mem_stepEvents {registry : Registry} {w : World} {call : Call} {e : LogEvent}
    (h : e ∈ registry.stepEvents w call) : e.IsMinor := by
  unfold stepEvents at h
  dsimp only at h
  rcases List.mem_append.mp h with h | h
  · split at h
    · cases h
    · rcases List.mem_cons.mp h with rfl | h
      · decide
      · exact Operation.isMinor_of_mem_events h
  · rw [List.mem_singleton.mp h]
    -- the level is the same for a success and for a failure
    have hdebug : LogLevel.debug.rank < LogLevel.warn.rank := by decide
    exact hdebug

/-- **A batch** logs minor events only. -/
theorem isMinor_of_mem_events {registry : Registry} {w : World} {calls : List Call}
    {e : LogEvent} (h : e ∈ registry.events w calls) : e.IsMinor := by
  induction calls generalizing w with
  | nil =>
    rw [List.mem_singleton.mp h]
    decide
  | cons call calls ih =>
    rcases List.mem_append.mp h with h | h
    · exact isMinor_of_mem_stepEvents h
    · exact ih h

end Registry

theorem Program.isMinor_of_mem_events {catalog : Catalog} {source : String} {e : LogEvent}
    (h : e ∈ Program.events catalog source) : e.IsMinor := by
  obtain ⟨l, -, h⟩ := List.mem_flatMap.mp h
  exact Line.isMinor_of_mem_events h

theorem Session.isMinor_of_mem_events {s : Session} {source : String} {e : LogEvent}
    (h : e ∈ s.events source) : e.IsMinor := by
  rcases List.mem_append.mp h with h | h
  · exact Program.isMinor_of_mem_events h
  · exact Registry.isMinor_of_mem_events h

namespace Invocation

/-- **No event of an invocation is a warning.** -/
theorem isMinor_of_mem_events {i : Inputs} {invocation : Invocation} {e : LogEvent}
    (h : e ∈ invocation.events i) : e.IsMinor := by
  unfold events at h
  split at h
  · split at h
    · rcases List.mem_cons.mp h with rfl | h
      · decide
      · exact Session.isMinor_of_mem_events h
    · cases h
  · split at h
    · exact Program.isMinor_of_mem_events h
    · cases h
  · cases h

/-- **Only the answer is written**, unless the program is to be verbose. -/
theorem written_of_not_verbose (i : Inputs) (render : LogEvent → String)
    {invocation : Invocation} (hverbose : invocation.verbose = false) :
    invocation.written i render = invocation.streams i := by
  have hnone : (invocation.events i).filter (·.isShown (.threshold invocation.verbose)) = [] := by
    rw [List.filter_eq_nil_iff]
    intro e he hshown
    have hminor := isMinor_of_mem_events he
    rw [hverbose, LogEvent.isShown, decide_eq_true_eq] at hshown
    exact absurd hminor (Nat.not_lt.mpr hshown)
  rw [written, hnone]
  simp

/-- The log does not go to the standard output. -/
theorem stdout_written (i : Inputs) (render : LogEvent → String) (invocation : Invocation) :
    (invocation.written i render).stdout = (invocation.streams i).stdout := rfl

end Invocation

end CityScript
