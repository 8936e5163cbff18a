/-
Clean reports.

A report is clean if there is no problem and no call has failed. What that says about the
script is seen line by line. A line that is neither blank nor a mere comment has a problem
or a call, and a call has one result, so a report is clean if and only if every such line
has a call that succeeds.
-/
import CityScript.Proofs.Isolation
import CityScript.Proofs.LineAccount

set_option autoImplicit false

namespace CityScript

theorem Report.isClean_iff (r : Report) :
    r.isClean = true ↔ r.diagnostics = [] ∧ ∀ result ∈ r.results, result.isOk = true := by
  have hle : r.successes ≤ r.results.length := by
    rw [r.successes_eq]
    exact List.countP_le_length
  have hall : r.successes = r.results.length ↔ ∀ result ∈ r.results, result.isOk = true := by
    rw [r.successes_eq]
    exact List.countP_eq_length
  rw [isClean, Bool.and_eq_true, List.isEmpty_iff, beq_iff_eq, failures, ← hall]
  refine and_congr_right fun _ => ?_
  -- failures are counted by a difference, which is zero only if nothing is left over
  omega

namespace Session

/-- Some line of a script is neither blank nor a mere comment, and no call on it succeeds. -/
def LeavesLine (s : Session) (source : String) : Prop :=
  ∃ i raw, (Text.lines source.toList)[i]? = some raw ∧ Text.isIdle raw = false ∧
    ∀ r ∈ (s.run source).1.results, r.call.line = i + 1 → r.isOk = false

theorem exists_result (s : Session) {source : String} {c : Call}
    (hc : c ∈ (Program.read s.catalog source).calls) :
    ∃ r ∈ (s.run source).1.results, r.call = c := by
  rw [← s.map_call_results_run source] at hc
  exact List.mem_map.mp hc

theorem call_mem (s : Session) {source : String} {r : CallResult}
    (hr : r ∈ (s.run source).1.results) : r.call ∈ (Program.read s.catalog source).calls := by
  rw [← s.map_call_results_run source]
  exact List.mem_map_of_mem hr

/-- A line with a problem or with a call that failed is left out. -/
theorem leavesLine_of_unsuccessful (s : Session) {source : String} {number : Nat}
    (h : s.Unsuccessful source number) : s.LeavesLine source := by
  have hline : ∃ i raw, (Text.lines source.toList)[i]? = some raw ∧ number = i + 1 ∧
      Text.isIdle raw = false := by
    rcases h with ⟨d, hd, rfl⟩ | ⟨r, hr, rfl, _⟩
    · obtain ⟨i, raw, hraw, hnumber, hview⟩ :=
        mem_filterMap_readLines (fun _ _ _ => Line.line_of_diagnostic?) hd
      refine ⟨i, raw, hraw, hnumber, Bool.eq_false_iff.mpr fun hidle => ?_⟩
      rw [(Line.read_of_isIdle s.catalog (i + 1) hidle).2] at hview
      cases hview
    · obtain ⟨i, raw, hraw, hnumber, hview⟩ :=
        mem_filterMap_readLines (fun _ _ _ => Line.line_of_call?) (s.call_mem hr)
      refine ⟨i, raw, hraw, hnumber, Bool.eq_false_iff.mpr fun hidle => ?_⟩
      rw [(Line.read_of_isIdle s.catalog (i + 1) hidle).1] at hview
      cases hview
  obtain ⟨i, raw, hraw, rfl, hbusy⟩ := hline
  refine ⟨i, raw, hraw, hbusy, ?_⟩
  -- what a line gives is all there is with its number
  intro r hr hnumber
  refine s.isOk_of_unsuccessful source hr ?_
  rw [hnumber]
  exact h

/-- **A report is clean unless a line is left out.** -/
theorem isClean_run_iff (s : Session) (source : String) :
    (s.run source).1.isClean = false ↔ s.LeavesLine source := by
  rw [Bool.eq_false_iff, ne_eq, Report.isClean_iff]
  constructor
  · intro hclean
    by_cases hdiagnostics : (s.run source).1.diagnostics = []
    · have hfailed : ¬ ∀ r ∈ (s.run source).1.results, r.isOk = true :=
        fun hall => hclean ⟨hdiagnostics, hall⟩
      push Not at hfailed
      obtain ⟨r, hr, hok⟩ := hfailed
      exact s.leavesLine_of_unsuccessful (.inr ⟨r, hr, rfl, Bool.eq_false_iff.mpr hok⟩)
    · obtain ⟨d, hd⟩ := List.exists_mem_of_ne_nil _ hdiagnostics
      exact s.leavesLine_of_unsuccessful (.inl ⟨d, hd, rfl⟩)
  · rintro ⟨i, raw, hraw, hbusy, hleft⟩ ⟨hdiagnostics, hall⟩
    rcases Line.read_of_not_isIdle s.catalog (i + 1) hbusy with ⟨c, hc, _⟩ | ⟨d, _, hd⟩
    · have hcall : c ∈ (Program.read s.catalog source).calls :=
        mem_filterMap_readLines_of_view hraw hc
      obtain ⟨r, hr, rfl⟩ := s.exists_result hcall
      have hok := hall r hr
      rw [hleft r hr (Line.line_of_call? hc)] at hok
      cases hok
    · have hdiagnostic : d ∈ (s.run source).1.diagnostics :=
        mem_filterMap_readLines_of_view hraw hd
      rw [hdiagnostics] at hdiagnostic
      exact absurd hdiagnostic List.not_mem_nil

end Session

end CityScript
