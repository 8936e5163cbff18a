/-
Lines that did not succeed might as well be comments.

Some lines of a script are turned into comments: lines with a problem, or with a
call that failed. The program loses the calls on these lines and the problems with
them, and nothing else, because every line is read on its own. The calls that it
loses have failed, so each of them left the world as it was, and those after it saw
the same world as they see now. So the rest of the batch goes as before, call by
call, and ends in the same world.

Which lines may be hidden is said by their numbers. That a number stands for one
line only is what `Numbering` is for: a hidden number that has a problem has no
call, and one that has a failed call has no other call.
-/
import Mathlib.Data.Finset.Basic
import Mathlib.Data.List.Nodup
import CityScript.Proofs.LineEnds
import CityScript.Proofs.Numbering

set_option autoImplicit false

namespace CityScript

/-! ## Hiding lines -/

/-- The script in which the lines of some numbers are mere comments. Line ends stay as
they are. -/
def commentOut (hidden : Finset Nat) (source : String) : String :=
  String.ofList (Text.commentLines (fun n => decide (n ∈ hidden)) 1 (Text.cutLines source.toList))

theorem lines_commentOut (hidden : Finset Nat) (source : String) :
    Text.lines (commentOut hidden source).toList =
      (Text.lines source.toList).mapIdx fun i raw => if i + 1 ∈ hidden then ['#'] else raw := by
  rw [commentOut, String.toList_ofList, Text.lines_commentLines]
  simp only [decide_eq_true_eq, Nat.add_comm 1]

/-- A mere `#` is a comment without text. -/
theorem Line.read_hash (catalog : Catalog) (number : Nat) :
    Line.read catalog number ['#'] = .comment "" := rfl

/-- The lines of a script with hidden lines are read as before, the hidden ones as
comments. -/
theorem readLines_commentOut (catalog : Catalog) (hidden : Finset Nat) (source : String) :
    readLines catalog (commentOut hidden source) =
      (Text.lines source.toList).mapIdx fun i raw =>
        if i + 1 ∈ hidden then .comment "" else Line.read catalog (i + 1) raw := by
  rw [readLines, lines_commentOut, List.mapIdx_mapIdx]
  congr 1
  funext i raw
  by_cases hi : i + 1 ∈ hidden
  · rw [if_pos hi, Function.comp_apply, if_pos hi, Line.read_hash]
  · rw [if_neg hi, Function.comp_apply, if_neg hi]

section Views

variable {α : Type} {view : Line → Option α} {number : α → Nat} (catalog : Catalog)

/-- What is seen on lines some of which are hidden is what was seen on them, without
what has a hidden number. -/
theorem filterMap_mapIdx_hidden (hcomment : view (.comment "") = none)
    (hnumber : ∀ n raw x, view (Line.read catalog n raw) = some x → number x = n)
    (hidden : Finset Nat) (raws : List (List Char)) (n : Nat) :
    (raws.mapIdx fun i raw =>
        if i + n ∈ hidden then Line.comment "" else Line.read catalog (i + n) raw).filterMap view =
      ((raws.mapIdx fun i raw => Line.read catalog (i + n) raw).filterMap view).filter
        fun x => decide (number x ∉ hidden) := by
  -- the first line has the number `n`, and the others are numbered from `n + 1` on
  induction raws generalizing n with
  | nil => rfl
  | cons raw raws ih =>
    have hrest := ih (n + 1)
    simp only [← Nat.add_assoc] at hrest
    simp only [List.mapIdx_cons, Nat.zero_add, Nat.add_right_comm _ 1 n]
    by_cases hn : n ∈ hidden
    · rw [if_pos hn, List.filterMap_cons_none hcomment, hrest]
      cases hview : view (Line.read catalog n raw) with
      | none => rw [List.filterMap_cons_none hview]
      | some x =>
        have hx : ¬ decide (number x ∉ hidden) = true := by
          rw [hnumber _ _ _ hview]
          simpa using hn
        rw [List.filterMap_cons_some hview, List.filter_cons, if_neg hx]
    · rw [if_neg hn]
      cases hview : view (Line.read catalog n raw) with
      | none => rw [List.filterMap_cons_none hview, List.filterMap_cons_none hview, hrest]
      | some x =>
        have hx : decide (number x ∉ hidden) = true := by
          rw [hnumber _ _ _ hview]
          simpa using hn
        rw [List.filterMap_cons_some hview, List.filterMap_cons_some hview, List.filter_cons,
          if_pos hx, hrest]

/-- What is seen in a script some lines of which are hidden. -/
theorem filterMap_readLines_commentOut (hcomment : view (.comment "") = none)
    (hnumber : ∀ n raw x, view (Line.read catalog n raw) = some x → number x = n)
    (hidden : Finset Nat) (source : String) :
    (readLines catalog (commentOut hidden source)).filterMap view =
      ((readLines catalog source).filterMap view).filter fun x => decide (number x ∉ hidden) := by
  rw [readLines_commentOut]
  exact filterMap_mapIdx_hidden catalog hcomment hnumber hidden _ 1

end Views

namespace Program

/-- **A program with hidden lines** has the calls and problems of the other lines. -/
theorem read_commentOut (catalog : Catalog) (hidden : Finset Nat) (source : String) :
    Program.read catalog (commentOut hidden source) =
      ⟨(Program.read catalog source).calls.filter fun c => decide (c.line ∉ hidden),
        (Program.read catalog source).normalized.mapIdx fun i text =>
          if i + 1 ∈ hidden then "// " else text,
        (Program.read catalog source).diagnostics.filter fun d => decide (d.line ∉ hidden)⟩ := by
  have hcalls := filterMap_readLines_commentOut catalog rfl
    (fun _ _ _ => Line.line_of_call?) hidden source
  have hdiagnostics := filterMap_readLines_commentOut catalog rfl
    (fun _ _ _ => Line.line_of_diagnostic?) hidden source
  have hnormalized : (readLines catalog (commentOut hidden source)).map Line.render =
      ((readLines catalog source).map Line.render).mapIdx fun i text =>
        if i + 1 ∈ hidden then "// " else text := by
    rw [readLines_commentOut, readLines]
    refine List.ext_getElem (by simp) ?_
    intro i _ _
    simp only [List.getElem_map, List.getElem_mapIdx]
    split <;> rfl
  exact congr (congr (congrArg Program.mk hcalls) hnormalized) hdiagnostics

end Program

/-! ## Leaving out calls that fail -/

namespace Registry

/-- **Calls that fail can be left out.** The other calls have the results that they had,
and the batch ends in the same world. -/
theorem execute_filter (registry : Registry) (w : World) (calls : List Call) (keep : Call → Bool)
    (hfail : ∀ r ∈ (registry.execute w calls).1, keep r.call = false → r.isOk = false) :
    registry.execute w (calls.filter keep) =
      ((registry.execute w calls).1.filter fun r => keep r.call,
        (registry.execute w calls).2) := by
  induction calls generalizing w with
  | nil => rfl
  | cons call calls ih =>
    rw [execute] at hfail ⊢
    dsimp only at hfail ⊢
    have hrest := ih (registry.step w call).2 fun r hr => hfail r (List.mem_cons_of_mem _ hr)
    by_cases hkeep : keep call = true
    · rw [List.filter_cons_of_pos hkeep, execute]
      dsimp only
      rw [hrest, List.filter_cons_of_pos (by rw [call_step]; exact hkeep)]
    · -- the call that is left out has failed, so the rest begins in the same world
      have hsame : (registry.step w call).2 = w := by
        refine step_of_not_isOk (hfail _ List.mem_cons_self ?_)
        rw [call_step]
        exact Bool.eq_false_iff.mpr hkeep
      rw [hsame] at hrest
      rw [List.filter_cons_of_neg hkeep, List.filter_cons_of_neg (by rw [call_step]; exact hkeep),
        hsame, hrest]

end Registry

/-- Leaving out results that are no successes does not change how many there are. -/
theorem successCount_filter {results : List CallResult} {keep : CallResult → Bool}
    (hfail : ∀ r ∈ results, keep r = false → r.isOk = false) :
    successCount (results.filter keep) = successCount results := by
  rw [successCount, successCount, List.countP_filter]
  refine List.countP_congr ?_
  intro r hr
  cases hkeep : keep r with
  | true => simp
  | false => simp [hfail r hr hkeep]

/-! ## Sessions -/

namespace Session

/-- The line of a number did not succeed in a script: there is a problem with it, or its
call has failed. -/
def Unsuccessful (s : Session) (source : String) (number : Nat) : Prop :=
  (∃ d ∈ (s.run source).1.diagnostics, d.line = number) ∨
    ∃ r ∈ (s.run source).1.results, r.call.line = number ∧ r.isOk = false

instance (s : Session) (source : String) (number : Nat) :
    Decidable (s.Unsuccessful source number) := inferInstanceAs (Decidable (_ ∨ _))

/-- The results of a script are those of its calls, one by one. -/
theorem map_call_results_run (s : Session) (source : String) :
    (s.run source).1.results.map CallResult.call = (Program.read s.catalog source).calls := by
  rw [results_run]
  exact s.registry.map_call_execute s.world _

/-- A call on a line that did not succeed is the one that failed. -/
theorem isOk_of_unsuccessful (s : Session) (source : String) {r : CallResult}
    (hr : r ∈ (s.run source).1.results) (h : s.Unsuccessful source r.call.line) :
    r.isOk = false := by
  have hcalls := s.map_call_results_run source
  rcases h with ⟨d, hd, hline⟩ | ⟨r', hr', hline, hfailed⟩
  · have hcall : r.call ∈ (Program.read s.catalog source).calls := by
      rw [← hcalls]
      exact List.mem_map_of_mem hr
    exact absurd hline.symm (Program.line_ne_line hcall hd)
  · -- the lines grow along the results, so there is one result for a line
    have hnodup : ((s.run source).1.results.map fun r => r.call.line).Nodup := by
      have hgrow := Program.calls_pairwise s.catalog source
      rw [← hcalls, List.pairwise_map] at hgrow
      rw [List.Nodup, List.pairwise_map]
      exact hgrow.imp fun h => Nat.ne_of_lt h
    rw [List.inj_on_of_nodup_map hnodup hr hr' hline.symm]
    exact hfailed

/-- **Lines that did not succeed are no-ops.** When some of them are turned into
comments, the script ends in the same session, with the same results, problems and
normalized lines for all other lines, as many successes, and nothing for the hidden
lines but their comments. -/
theorem run_commentOut (s : Session) (source : String) (hidden : Finset Nat)
    (hhidden : ∀ number ∈ hidden, s.Unsuccessful source number) :
    let before := s.run source
    let after := s.run (commentOut hidden source)
    after.2 = before.2 ∧
    after.1.results = before.1.results.filter (fun r => decide (r.call.line ∉ hidden)) ∧
    after.1.diagnostics = before.1.diagnostics.filter (fun d => decide (d.line ∉ hidden)) ∧
    after.1.normalized = before.1.normalized.mapIdx
      (fun i text => if i + 1 ∈ hidden then "// " else text) ∧
    after.1.successes = before.1.successes := by
  have hread := Program.read_commentOut s.catalog hidden source
  have hfail : ∀ r ∈ (s.registry.execute s.world (Program.read s.catalog source).calls).1,
      decide (r.call.line ∉ hidden) = false → r.isOk = false := by
    intro r hr hline
    rw [← results_run] at hr
    refine s.isOk_of_unsuccessful source hr (hhidden _ ?_)
    simpa using hline
  have hexecute := s.registry.execute_filter s.world (Program.read s.catalog source).calls
    (fun c => decide (c.line ∉ hidden)) hfail
  simp only [run_snd, results_run, diagnostics_run, normalized_run, successes_run, hread,
    hexecute]
  exact ⟨trivial, trivial, trivial, trivial, successCount_filter hfail⟩

/-- Three lines, of which the second is no call and the third asks for a taken cell. -/
theorem run_commentOut_roads :
    let s := Session.ofSettings { gridSize := 2 }
    let source := "build_road(0, 0)\nfoo\nbuild_road(0, 0)"
    (∀ number ∈ ({2, 3} : Finset Nat), s.Unsuccessful source number) ∧
    commentOut {2, 3} source = "build_road(0, 0)\n#\n#" ∧
    (s.run (commentOut {2, 3} source)).2 = (s.run source).2 ∧
    (s.run (commentOut {2, 3} source)).1.normalized =
      ["build_road(row=0, col=0, direction=\"h\")", "// ", "// "] := by
  intro s source
  have hhidden : ∀ number ∈ ({2, 3} : Finset Nat), s.Unsuccessful source number := by
    decide +kernel
  obtain ⟨hsession, _, _, hnormalized, _⟩ := run_commentOut s source {2, 3} hhidden
  refine ⟨hhidden, by decide +kernel, hsession, ?_⟩
  rw [hnormalized]
  decide +kernel

end Session

end CityScript
