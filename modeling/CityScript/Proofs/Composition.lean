/-
Running two scripts one after the other is running them as one script.

The first script has to end with a line feed, or be empty; else its last line and
the first one of the second script would become one line. Given that, the lines of
both together are the lines of the first and then those of the second, further
down by the number of lines of the first. Reading has no memory from line to line,
and running has none but the world. So the second part of the whole script is run
on the world that the first part has left, and its report differs from that of the
second script only in the numbers of the lines.
-/
import CityScript.Proofs.Numbering

set_option autoImplicit false

namespace CityScript

/-! ## Lines -/

/-- The lines of a text that ends with a line feed, and of more text after it. -/
theorem Text.lines_append {a : List Char} (ha : a = [] ∨ ∃ front, a = front ++ ['\n'])
    (b : List Char) : Text.lines (a ++ b) = Text.lines a ++ Text.lines b := by
  rcases ha with rfl | ⟨front, rfl⟩
  · rfl
  · rw [List.append_assoc, List.singleton_append, Text.lines_append_newline]

/-- The lines of both scripts are those of the first and then, further down, those
of the second. -/
theorem readLines_append (catalog : Catalog) {a : String}
    (ha : a = "" ∨ ∃ front, a = front ++ "\n") (b : String) :
    readLines catalog (a ++ b) =
      readLines catalog a ++
        (readLines catalog b).map (·.shift (Text.lines a.toList).length) := by
  have hchars : a.toList = [] ∨ ∃ front, a.toList = front ++ ['\n'] := by
    rcases ha with rfl | ⟨front, rfl⟩
    · exact .inl rfl
    · exact .inr ⟨front.toList, by rw [String.toList_append]; rfl⟩
  rw [readLines, readLines, readLines, String.toList_append, Text.lines_append hchars,
    List.mapIdx_append]
  refine congrArg _ (List.ext_getElem (by simp) ?_)
  intro i _ _
  rw [List.getElem_map, List.getElem_mapIdx, List.getElem_mapIdx, ← Line.read_add,
    Nat.add_right_comm]

/-! ## Programs -/

namespace Program

/-- A program further down: the same calls and problems with greater numbers. -/
theorem ofLines_map_shift (lines : List Line) (n : Nat) :
    ofLines (lines.map (·.shift n)) =
      ⟨(ofLines lines).calls.map (·.shift n), (ofLines lines).normalized,
        (ofLines lines).diagnostics.map (·.shift n)⟩ := by
  have hcall : Line.call? ∘ (fun l : Line => l.shift n) =
      fun l => l.call?.map (·.shift n) := funext fun l => l.call?_shift n
  have hdiagnostic : Line.diagnostic? ∘ (fun l : Line => l.shift n) =
      fun l => l.diagnostic?.map (·.shift n) := funext fun l => l.diagnostic?_shift n
  have hrender : Line.render ∘ (fun l : Line => l.shift n) = Line.render :=
    funext fun l => l.render_shift n
  simp only [ofLines, List.filterMap_map, List.map_map, hcall, hdiagnostic, hrender,
    List.map_filterMap]

/-- **Reading two scripts as one.** -/
theorem read_append (catalog : Catalog) {a : String}
    (ha : a = "" ∨ ∃ front, a = front ++ "\n") (b : String) :
    Program.read catalog (a ++ b) =
      ⟨(Program.read catalog a).calls ++
          (Program.read catalog b).calls.map (·.shift (Text.lines a.toList).length),
        (Program.read catalog a).normalized ++ (Program.read catalog b).normalized,
        (Program.read catalog a).diagnostics ++
          (Program.read catalog b).diagnostics.map (·.shift (Text.lines a.toList).length)⟩ := by
  rw [Program.read, readLines_append catalog ha b, ofLines_append, ofLines_map_shift]
  rfl

end Program

/-! ## Batches -/

namespace Registry

/-- What a call does has nothing to do with its line. -/
theorem step_shift (registry : Registry) (w : World) (call : Call) (n : Nat) :
    registry.step w (call.shift n) =
      ((registry.step w call).1.shift n, (registry.step w call).2) := rfl

/-- A batch further down: the same outcomes and the same world. -/
theorem execute_map_shift (registry : Registry) (w : World) (calls : List Call) (n : Nat) :
    registry.execute w (calls.map (·.shift n)) =
      ((registry.execute w calls).1.map (·.shift n), (registry.execute w calls).2) := by
  induction calls generalizing w with
  | nil => rfl
  | cons call calls ih =>
    -- both batches go on in the world after the first call, so `w` is general
    rw [List.map_cons, execute, step_shift, execute]
    dsimp only
    rw [ih]
    rfl

end Registry

/-- Results further down succeed as often. -/
theorem successCount_map_shift (results : List CallResult) (n : Nat) :
    successCount (results.map (·.shift n)) = successCount results := by
  rw [successCount, List.countP_map]
  rfl

/-! ## Sessions -/

namespace Session

/-- **Running scripts composes.** A script that is empty or ends with a line feed and
a second one after it, run as one script, leave the session that they leave when run
one after the other. The report of the whole is the report of the first and then that
of the second, with its lines moved down by the number of lines of the first. -/
theorem run_append (s : Session) (a b : String) (ha : a = "" ∨ ∃ front, a = front ++ "\n") :
    let first := s.run a
    let second := first.2.run b
    let whole := s.run (a ++ b)
    let n := (Text.lines a.toList).length
    whole.2 = second.2 ∧
    whole.1.normalized = first.1.normalized ++ second.1.normalized ∧
    whole.1.diagnostics = first.1.diagnostics ++ second.1.diagnostics.map (·.shift n) ∧
    whole.1.results = first.1.results ++ second.1.results.map (·.shift n) ∧
    whole.1.successes = first.1.successes + second.1.successes := by
  -- what is left of the equations after the parts are taken together is the count
  simp only [run_snd, results_run, diagnostics_run, normalized_run, successes_run,
    Program.read_append s.catalog ha b, Registry.execute_append, Registry.execute_map_shift]
  refine ⟨trivial, trivial, trivial, trivial, ?_⟩
  rw [successCount, List.countP_append]
  exact congrArg _ (successCount_map_shift _ _)

/-- Two roads on one cell, in two scripts: the second fails, and on the second line
of the whole. -/
theorem run_append_roads :
    let s := Session.ofSettings { gridSize := 2 }
    ("build_road(0, 0)\n" = "" ∨ ∃ front, "build_road(0, 0)\n" = front ++ "\n") ∧
    (Text.lines "build_road(0, 0)\n".toList).length = 1 ∧
    (s.run ("build_road(0, 0)\n" ++ "build_road(0, 0)")).2 =
      ((s.run "build_road(0, 0)\n").2.run "build_road(0, 0)").2 ∧
    (s.run ("build_road(0, 0)\n" ++ "build_road(0, 0)")).1.results.map (·.call.line) = [1, 2] := by
  intro s
  have ha : "build_road(0, 0)\n" = "" ∨ ∃ front, "build_road(0, 0)\n" = front ++ "\n" :=
    .inr ⟨"build_road(0, 0)", by decide⟩
  obtain ⟨hsession, _, _, hresults, _⟩ := run_append s "build_road(0, 0)\n" "build_road(0, 0)" ha
  refine ⟨ha, by decide +kernel, hsession, ?_⟩
  rw [hresults]
  decide +kernel

end Session

end CityScript
