/-
What the commands answer, and in what a run and a check agree.

A check fails when there is a problem with the script, a run fails when it cannot begin,
and a strict run also fails when it leaves out a line: one that is neither blank nor a mere
comment and on which no call succeeds.

A run and a check read a script against the same operations, so they find the same
problems and write the same normalized lines. A script that a check rejects is therefore
rejected by every strict run, whatever its configuration, and if the run cannot even begin
it fails anyway.

Nothing in this depends on how an answer is shown: the exit code is fixed before the format
of the output is looked at. What is shown is the answer alone, and a document that is shown
is read back as the one that was written.
-/
import CityScript.Proofs.CleanReport
import CityScript.Proofs.DocumentText
import CityScript.Proofs.MinorEvents
import CityScript.Proofs.PaddedLines

set_option autoImplicit false

namespace CityScript

/-! ## Lines written -/

namespace Answer

/-- **As many lines are written as there are texts**, if each of them is on one line. -/
theorem length_lines_unlines {texts : List String} (h : ∀ text ∈ texts, '\n' ∉ text.toList) :
    (Text.lines (unlines texts).toList).length = texts.length := by
  induction texts with
  | nil => rfl
  | cons text texts ih =>
    have hchars : (unlines (text :: texts)).toList =
        text.toList ++ '\n' :: (unlines texts).toList := by
      simp [unlines, String.join_cons]
    obtain ⟨kept, -, -, -, hlines⟩ :=
      Text.exists_lines_append_newline (h text List.mem_cons_self) (unlines texts).toList
    rw [hchars, hlines, List.length_cons, ih fun t ht => h t (List.mem_cons_of_mem text ht),
      List.length_cons]

end Answer

namespace Catalog

theorem mem_of_get?_insertMany {c : Catalog} {signatures : List Signature} {name : String}
    {s : Signature} (h : (c.insertMany signatures).get? name = some s) :
    s ∈ signatures ∨ c.get? name = some s := by
  induction signatures generalizing c with
  | nil => exact .inr h
  | cons first rest ih =>
    rcases ih (c := c.insert first) h with hrest | hfirst
    · exact .inl (List.mem_cons_of_mem first hrest)
    · rw [get?_insert] at hfirst
      split at hfirst
      · cases hfirst
        exact .inl List.mem_cons_self
      · exact .inr hfirst

theorem newline_not_mem_builtin (name : String) (s : Signature)
    (h : builtin.get? name = some s) : ∀ p ∈ s.parameters, '\n' ∉ p.name.toList := by
  rcases mem_of_get?_insertMany h with hmem | hnone
  · clear h
    revert s
    decide +kernel
  · rw [get?_empty] at hnone
    cases hnone

end Catalog

/-! ## Steps that may fail -/

section Steps

variable {ε α β : Type} {x : Except ε α} {f : α → Except ε β}

theorem bind_eq_error :
    (∃ e, (x >>= f) = .error e) ↔ (∃ e, x = .error e) ∨ ∃ a, x = .ok a ∧ ∃ e, f a = .error e := by
  cases x <;> simp [bind, Except.bind]

theorem bind_eq_ok {b : β} : (x >>= f) = .ok b ↔ ∃ a, x = .ok a ∧ f a = .ok b := by
  cases x <;> simp [bind, Except.bind]

end Steps

/-! ## Loading -/

namespace Inputs

/-- What keeps a run from beginning: its configuration, its mask or its script cannot be
loaded, or the mask does not have the configured size. -/
inductive CannotBegin (i : Inputs) (configPath : Option String) (script : String)
    (options : RunOptions) : Prop where
  | config (e : LoadError) (hconfig : i.config configPath = .error e)
  | mask (c : Config) (path : String) (e : LoadError) (hconfig : i.config configPath = .ok c)
    (hpath : (options.mask <|> c.mask) = some path) (hmask : i.maskFile path = .error e)
  | size (c : Config) (path : String) (m : Mask) (n : Nat) (hconfig : i.config configPath = .ok c)
    (hpath : (options.mask <|> c.mask) = some path) (hmask : i.maskFile path = .ok m)
    (hsize : c.gridSize = some n) (hne : n ≠ m.size)
  | script (e : LoadError) (hscript : i.script script = .error e)

variable {i : Inputs} {configPath : Option String} {script : String} {options : RunOptions}

/-- A mask cannot be loaded if its file cannot, or does not have the size. -/
theorem mask_eq_error {size : Option Nat} {path : Option String} :
    (∃ e, i.mask size path = .error e) ↔
      ∃ file, path = some file ∧ ((∃ e, i.maskFile file = .error e) ∨
        ∃ m n, i.maskFile file = .ok m ∧ size = some n ∧ n ≠ m.size) := by
  cases path with
  | none => simp [mask]
  | some file =>
    cases hmask : i.maskFile file with
    | error e => simp [mask, hmask]
    | ok m =>
      cases size with
      | none => simp [mask, hmask]
      | some n => by_cases hn : n = m.size <;> simp [mask, hmask, hn]

theorem session_eq_error :
    (∃ e, i.session configPath options = .error e) ↔ (∃ e, i.config configPath = .error e) ∨
      ∃ c, i.config configPath = .ok c ∧
        ∃ e, i.mask c.gridSize (options.mask <|> c.mask) = .error e := by
  rw [session, bind_eq_error]
  refine or_congr_right (exists_congr fun c => and_congr_right fun _ => ?_)
  -- the settings are put together without fail
  rw [bind_eq_error, or_iff_left]
  rintro ⟨m, _, e, h⟩
  cases h

/-- Every session that is loaded has the city operations. -/
theorem catalog_of_session {session : Session} (h : i.session configPath options = .ok session) :
    session.catalog = .builtin := by
  obtain ⟨c, _, h⟩ := bind_eq_ok.mp h
  obtain ⟨m, _, h⟩ := bind_eq_ok.mp h
  rw [← Except.ok.inj h]
  rfl

theorem run_eq_error :
    (∃ e, i.run configPath script options = .error e) ↔
      (∃ e, i.session configPath options = .error e) ∨ ∃ e, i.script script = .error e := by
  rw [run, bind_eq_error]
  constructor
  · rintro (h | ⟨session, _, h⟩)
    · exact .inl h
    · rcases bind_eq_error.mp h with h | ⟨source, _, e, h⟩
      · exact .inr h
      · cases h
  · rintro (h | ⟨e, h⟩)
    · exact .inl h
    · -- an unreadable script is found only after the session is loaded
      cases hsession : i.session configPath options with
      | error e => exact .inl ⟨e, rfl⟩
      | ok session => exact .inr ⟨session, rfl, bind_eq_error.mpr (.inl ⟨e, h⟩)⟩

/-- **What keeps a run from beginning** is what keeps it from being answered. -/
theorem run_eq_error_iff_cannotBegin :
    (∃ e, i.run configPath script options = .error e) ↔
      i.CannotBegin configPath script options := by
  rw [run_eq_error, session_eq_error]
  constructor
  · rintro ((⟨e, hconfig⟩ | ⟨c, hconfig, herror⟩) | ⟨e, hscript⟩)
    · exact .config e hconfig
    · obtain ⟨path, hpath, ⟨e, hmask⟩ | ⟨m, n, hmask, hsize, hne⟩⟩ := mask_eq_error.mp herror
      · exact .mask c path e hconfig hpath hmask
      · exact .size c path m n hconfig hpath hmask hsize hne
    · exact .script e hscript
  · intro h
    cases h with
    | config e hconfig => exact .inl (.inl ⟨e, hconfig⟩)
    | mask c path e hconfig hpath hmask =>
      exact .inl (.inr ⟨c, hconfig, mask_eq_error.mpr ⟨path, hpath, .inl ⟨e, hmask⟩⟩⟩)
    | size c path m n hconfig hpath hmask hsize hne =>
      exact .inl (.inr ⟨c, hconfig,
        mask_eq_error.mpr ⟨path, hpath, .inr ⟨m, n, hmask, hsize, hne⟩⟩⟩)
    | script e hscript => exact .inr ⟨e, hscript⟩

theorem run_eq_ok {a : Answer} :
    i.run configPath script options = .ok a ↔
      ∃ session source, i.session configPath options = .ok session ∧
        i.script script = .ok source ∧
        .ofReport (session.run source).1
          (if options.map then some (session.run source).2.map else none) options.strict = a := by
  constructor
  · intro h
    obtain ⟨session, hsession, h⟩ := bind_eq_ok.mp h
    obtain ⟨source, hscript, h⟩ := bind_eq_ok.mp h
    exact ⟨session, source, hsession, hscript, Except.ok.inj h⟩
  · rintro ⟨session, source, hsession, hscript, rfl⟩
    exact bind_eq_ok.mpr ⟨session, hsession, bind_eq_ok.mpr ⟨source, hscript, rfl⟩⟩

theorem check_eq_error :
    (∃ e, i.check script = .error e) ↔ ∃ e, i.script script = .error e := by
  rw [check, bind_eq_error, or_iff_left]
  rintro ⟨source, _, e, h⟩
  cases h

theorem check_eq_ok {a : Answer} :
    i.check script = .ok a ↔
      ∃ source, i.script script = .ok source ∧ .ofProgram (.read .builtin source) = a := by
  constructor
  · intro h
    obtain ⟨source, hscript, h⟩ := bind_eq_ok.mp h
    exact ⟨source, hscript, Except.ok.inj h⟩
  · rintro ⟨source, hscript, rfl⟩
    exact bind_eq_ok.mpr ⟨source, hscript, rfl⟩

end Inputs

/-! ## What is written -/

/-- Every normalized line of a script for the city operations is one line. -/
theorem Program.newline_not_mem_normalized (source : String) :
    ∀ text ∈ (Program.read .builtin source).normalized, '\n' ∉ text.toList := by
  intro text htext
  rw [normalized_read] at htext
  obtain ⟨raw, hraw, rfl⟩ := List.mem_map.mp htext
  exact Line.newline_not_mem_render Catalog.newline_not_mem_builtin
    (Text.newline_not_mem_of_mem_lines hraw) 1

/-- The document that a check writes. -/
def Program.document (p : Program) : Json :=
  .object [
    ("calls", .ofNat p.calls.length),
    ("diagnostics", .list (p.diagnostics.map Diagnostic.toJson)),
    ("normalized_code", .list (p.normalized.map Json.ofString))]

/-- The document that a run writes, with the map if it is to be shown. -/
def Session.document (s : Session) (source : String) (map : Bool) : Json :=
  .object ((s.run source).1.members (if map then some (s.run source).2.map else none))

theorem Program.wellFormed_document (p : Program) : p.document.WellFormed :=
  .member (by decide) (Json.wellFormed_ofNat p.calls.length) <|
  .member (by decide) (Json.wellFormed_list_map Diagnostic.wellFormed_toJson p.diagnostics) <|
  .member (by decide) (Json.wellFormed_list_map Json.wellFormed_ofString p.normalized) .noMembers

theorem Session.wellFormed_document (s : Session) (source : String) (map : Bool) :
    (s.document source map).WellFormed := Report.wellFormed_members _ _

namespace Answer

@[simp] theorem streams_quiet (a : Answer) (format : OutputFormat) : a.streams format true = {} :=
  rfl

@[simp] theorem streams_text (a : Answer) : a.streams .text false = a.text := rfl

@[simp] theorem streams_json (a : Answer) : a.streams .json false = a.json := rfl

theorem text_ofProgram (p : Program) : (ofProgram p).text =
    { stdout := unlines p.normalized, stderr := unlines (warnings p.diagnostics) } := rfl

theorem json_ofProgram (p : Program) :
    (ofProgram p).json = { stdout := unlines [p.document.pretty] } := rfl

theorem code_ofReport (r : Report) (map : Option String) (strict : Bool) :
    (ofReport r map strict).code = codeIf (strict && !r.isClean) := rfl

theorem json_ofReport (s : Session) (source : String) (map strict : Bool) :
    (ofReport (s.run source).1 (if map then some (s.run source).2.map else none) strict).json =
      { stdout := unlines [(s.document source map).pretty] } := rfl

end Answer

/-- What a run has in common with a check, it writes in the same way. -/
theorem Session.member?_document (s : Session) (source : String) (map : Bool) {key : String}
    (hkey : key ∈ ["normalized_code", "diagnostics"]) :
    ∃ part, (s.document source map).member? key = some part ∧
      (Program.read s.catalog source).document.member? key = some part := by
  rw [List.mem_pair] at hkey
  rcases hkey with rfl | rfl
  · refine ⟨.list ((Program.read s.catalog source).normalized.map Json.ofString), ?_, ?_⟩
    · cases map <;> simp [document, Report.members, Json.member?]
    · simp [Program.document, Json.member?]
  · refine ⟨.list ((Program.read s.catalog source).diagnostics.map Diagnostic.toJson), ?_, ?_⟩
    · simp [document, Report.members, Json.member?]
    · simp [Program.document, Json.member?]

/-! ## Exit codes -/

namespace Answer

/-- The exit code is one under a condition, and zero otherwise. -/
def FailsIff (a : Answer) (p : Prop) : Prop := (a.code = 1 ↔ p) ∧ (a.code = 0 ↔ ¬p)

theorem failsIff_of_codeIf {a : Answer} {failed : Bool} {p : Prop} (hcode : a.code = codeIf failed)
    (hp : failed = true ↔ p) : a.FailsIff p := by
  cases failed <;> simp [FailsIff, hcode, codeIf, ← hp]

/-- A command that has not begun fails. -/
theorem failsIff_ofExcept {r : Except LoadError Answer} {p : Prop}
    (h : ∀ a, r = .ok a → a.FailsIff p) : (ofExcept r).FailsIff ((∃ e, r = .error e) ∨ p) := by
  cases r with
  | error e => simp [FailsIff, ofExcept, ofError]
  | ok a => simpa [ofExcept] using h a rfl

end Answer

namespace Invocation

/-- In what two invocations agree that check and run one script on the same inputs. -/
structure Agreement (i : Inputs) (script : String) (options : RunOptions)
    (check run : Invocation) : Prop where
  /-- A check fails if there is no script, or if there is a problem with it. -/
  check_fails : (check.answer i).FailsIff ((∃ e, i.script script = .error e) ∨
    ∃ source, i.script script = .ok source ∧ (Program.read .builtin source).diagnostics ≠ [])
  /-- A run fails if it cannot begin, or if it is strict and leaves a line. -/
  run_fails : (run.answer i).FailsIff (i.CannotBegin run.config script options ∨
    options.strict = true ∧ ∃ session source, i.session run.config options = .ok session ∧
      i.script script = .ok source ∧ session.LeavesLine source)
  /-- How the answer of a check is shown does not matter for its exit code. -/
  check_code : ∀ output quiet, ({ check with output, quiet }.answer i).code = (check.answer i).code
  /-- Nor does it for a run, nor whether the map is shown. -/
  run_code : ∀ output quiet map,
    ({ run with output, quiet, command := .run script { options with map } }.answer i).code =
      (run.answer i).code
  /-- Nothing is written by a quiet command. -/
  quiet : (check.quiet = true → check.streams i = {}) ∧ (run.quiet = true → run.streams i = {})
  /-- A strict run rejects what a check rejects. -/
  strict : options.strict = true → (check.answer i).code = 1 → (run.answer i).code = 1
  /-- A run and a check write the same problems and normalized lines. -/
  documents : ∀ session source, i.session run.config options = .ok session →
    i.script script = .ok source →
    check.output = .json → check.quiet = false → run.output = .json → run.quiet = false →
    check.streams i =
        { stdout := Answer.unlines [(Program.read .builtin source).document.pretty] } ∧
      run.streams i =
        { stdout := Answer.unlines [(session.document source options.map).pretty] } ∧
      ∀ key ∈ ["normalized_code", "diagnostics"], ∃ part,
        (Program.read .builtin source).document.member? key = some part ∧
        (session.document source options.map).member? key = some part
  /-- Their standard outputs read as those two documents. -/
  read_back : ∀ session source, i.session run.config options = .ok session →
    i.script script = .ok source →
    check.output = .json → check.quiet = false → run.output = .json → run.quiet = false →
    Json.read? (check.streams i).stdout = some (Program.read .builtin source).document ∧
      Json.read? (run.streams i).stdout = some (session.document source options.map)
  /-- Unless a command is to be verbose, its answer is all that it writes. -/
  written : ∀ render, (check.verbose = false → check.written i render = check.streams i) ∧
    (run.verbose = false → run.written i render = run.streams i)
  /-- A check writes a line for every line of the script. -/
  lines : ∀ source, i.script script = .ok source → check.output = .text → check.quiet = false →
    (Text.lines (check.streams i).stdout.toList).length = (Text.lines source.toList).length

variable {i : Inputs} {script : String} {options : RunOptions} {check run : Invocation}

theorem answer_of_check (hcheck : check.command = .check script) :
    check.answer i = .ofExcept (i.check script) := by
  rw [answer, hcheck]

theorem answer_of_run (hrun : run.command = .run script options) :
    run.answer i = .ofExcept (i.run run.config script options) := by
  rw [answer, hrun]

/-- **When a check fails.** -/
theorem failsIff_check (hcheck : check.command = .check script) :
    (check.answer i).FailsIff ((∃ e, i.script script = .error e) ∨
      ∃ source, i.script script = .ok source ∧
        (Program.read .builtin source).diagnostics ≠ []) := by
  rw [answer_of_check hcheck, ← Inputs.check_eq_error]
  refine Answer.failsIff_ofExcept fun a h => ?_
  obtain ⟨source, hscript, rfl⟩ := Inputs.check_eq_ok.mp h
  refine Answer.failsIff_of_codeIf rfl ?_
  simp [hscript]

/-- **When a run fails.** -/
theorem failsIff_run (hrun : run.command = .run script options) :
    (run.answer i).FailsIff (i.CannotBegin run.config script options ∨
      options.strict = true ∧ ∃ session source, i.session run.config options = .ok session ∧
        i.script script = .ok source ∧ session.LeavesLine source) := by
  rw [answer_of_run hrun, ← Inputs.run_eq_error_iff_cannotBegin]
  refine Answer.failsIff_ofExcept fun a h => ?_
  obtain ⟨session, source, hsession, hscript, rfl⟩ := Inputs.run_eq_ok.mp h
  refine Answer.failsIff_of_codeIf rfl ?_
  rw [Bool.and_eq_true, Bool.not_eq_true', Session.isClean_run_iff]
  simp [hsession, hscript]

/-- Whether the map of a run is to be shown, its exit code is the same. -/
theorem code_run_map (config : Option String) (map : Bool) :
    (Answer.ofExcept (i.run config script { options with map })).code =
      (Answer.ofExcept (i.run config script options)).code := by
  have hsession : i.session config { options with map } = i.session config options := rfl
  rcases hrun : i.run config script options with e | a
  · obtain ⟨e', hrun'⟩ : ∃ e, i.run config script { options with map } = .error e := by
      rw [Inputs.run_eq_error, hsession, ← Inputs.run_eq_error]
      exact ⟨e, hrun⟩
    rw [hrun']
    rfl
  · obtain ⟨session, source, hs, hscript, rfl⟩ := Inputs.run_eq_ok.mp hrun
    rw [← hsession] at hs
    rw [Inputs.run_eq_ok.mpr ⟨session, source, hs, hscript, rfl⟩, Answer.ofExcept,
      Answer.ofExcept, Answer.code_ofReport, Answer.code_ofReport]

/-- **A strict run rejects what a check rejects.** If the run can begin, it leaves the line
with the problem. -/
theorem code_run_of_check (hcheck : check.command = .check script)
    (hrun : run.command = .run script options) (hstrict : options.strict = true)
    (hcode : (check.answer i).code = 1) : (run.answer i).code = 1 := by
  rw [(failsIff_run hrun).1]
  rcases (failsIff_check hcheck).1.mp hcode with ⟨e, hscript⟩ | ⟨source, hscript, hproblems⟩
  · exact .inl (.script e hscript)
  · cases hsession : i.session run.config options with
    | error e =>
      exact .inl (Inputs.run_eq_error_iff_cannotBegin.mp
        (Inputs.run_eq_error.mpr (.inl ⟨e, hsession⟩)))
    | ok session =>
      refine .inr ⟨hstrict, session, source, rfl, hscript, ?_⟩
      rw [← Inputs.catalog_of_session hsession] at hproblems
      obtain ⟨d, hd⟩ := List.exists_mem_of_ne_nil _ hproblems
      exact session.leavesLine_of_unsuccessful (.inl ⟨d, hd, rfl⟩)

/-- What a check writes as a document, of a script that it can read. -/
theorem streams_of_check {source : String} (hcheck : check.command = .check script)
    (hscript : i.script script = .ok source) (hjson : check.output = .json)
    (hloud : check.quiet = false) :
    check.streams i =
      { stdout := Answer.unlines [(Program.read .builtin source).document.pretty] } := by
  rw [streams, hjson, hloud, Answer.streams_json, answer_of_check hcheck,
    Inputs.check_eq_ok.mpr ⟨source, hscript, rfl⟩, Answer.ofExcept, Answer.json_ofProgram]

/-- What a run writes as a document, if it can begin. -/
theorem streams_of_run {session : Session} {source : String}
    (hrun : run.command = .run script options)
    (hsession : i.session run.config options = .ok session)
    (hscript : i.script script = .ok source) (hjson : run.output = .json)
    (hloud : run.quiet = false) :
    run.streams i =
      { stdout := Answer.unlines [(session.document source options.map).pretty] } := by
  rw [streams, hjson, hloud, Answer.streams_json, answer_of_run hrun,
    Inputs.run_eq_ok.mpr ⟨session, source, hsession, hscript, rfl⟩, Answer.ofExcept,
    Answer.json_ofReport]

/-- **A check and a run of one script agree**, whatever the run is configured with. -/
theorem commands_agree (i : Inputs) (script : String) (options : RunOptions)
    (check run : Invocation) (hcheck : check.command = .check script)
    (hrun : run.command = .run script options) : Agreement i script options check run where
  check_fails := failsIff_check hcheck
  run_fails := failsIff_run hrun
  check_code := fun _ _ => rfl
  run_code := by
    intro output quiet map
    rw [answer_of_run hrun, answer_of_run rfl]
    exact code_run_map run.config map
  quiet := by
    constructor <;> intro hquiet <;> rw [streams, hquiet, Answer.streams_quiet]
  strict := code_run_of_check hcheck hrun
  documents := by
    intro session source hsession hscript hcheckJson hcheckLoud hrunJson hrunLoud
    refine ⟨streams_of_check hcheck hscript hcheckJson hcheckLoud,
      streams_of_run hrun hsession hscript hrunJson hrunLoud, fun key hkey => ?_⟩
    obtain ⟨part, hrunPart, hcheckPart⟩ := session.member?_document source options.map hkey
    rw [Inputs.catalog_of_session hsession] at hcheckPart
    exact ⟨part, hcheckPart, hrunPart⟩
  read_back := by
    intro session source hsession hscript hcheckJson hcheckLoud hrunJson hrunLoud
    rw [streams_of_check hcheck hscript hcheckJson hcheckLoud,
      streams_of_run hrun hsession hscript hrunJson hrunLoud]
    exact ⟨Answer.read?_unlines_pretty (Program.wellFormed_document _),
      Answer.read?_unlines_pretty (session.wellFormed_document source options.map)⟩
  written := fun render => ⟨written_of_not_verbose i render, written_of_not_verbose i render⟩
  lines := by
    intro source hscript htext hloud
    rw [streams, htext, hloud, Answer.streams_text, answer_of_check hcheck,
      Inputs.check_eq_ok.mpr ⟨source, hscript, rfl⟩, Answer.ofExcept, Answer.text_ofProgram,
      Answer.length_lines_unlines (Program.newline_not_mem_normalized source), normalized_read,
      List.length_map]

/-- An operation with a misspelled name is found by a check, and by a strict run. -/
theorem commands_agree_misspelled :
    let i : Inputs := ⟨fun _ => .ok "build_road(0, 0)\nbuild_rod(1, 0)\n", .ok ""⟩
    let check : Invocation := { command := .check "town.txt" }
    let run : Invocation := { command := .run "town.txt" { strict := true } }
    (check.answer i).code = 1 ∧ (run.answer i).code = 1 ∧
      (Text.lines (check.streams i).stdout.toList).length = 2 := by
  intro i check run
  have hlaws : Agreement i "town.txt" { strict := true } check run :=
    commands_agree i "town.txt" { strict := true } check run rfl rfl
  have hcode : (check.answer i).code = 1 := by decide +kernel
  exact ⟨hcode, hlaws.strict rfl hcode, hlaws.lines _ rfl rfl rfl⟩

end Invocation

end CityScript
