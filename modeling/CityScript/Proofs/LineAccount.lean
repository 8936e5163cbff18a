/-
Every line of a script is accounted for, once.

A program keeps three lists: the calls, the problems, and the normalized form of
each line. Only the last has an entry for every line. What ties the other two to the
lines is the number that each entry carries: the entries of a number are what is seen
on the line of that number, and as the numbers grow along a list, there is at most
one. Whether there is one depends on the line alone. An idle line gives nothing, and
every other line a call or a problem.
-/
import Mathlib.Data.List.Nodup
import CityScript.Proofs.LineReading
import CityScript.Proofs.Numbering

set_option autoImplicit false

namespace CityScript

/-! ## Entries of one number -/

section Numbered

variable {α : Type} {view : Line → Option α} {number : α → Nat} {catalog : Catalog}

/-- What is seen on a line is listed. -/
theorem mem_filterMap_readLines_of_view {source : String} {i : Nat} {raw : List Char} {x : α}
    (hraw : (Text.lines source.toList)[i]? = some raw)
    (hview : view (Line.read catalog (i + 1) raw) = some x) :
    x ∈ (readLines catalog source).filterMap view := by
  obtain ⟨hi, hget⟩ := List.getElem?_eq_some_iff.mp hraw
  rw [List.mem_filterMap]
  refine ⟨_, ?_, hview⟩
  rw [readLines, List.mem_mapIdx]
  exact ⟨i, hi, by rw [hget]⟩

/-- **The entries of a number** are what is seen on the line of that number. -/
theorem filter_filterMap_readLines
    (hnumber : ∀ n raw x, view (Line.read catalog n raw) = some x → number x = n)
    {source : String} {i : Nat} {raw : List Char}
    (hraw : (Text.lines source.toList)[i]? = some raw) :
    ((readLines catalog source).filterMap view).filter (fun x => number x = i + 1) =
      (view (Line.read catalog (i + 1) raw)).toList := by
  have hmem : ∀ x, x ∈ ((readLines catalog source).filterMap view).filter
      (fun x => number x = i + 1) ↔ view (Line.read catalog (i + 1) raw) = some x := by
    intro x
    rw [List.mem_filter, decide_eq_true_eq]
    constructor
    · rintro ⟨hx, hline⟩
      obtain ⟨j, raw', hraw', hline', hview⟩ := mem_filterMap_readLines hnumber hx
      obtain rfl : j = i := by omega
      obtain rfl : raw' = raw := by simpa [hraw'] using hraw
      exact hview
    · exact fun hview => ⟨mem_filterMap_readLines_of_view hraw hview, hnumber _ _ _ hview⟩
  cases hview : view (Line.read catalog (i + 1) raw) with
  | none =>
    rw [Option.toList_none, List.eq_nil_iff_forall_not_mem]
    intro x hx
    rw [hmem, hview] at hx
    cases hx
  | some x =>
    -- numbers grow along the list, so no entry of it stands there twice
    have hnodup : ((readLines catalog source).filterMap view).Nodup :=
      (filterMap_readLines_pairwise hnumber source).imp fun hlt heq => by
        rw [heq] at hlt
        exact Nat.lt_irrefl _ hlt
    refine List.perm_singleton.mp ((List.perm_ext_iff_of_nodup (hnodup.filter _)
      (List.nodup_singleton x)).mpr ?_)
    intro y
    rw [hmem, hview, List.mem_singleton, Option.some.injEq, eq_comm]

/-- An entry has the number of a line of the script. -/
theorem exists_number_eq
    (hnumber : ∀ n raw x, view (Line.read catalog n raw) = some x → number x = n)
    {source : String} {x : α} (hx : x ∈ (readLines catalog source).filterMap view) :
    1 ≤ number x ∧ number x ≤ (Text.lines source.toList).length := by
  obtain ⟨i, raw, hraw, hline, _⟩ := mem_filterMap_readLines hnumber hx
  obtain ⟨hi, _⟩ := List.getElem?_eq_some_iff.mp hraw
  omega

end Numbered

/-! ## Normalized forms -/

/-- The normalized form of a line, wherever it stands. -/
def normalizedLine (catalog : Catalog) (raw : List Char) : String :=
  (Line.read catalog 1 raw).render

/-- The normalized form does not depend on the number of the line. -/
theorem render_read (catalog : Catalog) (i : Nat) (raw : List Char) :
    (Line.read catalog (i + 1) raw).render = normalizedLine catalog raw := by
  rw [Nat.add_comm, Line.read_add, Line.render_shift, normalizedLine]

theorem normalized_read (catalog : Catalog) (source : String) :
    (Program.read catalog source).normalized =
      (Text.lines source.toList).map (normalizedLine catalog) := by
  refine List.ext_getElem (by simp [Program.read, readLines]) ?_
  intro i _ _
  simp only [Program.read, Program.ofLines, readLines, List.getElem_map, List.getElem_mapIdx,
    render_read]

/-! ## The account -/

namespace Program

/-- The calls with the number of a line. -/
def callsOn (p : Program) (number : Nat) : List Call := p.calls.filter fun c => c.line = number

/-- The problems with the number of a line. -/
def diagnosticsOn (p : Program) (number : Nat) : List Diagnostic :=
  p.diagnostics.filter fun d => d.line = number

/-- What a program tells of the lines of its script. -/
structure Account (catalog : Catalog) (source : String) (p : Program) : Prop where
  /-- Every line has one normalized form, which follows from the line and the catalog. -/
  normalized_eq : p.normalized = (Text.lines source.toList).map (normalizedLine catalog)
  /-- A line that is blank or a mere comment gives nothing. -/
  idle : ∀ i raw, (Text.lines source.toList)[i]? = some raw → Text.isIdle raw = true →
    p.callsOn (i + 1) = [] ∧ p.diagnosticsOn (i + 1) = []
  /-- Every other line gives one call or one problem. -/
  busy : ∀ i raw, (Text.lines source.toList)[i]? = some raw → Text.isIdle raw = false →
    (∃ c, p.callsOn (i + 1) = [c] ∧ p.diagnosticsOn (i + 1) = []) ∨
      (∃ d, p.callsOn (i + 1) = [] ∧ p.diagnosticsOn (i + 1) = [d])
  /-- No call and no problem is on a line that there is not. -/
  line_mem : (∀ c ∈ p.calls, 1 ≤ c.line ∧ c.line ≤ (Text.lines source.toList).length) ∧
    ∀ d ∈ p.diagnostics, 1 ≤ d.line ∧ d.line ≤ (Text.lines source.toList).length
  /-- The calls are in the order of their lines. -/
  calls_increasing : p.calls.Pairwise fun c c' => c.line < c'.line
  /-- So are the problems. -/
  diagnostics_increasing : p.diagnostics.Pairwise fun d d' => d.line < d'.line
  /-- Every call is one of the catalog, with an argument for each parameter. -/
  known : ∀ c ∈ p.calls, ∃ s, catalog.get? c.operation = some s ∧
    c.arguments.length = s.parameters.length
  /-- Every normalized form is on one line, unless the name of a parameter is not. -/
  newline_not_mem : (∀ name s, catalog.get? name = some s →
      ∀ parameter ∈ s.parameters, '\n' ∉ parameter.name.toList) →
    ∀ text ∈ p.normalized, '\n' ∉ text.toList

theorem callsOn_read {catalog : Catalog} {source : String} {i : Nat} {raw : List Char}
    (hraw : (Text.lines source.toList)[i]? = some raw) :
    (Program.read catalog source).callsOn (i + 1) =
      (Line.read catalog (i + 1) raw).call?.toList :=
  filter_filterMap_readLines (fun _ _ _ => Line.line_of_call?) hraw

theorem diagnosticsOn_read {catalog : Catalog} {source : String} {i : Nat} {raw : List Char}
    (hraw : (Text.lines source.toList)[i]? = some raw) :
    (Program.read catalog source).diagnosticsOn (i + 1) =
      (Line.read catalog (i + 1) raw).diagnostic?.toList :=
  filter_filterMap_readLines (fun _ _ _ => Line.line_of_diagnostic?) hraw

/-- A call of a program is known to the catalog. -/
theorem known_of_mem_calls {catalog : Catalog} {source : String} {c : Call}
    (hc : c ∈ (Program.read catalog source).calls) :
    ∃ s, catalog.get? c.operation = some s ∧ c.arguments.length = s.parameters.length := by
  obtain ⟨i, raw, _, _, hcall⟩ := mem_filterMap_readLines (fun _ _ _ => Line.line_of_call?) hc
  obtain ⟨s, hline⟩ := Line.eq_call_of_call? hcall
  have hlaw := Line.callLaw_of_read hline
  exact ⟨s, hlaw.get?_eq, hlaw.length_eq⟩

/-- **Every line is accounted for**, exactly once, in every program that is read. -/
theorem read_account (catalog : Catalog) (source : String) :
    (Program.read catalog source).Account catalog source where
  normalized_eq := normalized_read catalog source
  idle := by
    intro i raw hraw hidle
    obtain ⟨hcall, hdiagnostic⟩ := Line.read_of_isIdle catalog (i + 1) hidle
    rw [callsOn_read hraw, diagnosticsOn_read hraw, hcall, hdiagnostic]
    exact ⟨rfl, rfl⟩
  busy := by
    intro i raw hraw hbusy
    rw [callsOn_read hraw, diagnosticsOn_read hraw]
    rcases Line.read_of_not_isIdle catalog (i + 1) hbusy with ⟨c, hc, hd⟩ | ⟨d, hc, hd⟩
    · exact .inl ⟨c, by rw [hc]; rfl, by rw [hd]; rfl⟩
    · exact .inr ⟨d, by rw [hc]; rfl, by rw [hd]; rfl⟩
  line_mem := ⟨fun _ hc => exists_number_eq (fun _ _ _ => Line.line_of_call?) hc,
    fun _ hd => exists_number_eq (fun _ _ _ => Line.line_of_diagnostic?) hd⟩
  calls_increasing := calls_pairwise catalog source
  diagnostics_increasing :=
    filterMap_readLines_pairwise (fun _ _ _ => Line.line_of_diagnostic?) source
  known := fun _ hc => known_of_mem_calls hc
  newline_not_mem := by
    intro hparameters text htext
    rw [normalized_read] at htext
    obtain ⟨raw, hraw, rfl⟩ := List.mem_map.mp htext
    exact Line.newline_not_mem_render hparameters (Text.newline_not_mem_of_mem_lines hraw) 1

end Program

end CityScript
