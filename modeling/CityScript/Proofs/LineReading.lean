/-
What reading one line gives, whatever the line is.

A line is idle when it is blank or begins, after blanks, with the mark of a
comment. An idle line gives neither a call nor a problem, and every other line
gives exactly one of the two. That the scanner for comments sees the same lines as
idle rests on one point: no blank is a quote, so a mark that only blanks precede
is never quoted.

A call has a head that is an identifier and in the catalog, and as many arguments
as its signature has parameters. Whatever a line is, its normalized form is made of
characters of the line itself, of names, and of texts that are written with all line
feeds escaped, so it is one line again.
-/
import CityScript.Proofs.CallForm
import CityScript.Proofs.NumberText
import CityScript.Script.Line

set_option autoImplicit false

namespace CityScript

/-! ## Comments -/

/-- The line that was split: the code, and the comment after its mark. -/
def CommentSplit.text (s : CommentSplit) : List Char :=
  match s.comment with
  | none => s.code
  | some comment => s.code ++ '#' :: comment

/-- **Splitting off a comment loses nothing.** -/
theorem CommentSplit.text_scan (opened : Option Char) (cs : List Char) :
    (scan opened cs).text = cs := by
  induction cs generalizing opened with
  | nil => rfl
  | cons c cs ih =>
    rw [scan_cons]
    split
    · next h =>
      obtain ⟨_, rfl⟩ := h
      rfl
    · have hrest := ih (quoteStep opened c)
      rw [text] at hrest ⊢
      rw [push]
      cases hcomment : (scan (quoteStep opened c) cs).comment with
      | none =>
        rw [hcomment] at hrest
        exact congrArg (c :: ·) hrest
      | some comment =>
        rw [hcomment] at hrest
        exact congrArg (c :: ·) hrest

/-- A comment has characters of its line only. -/
theorem CommentSplit.mem_of_mem_comment {line comment : List Char}
    (h : (CommentSplit.of line).comment = some comment) {c : Char} (hc : c ∈ comment) :
    c ∈ line := by
  have htext := CommentSplit.text_scan none line
  rw [← CommentSplit.of, CommentSplit.text, h] at htext
  rw [← htext]
  exact List.mem_append_right _ (List.mem_cons_of_mem _ hc)

/-! ## Idle lines -/

/-- Whether there is nothing to run on a line: it is blank, or its first character that
is no blank is the mark of a comment. -/
def Text.isIdle (raw : List Char) : Bool :=
  match Text.trimStart raw with
  | [] => true
  | c :: _ => c == '#'

theorem isQuote_eq_false_of_isBlank {c : Char} (h : Text.isBlank c = true) : isQuote c = false := by
  rw [Bool.eq_false_iff]
  intro hquote
  rcases isQuote_iff.mp hquote with rfl | rfl
  · exact absurd h (by decide)
  · exact absurd h (by decide)

/-- **A line is idle if there is no code before its comment**, and only then. -/
theorem trim_code_eq_nil_iff (raw : List Char) :
    Text.trim (CommentSplit.of raw).code = [] ↔ Text.isIdle raw = true := by
  rw [Text.trim_eq_nil_iff, CommentSplit.of]
  induction raw with
  | nil => simp [Text.isIdle, Text.trimStart]
  | cons c raw ih =>
    rw [CommentSplit.scan_cons]
    by_cases hmark : c = '#'
    · subst hmark
      rw [if_pos ⟨rfl, rfl⟩, Text.isIdle, Text.trimStart_cons_of_not_isBlank (by decide)]
      simp
    · rw [if_neg (fun h => hmark h.2), CommentSplit.push]
      by_cases hblank : Text.isBlank c = true
      · -- a blank opens no quote, so the rest is scanned as a line of its own
        have hstep : quoteStep none c = none := by
          rw [quoteStep, isQuote_eq_false_of_isBlank hblank]
          rfl
        have hidle : Text.isIdle (c :: raw) = Text.isIdle raw := by
          rw [Text.isIdle, Text.isIdle, Text.trimStart, List.dropWhile_cons_of_pos hblank]
          rfl
        rw [hstep, hidle, ← ih]
        simp [hblank]
      · have hidle : Text.isIdle (c :: raw) = false := by
          rw [Text.isIdle, Text.trimStart_cons_of_not_isBlank (by simpa using hblank)]
          simpa using hmark
        rw [hidle]
        simp [hblank]

/-! ## Calls and problems -/

namespace Line

/-- An idle line gives nothing. -/
theorem read_of_isIdle (catalog : Catalog) (number : Nat) {raw : List Char}
    (h : Text.isIdle raw = true) :
    (Line.read catalog number raw).call? = none ∧
      (Line.read catalog number raw).diagnostic? = none := by
  rw [← trim_code_eq_nil_iff] at h
  rw [Line.read, if_pos h]
  split <;> exact ⟨rfl, rfl⟩

/-- **A line that is not idle gives a call or a problem**, and not both. -/
theorem read_of_not_isIdle (catalog : Catalog) (number : Nat) {raw : List Char}
    (h : Text.isIdle raw = false) :
    (∃ c, (Line.read catalog number raw).call? = some c ∧
      (Line.read catalog number raw).diagnostic? = none) ∨
    (∃ d, (Line.read catalog number raw).call? = none ∧
      (Line.read catalog number raw).diagnostic? = some d) := by
  have hcode : ¬ Text.trim (CommentSplit.of raw).code = [] := by
    rw [trim_code_eq_nil_iff, h]
    exact Bool.false_ne_true
  rw [Line.read, if_neg hcode, ofCode]
  split
  · exact .inr ⟨_, rfl, rfl⟩
  · dsimp only
    split
    · exact .inr ⟨_, rfl, rfl⟩
    · exact .inl ⟨_, rfl, rfl⟩

/-- A line on which a call is seen is that call. -/
theorem eq_call_of_call? {l : Line} {c : Call} (h : l.call? = some c) : ∃ s, l = .call s c := by
  cases l <;> cases h
  exact ⟨_, rfl⟩

/-- What is true of every call on a line: it calls an operation of the catalog under an
identifier, and has an argument for each parameter. -/
structure CallLaw (catalog : Catalog) (s : Signature) (c : Call) : Prop where
  get?_eq : catalog.get? c.operation = some s
  isIdentifier : CityScript.isIdentifier c.operation.toList = true
  length_eq : c.arguments.length = s.parameters.length

/-- **The law of a call** on a line. -/
theorem callLaw_of_read {catalog : Catalog} {number : Nat} {raw : List Char} {s : Signature}
    {c : Call} (h : Line.read catalog number raw = .call s c) : CallLaw catalog s c := by
  unfold Line.read at h
  dsimp only at h
  split at h
  · split at h <;> cases h
  · unfold ofCode at h
    split at h
    · cases h
    · next parts hparts =>
      dsimp only at h
      split at h
      · cases h
      · next signature hsignature =>
        cases h
        refine ⟨hsignature, ?_, Arguments.length_resolve _ _⟩
        rw [String.toList_ofList]
        exact CallLine.isIdentifier_head hparts

end Line

/-! ## Texts on one line -/

/-- No word goes over a line end. -/
theorem newline_not_mem_of_isIdentifier {name : List Char} (h : isIdentifier name = true) :
    '\n' ∉ name :=
  not_mem_run (isWord_of_isIdentifier h) (by decide)

/-- A character of an escape is no line feed. -/
theorem Text.Quoted.newline_not_mem_escape (c : Char) : '\n' ∉ escape c := by
  have hhex : ∀ n < 16, hexDigit n ≠ '\n' := by decide
  unfold escape
  split
  · decide
  · split
    · decide
    · split
      · next hlow =>
        -- only a character from the space on stands for itself
        rintro h
        rw [← List.mem_singleton.mp h] at hlow
        exact absurd hlow (by decide)
      · next hlow =>
        have hhigh : c.toNat / 16 < 16 := by omega
        have hdigit : c.toNat % 16 < 16 := Nat.mod_lt _ (by decide)
        have hfirst := (hhex _ hhigh).symm
        have hsecond := (hhex _ hdigit).symm
        repeat' split
        all_goals simp [hfirst, hsecond]

/-- **A quoted text is on one line**, whatever the text. -/
theorem Text.newline_not_mem_quoted (s : String) : '\n' ∉ (Text.quoted s).toList := by
  rw [Text.quoted, String.toList_ofList]
  have hencode : '\n' ∉ Text.Quoted.encode s.toList := by
    rw [Text.Quoted.encode, List.mem_flatMap]
    rintro ⟨c, _, hc⟩
    exact Text.Quoted.newline_not_mem_escape c hc
  simp [hencode]

/-- The text of a value is on one line. -/
theorem Value.newline_not_mem_render (v : Value) : '\n' ∉ v.render.toList := by
  cases v with
  | null => decide
  | bool b => cases b <;> decide
  | number n =>
    intro h
    exact absurd (isNumberChar_of_mem_renderNumber h) (by decide)
  | text s => exact Text.newline_not_mem_quoted s

/-- What is joined with a separator has characters of the separator and of the parts. -/
theorem mem_intercalate {α : Type} {separator : List α} {parts : List (List α)} {x : α}
    (h : x ∈ separator.intercalate parts) : x ∈ separator ∨ ∃ part ∈ parts, x ∈ part := by
  induction parts with
  | nil => cases h
  | cons part more ih =>
    cases more with
    | nil => exact .inr ⟨part, List.mem_cons_self, by simpa using h⟩
    | cons next more =>
      rw [List.intercalate_cons_cons, List.mem_append, List.mem_append] at h
      rcases h with (h | h) | h
      · exact .inr ⟨part, List.mem_cons_self, h⟩
      · exact .inl h
      · rcases ih h with h | ⟨later, hlater, h⟩
        · exact .inl h
        · exact .inr ⟨later, List.mem_cons_of_mem part hlater, h⟩

/-- A call with values by keyword is on one line if its names are. -/
theorem Signature.newline_not_mem_renderKeywords {operation : String} {parameters : List String}
    (hoperation : '\n' ∉ operation.toList) (hparameters : ∀ p ∈ parameters, '\n' ∉ p.toList)
    (values : List Value) :
    '\n' ∉ (renderKeywords operation parameters values).toList := by
  have hpart : ∀ part ∈ (List.zipWith (fun parameter value => parameter ++ "=" ++ value.render)
      parameters values).map String.toList, '\n' ∉ part := by
    intro part hpart
    rw [List.map_zipWith, List.mem_iff_getElem] at hpart
    obtain ⟨i, hi, rfl⟩ := hpart
    rw [List.length_zipWith] at hi
    rw [List.getElem_zipWith, String.toList_append, String.toList_append, List.mem_append,
      List.mem_append]
    rintro ((h | h) | h)
    · exact hparameters _ (List.getElem_mem (by omega)) h
    · exact absurd h (by decide)
    · exact Value.newline_not_mem_render _ h
  rw [renderKeywords]
  simp only [String.toList_append, String.toList_intercalate, List.mem_append, not_or]
  refine ⟨⟨⟨hoperation, by decide⟩, ?_⟩, by decide⟩
  intro h
  rcases mem_intercalate h with h | ⟨part, hmem, h⟩
  · exact absurd h (by decide)
  · exact hpart part hmem h

/-- A remark followed by text of the line is on one line. -/
theorem newline_not_mem_remark {remark : String} {cs : List Char} (hremark : '\n' ∉ remark.toList)
    (hcs : '\n' ∉ cs) : '\n' ∉ (remark ++ String.ofList cs).toList := by
  rw [String.toList_append, String.toList_ofList, List.mem_append, not_or]
  exact ⟨hremark, hcs⟩

theorem newline_not_mem_trim {cs : List Char} (h : '\n' ∉ cs) : '\n' ∉ Text.trim cs :=
  fun hmem => h ((Text.trim_sublist cs).mem hmem)

namespace Line

section

variable {catalog : Catalog}
  (hparameters : ∀ name s, catalog.get? name = some s → ∀ p ∈ s.parameters, '\n' ∉ p.name.toList)
include hparameters

/-- What the code of a line is normalized to is on one line, be it a call or a problem. -/
theorem newline_not_mem_render_ofCode {written : List Char} (hwritten : '\n' ∉ written)
    (number : Nat) (code : List Char) :
    '\n' ∉ (ofCode catalog number (String.ofList written) code).render.toList := by
  unfold ofCode
  split
  · rw [render, String.toList_append, List.mem_append, not_or]
    exact ⟨by decide, newline_not_mem_remark (by decide) hwritten⟩
  · next parts hparts =>
    have hhead := newline_not_mem_of_isIdentifier (CallLine.isIdentifier_head hparts)
    dsimp only
    split
    · rw [render, String.toList_append, List.mem_append, not_or]
      exact ⟨by decide, newline_not_mem_remark (by decide) hhead⟩
    · next s hs =>
      refine Signature.newline_not_mem_renderKeywords (by rwa [String.toList_ofList]) ?_ _
      intro p hp
      obtain ⟨parameter, hparameter, rfl⟩ := List.mem_map.mp hp
      exact hparameters _ _ hs parameter hparameter

/-- **The normalized form of a line is on one line**, when the line is and the names of
the parameters are. -/
theorem newline_not_mem_render {raw : List Char} (hraw : '\n' ∉ raw) (number : Nat) :
    '\n' ∉ (Line.read catalog number raw).render.toList := by
  unfold Line.read
  dsimp only
  split
  · split
    · decide
    · next comment hcomment =>
      refine newline_not_mem_remark (by decide) (newline_not_mem_trim ?_)
      exact fun h => hraw (CommentSplit.mem_of_mem_comment hcomment h)
  · exact newline_not_mem_render_ofCode hparameters (newline_not_mem_trim hraw) number _

end

end Line

end CityScript
