/-
Which marks of a line are quoted.

Two scanners look at the quotes of a call line. The one that finds the comment begins with
the line, the one that cuts the arguments begins behind the first parenthesis. They agree
all the same: what is in front of that parenthesis is a target, a head and blanks, without
any quote, so the first scanner comes to the parenthesis outside quotes, which is how the
second one begins. From there they go on together, one character at a time.

The code in front of a comment has no mark outside quotes, else the comment would begin
there. By what was said, the scanner of the arguments sees every mark of theirs in quotes
too, and since it cuts outside quotes only, each argument can be looked at by itself.
-/
import CityScript.Proofs.LineReading
import CityScript.Proofs.TopLevelCommas

set_option autoImplicit false

namespace CityScript

/-! ## Quoted marks -/

/-- Every mark of a comment in a text is quoted: the text before it leaves a quote open. A
quote may be open already. -/
def MarksQuotedFrom (opened : Option Char) (cs : List Char) : Prop :=
  ∀ before after, cs = before ++ '#' :: after → quoteScan opened before ≠ none

/-- Every mark of a comment in a text is quoted. -/
abbrev MarksQuoted (cs : List Char) : Prop := MarksQuotedFrom none cs

section

variable {opened : Option Char} {cs ds : List Char}

theorem marksQuotedFrom_nil : MarksQuotedFrom opened [] := by
  intro before after h
  cases before <;> cases h

theorem marksQuotedFrom_cons {c : Char} :
    MarksQuotedFrom opened (c :: cs) ↔
      ¬ (opened = none ∧ c = '#') ∧ MarksQuotedFrom (quoteStep opened c) cs := by
  constructor
  · intro h
    refine ⟨?_, ?_⟩
    · rintro ⟨hopened, rfl⟩
      exact h [] cs rfl hopened
    · rintro before after rfl
      exact h (c :: before) after rfl
  · rintro ⟨hfirst, hrest⟩ before after h
    cases before with
    | nil =>
      obtain ⟨rfl, -⟩ := List.cons.inj h
      exact fun hopened => hfirst ⟨hopened, rfl⟩
    | cons d before =>
      obtain ⟨rfl, htail⟩ := List.cons.inj h
      exact hrest before after htail

instance decidableMarksQuotedFrom :
    (opened : Option Char) → (cs : List Char) → Decidable (MarksQuotedFrom opened cs)
  | _, [] => .isTrue marksQuotedFrom_nil
  | opened, c :: cs =>
    have := decidableMarksQuotedFrom (quoteStep opened c) cs
    decidable_of_iff _ marksQuotedFrom_cons.symm

/-- The marks of two texts are quoted one after the other if those of the first are, and those
of the second with the quote that the first leaves open. -/
theorem marksQuotedFrom_append :
    MarksQuotedFrom opened (cs ++ ds) ↔
      MarksQuotedFrom opened cs ∧ MarksQuotedFrom (quoteScan opened cs) ds := by
  induction cs generalizing opened with
  | nil => simp [marksQuotedFrom_nil]
  | cons c cs ih =>
    rw [List.cons_append, marksQuotedFrom_cons, marksQuotedFrom_cons, ih, quoteScan_cons, and_assoc]

theorem quoteScan_of_forall (h : ∀ c ∈ cs, isQuote c = false) : quoteScan none cs = none := by
  induction cs with
  | nil => rfl
  | cons c cs ih =>
    rw [quoteScan_cons, quoteStep, h c List.mem_cons_self]
    exact ih fun d hd => h d (List.mem_cons_of_mem c hd)

end

/-! ## Code and comment -/

namespace CommentSplit

/-- Puts a text in front of the code. -/
def prepend (cs : List Char) (s : CommentSplit) : CommentSplit := ⟨cs ++ s.code, s.comment⟩

/-- **A text with quoted marks only is code**, and what comes after it is split with the quote
that it leaves open. -/
theorem scan_append {opened : Option Char} {cs : List Char} (h : MarksQuotedFrom opened cs)
    (rest : List Char) :
    scan opened (cs ++ rest) = (scan (quoteScan opened cs) rest).prepend cs := by
  induction cs generalizing opened with
  | nil => rfl
  | cons c cs ih =>
    obtain ⟨hfirst, hrest⟩ := marksQuotedFrom_cons.mp h
    rw [List.cons_append, scan_cons, if_neg hfirst, ih hrest]
    rfl

theorem scan_of_marksQuotedFrom {opened : Option Char} {cs : List Char}
    (h : MarksQuotedFrom opened cs) : scan opened cs = ⟨cs, none⟩ := by
  have hscan := scan_append h []
  rwa [List.append_nil, scan_nil, prepend, List.append_nil] at hscan

/-- **The code of a line has quoted marks only**, and a comment begins outside quotes. -/
theorem marksQuotedFrom_code (opened : Option Char) (cs : List Char) :
    MarksQuotedFrom opened (scan opened cs).code ∧
      ((scan opened cs).comment.isSome = true → quoteScan opened (scan opened cs).code = none) := by
  induction cs generalizing opened with
  | nil => exact ⟨marksQuotedFrom_nil, fun h => by cases h⟩
  | cons c cs ih =>
    rw [scan_cons]
    split
    · next hmark => exact ⟨marksQuotedFrom_nil, fun _ => hmark.1⟩
    · next hmark =>
      obtain ⟨hcode, hcomment⟩ := ih (quoteStep opened c)
      exact ⟨marksQuotedFrom_cons.mpr ⟨hmark, hcode⟩, hcomment⟩

variable {line : List Char}

theorem marksQuoted_code (line : List Char) : MarksQuoted (of line).code :=
  (marksQuotedFrom_code none line).1

/-- **Where a comment begins**: at a mark, if the text in front of it has quoted marks only and
leaves no quote open. -/
theorem of_eq_some_iff {code comment : List Char} :
    of line = ⟨code, some comment⟩ ↔
      line = code ++ '#' :: comment ∧ quoteScan none code = none ∧ MarksQuoted code := by
  constructor
  · intro h
    have htext := text_scan none line
    obtain ⟨hquoted, houtside⟩ := marksQuotedFrom_code none line
    rw [← of, h] at htext hquoted houtside
    exact ⟨htext.symm, houtside rfl, hquoted⟩
  · rintro ⟨rfl, houtside, hquoted⟩
    rw [of, scan_append hquoted, houtside, scan_cons, if_pos ⟨rfl, rfl⟩, prepend, List.append_nil]

theorem code_eq_of_comment_eq_none (h : (of line).comment = none) : (of line).code = line := by
  have htext := text_scan none line
  rwa [← of, text, h] at htext

/-- **Taking the comment away is done once.** -/
theorem of_code (line : List Char) : of (of line).code = ⟨(of line).code, none⟩ :=
  scan_of_marksQuotedFrom (marksQuoted_code line)

end CommentSplit

/-! ## Arguments -/

namespace Text

/-- Trimming takes blanks away at both ends. -/
theorem exists_gaps (cs : List Char) :
    ∃ front back, (∀ c ∈ front, isBlank c = true) ∧ (∀ c ∈ back, isBlank c = true) ∧
      cs = front ++ (trim cs ++ back) := by
  obtain ⟨front, hfront, hcs⟩ := exists_gap cs
  obtain ⟨back, hback, hrest⟩ := exists_gap (trimStart cs).reverse
  refine ⟨front, back.reverse, hfront, by simpa using hback, ?_⟩
  have htrim : trimStart cs = trim cs ++ back.reverse := by
    rw [← List.reverse_inj, hrest, trim, trimEnd, List.reverse_append, List.reverse_reverse,
      List.reverse_reverse, trimStart]
  rw [← htrim]
  exact hcs

end Text

theorem quoteScan_of_forall_isBlank {gap : List Char} (h : ∀ c ∈ gap, Text.isBlank c = true) :
    quoteScan none gap = none :=
  quoteScan_of_forall fun c hc => isQuote_eq_false_of_isBlank (h c hc)

theorem MarksQuotedFrom.trim {cs : List Char} (h : MarksQuoted cs) : MarksQuoted (Text.trim cs) := by
  obtain ⟨front, back, hfront, -, hcs⟩ := Text.exists_gaps cs
  rw [hcs, MarksQuoted, marksQuotedFrom_append, quoteScan_of_forall_isBlank hfront,
    marksQuotedFrom_append] at h
  exact h.2.1

namespace ArgumentScan

theorem opened_run_start (cs : List Char) : (start.run cs).opened = quoteScan none cs := by
  rw [run_eq]
  rfl

/-- **Pieces have quoted marks only**, if all of the text has: the first one with the quote that
is open in front of it, and the others with none, since a scan cuts outside quotes. -/
theorem marksQuoted_pieces {s : ArgumentScan} {cs : List Char} (h : MarksQuotedFrom s.opened cs) :
    ∃ first more, s.pieces cs = first :: more ∧ MarksQuotedFrom s.opened first ∧
      ∀ piece ∈ more, MarksQuoted piece := by
  induction cs generalizing s with
  | nil => exact ⟨[], [], rfl, marksQuotedFrom_nil, by simp⟩
  | cons c cs ih =>
    obtain ⟨hc, hrest⟩ := marksQuotedFrom_cons.mp h
    obtain ⟨first, more, hpieces, hfirst, hmore⟩ := ih (s := s.step c) hrest
    rw [pieces, hpieces]
    by_cases hcut : s.cuts c = true
    · rw [if_pos hcut]
      refine ⟨[], first :: more, rfl, marksQuotedFrom_nil, ?_⟩
      -- the comma stands outside quotes and opens none
      have hopened : (s.step c).opened = none := by
        rw [cuts, Bool.and_eq_true, Bool.and_eq_true, beq_iff_eq, Option.isNone_iff_eq_none] at hcut
        obtain ⟨⟨rfl, hnone⟩, -⟩ := hcut
        rw [step, hnone]
        rfl
      rw [hopened] at hfirst
      intro piece hpiece
      rcases List.mem_cons.mp hpiece with rfl | hpiece
      · exact hfirst
      · exact hmore piece hpiece
    · rw [if_neg hcut]
      exact ⟨c :: first, more, rfl, marksQuotedFrom_cons.mpr ⟨hc, hfirst⟩, hmore⟩

end ArgumentScan

/-- **Arguments have quoted marks only** if their text has. -/
theorem marksQuoted_of_mem_splitArguments {cs : List Char} (h : MarksQuoted cs) {token : List Char}
    (htoken : token ∈ splitArguments cs) : MarksQuoted token := by
  obtain ⟨first, more, hpieces, hfirst, hmore⟩ :=
    ArgumentScan.marksQuoted_pieces (s := .start) h
  have hmem : token ∈ (ArgumentScan.start.pieces cs).map Text.trim := by
    rw [splitArguments, dropLastIf] at htoken
    split at htoken
    · exact List.dropLast_subset _ htoken
    · exact htoken
  obtain ⟨piece, hpiece, rfl⟩ := List.mem_map.mp hmem
  rw [hpieces] at hpiece
  rcases List.mem_cons.mp hpiece with rfl | hpiece
  · exact MarksQuotedFrom.trim hfirst
  · exact MarksQuotedFrom.trim (hmore piece hpiece)

/-! ## Call lines -/

theorem CallForm.isQuote_eq_false_of_isFront {c : Char} (h : isFront c = true) :
    isQuote c = false := by
  rw [Bool.eq_false_iff]
  intro hquote
  rcases isQuote_iff.mp hquote with rfl | rfl
  · exact absurd h (by decide)
  · exact absurd h (by decide)

namespace CommentSplit

variable {line : List Char} {call : CallLine}

/-- **The arguments in their line**: they stand in the code, and the text up to the parenthesis
in front of them has neither a parenthesis nor a quote. -/
theorem exists_front_of_read? (h : CallLine.read? (Text.trim (of line).code) = some call) :
    ∃ before behind, (of line).code = before ++ '(' :: (call.body ++ ')' :: behind) ∧
      '(' ∉ before ∧ quoteScan none (before ++ ['(']) = none := by
  obtain ⟨f, hf⟩ := CallLine.exists_form_of_read? h
  rw [← hf, f.read?_text] at h
  cases h
  obtain ⟨front, back, hfront, -, hcode⟩ := Text.exists_gaps (of line).code
  obtain ⟨before, behind, htext, hbefore, -⟩ := f.exists_front
  have hall : ∀ c ∈ front ++ before, CallForm.isFront c = true := fun c hc =>
    (List.mem_append.mp hc).elim (CallForm.isFront_gap hfront c) (hbefore c)
  refine ⟨front ++ before, behind ++ back, ?_, not_mem_run hall (by decide), ?_⟩
  · rw [hcode, ← hf, htext]
    simp
  · have hquote : ∀ c ∈ front ++ before, isQuote c = false := fun c hc =>
      CallForm.isQuote_eq_false_of_isFront (hall c hc)
    rw [quoteScan_append, quoteScan_of_forall hquote]
    rfl

/-- **The marks of the arguments are quoted**, seen from behind the parenthesis. -/
theorem marksQuoted_body (h : CallLine.read? (Text.trim (of line).code) = some call) :
    MarksQuoted call.body := by
  obtain ⟨before, behind, hcode, -, houtside⟩ := exists_front_of_read? h
  have hquoted := marksQuoted_code line
  have hsplit : (of line).code = (before ++ ['(']) ++ (call.body ++ ')' :: behind) := by
    rw [hcode, List.append_assoc]
    rfl
  -- outside quotes the marks behind the parenthesis are seen as in a text of their own
  rw [hsplit] at hquoted
  have hrest := (marksQuotedFrom_append.mp hquoted).2
  rw [houtside] at hrest
  exact (marksQuotedFrom_append.mp hrest).1

/-- **The scanners agree on what is quoted.** A comment begins at the first mark outside
quotes: the text before it leaves no quote open and has quoted marks only. The code is that
text, or all of the line, and has no comment of its own. When the code is read as a call, the
arguments stand in it, behind its first parenthesis, and the scanner that begins there has the
same quote open everywhere as the one that began with the line. So it sees every mark of the
arguments in quotes, and every argument by itself has quoted marks only. -/
theorem of_agrees_with_arguments (line : List Char) :
    (∀ k, (of line).startByte? = some k ↔
      ∃ code comment, line = code ++ '#' :: comment ∧ (String.ofList code).utf8ByteSize = k ∧
        quoteScan none code = none ∧ MarksQuoted code) ∧
    (∀ code comment, line = code ++ '#' :: comment → quoteScan none code = none →
      MarksQuoted code → (of line).code = code) ∧
    ((of line).startByte? = none → (of line).code = line) ∧
    (of (of line).code).code = (of line).code ∧
    ∀ call, CallLine.read? (Text.trim (of line).code) = some call →
      (∃ before behind, (of line).code = before ++ '(' :: (call.body ++ ')' :: behind) ∧
        (of line).text = line ∧ '(' ∉ before ∧
        ∀ first rest, call.body = first ++ rest →
          (ArgumentScan.start.run first).opened = quoteScan none (before ++ '(' :: first)) ∧
      (∀ first rest, call.body = first ++ '#' :: rest →
        (ArgumentScan.start.run first).opened ≠ none) ∧
      ∀ token ∈ splitArguments call.body, MarksQuoted token := by
  refine ⟨?_, ?_, ?_, ?_, ?_⟩
  · intro k
    rw [startByte?, Option.map_eq_some_iff]
    constructor
    · rintro ⟨comment, hcomment, hk⟩
      obtain ⟨hline, houtside, hquoted⟩ := of_eq_some_iff.mp (show of line = ⟨_, some comment⟩ by
        rw [← hcomment])
      exact ⟨_, comment, hline, hk, houtside, hquoted⟩
    · rintro ⟨code, comment, hline, hk, houtside, hquoted⟩
      have hof := of_eq_some_iff.mpr ⟨hline, houtside, hquoted⟩
      exact ⟨comment, by rw [hof], by rw [hof]; exact hk⟩
  · intro code comment hline houtside hquoted
    rw [of_eq_some_iff.mpr ⟨hline, houtside, hquoted⟩]
  · intro hnone
    exact code_eq_of_comment_eq_none (Option.map_eq_none_iff.mp hnone)
  · rw [of_code]
  · intro call hcall
    have hquoted := marksQuoted_body hcall
    refine ⟨?_, ?_, fun token => marksQuoted_of_mem_splitArguments hquoted⟩
    · obtain ⟨before, behind, hcode, hparenthesis, houtside⟩ := exists_front_of_read? hcall
      refine ⟨before, behind, hcode, text_scan none line, hparenthesis, ?_⟩
      intro first _ _
      have hsplit : before ++ '(' :: first = (before ++ ['(']) ++ first := by simp
      rw [ArgumentScan.opened_run_start, hsplit, quoteScan_append, houtside]
    · intro first rest hbody
      rw [ArgumentScan.opened_run_start]
      exact hquoted first rest hbody

/-- A mark and a comma in quotes, and a comment with a quote of its own. -/
theorem of_agrees_with_arguments_park :
    let line := "build_park(name='#1, Main', 2) # it's old".toList
    let code := "build_park(name='#1, Main', 2) ".toList
    let body := "name='#1, Main', 2".toList
    line = code ++ '#' :: " it's old".toList ∧ quoteScan none code = none ∧ MarksQuoted code ∧
    (of line).code = code ∧
    CallLine.read? (Text.trim (of line).code) = some ⟨"build_park".toList, body⟩ ∧
    (∀ token ∈ splitArguments body, MarksQuoted token) := by
  intro line code body
  have hline : line = code ++ '#' :: " it's old".toList := by decide +kernel
  have houtside : quoteScan none code = none := by decide +kernel
  have hquoted : MarksQuoted code := by decide +kernel
  have hread : CallLine.read? (Text.trim (of line).code) = some ⟨"build_park".toList, body⟩ := by
    decide +kernel
  obtain ⟨-, hcode, -, -, hcall⟩ := of_agrees_with_arguments line
  exact ⟨hline, houtside, hquoted, hcode _ _ hline houtside hquoted, hread, (hcall _ hread).2.2⟩

end CommentSplit

end CityScript
