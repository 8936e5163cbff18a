/-
Calls put together from the texts of their arguments.

Three scanners read a call line one after the other: the one that finds the comment,
the one that finds the parentheses, and the one that cuts at the commas. A text is a
token if the last of them comes through it in the state in which it went in, with
nothing in it that any of the three would stop at. What is between quotes never stops a
scanner, and outside quotes a few characters do. So a line that is put together from a
head and tokens is read as that head and those tokens, whatever comment comes after it.
-/
import CityScript.Proofs.QuotedMarks

set_option autoImplicit false

namespace CityScript

/-! ## Code before a comment -/

namespace CommentSplit

/-- A text that is code wherever a line begins with it, and that leaves no quote open. -/
def IsCode (cs : List Char) : Prop := ∀ rest, of (cs ++ rest) = (of rest).prepend cs

theorem IsCode.append {cs ds : List Char} (hcs : IsCode cs) (hds : IsCode ds) :
    IsCode (cs ++ ds) := by
  intro rest
  rw [List.append_assoc, hcs, hds, prepend, prepend, prepend, List.append_assoc]

/-- The characters that neither open a quote nor begin a comment. -/
def isInert (c : Char) : Bool := !isQuote c && c != '#'

/-- Without quotes and marks a text is code. -/
theorem isCode_of_forall {cs : List Char} (h : ∀ c ∈ cs, isInert c = true) : IsCode cs := by
  have hinert : ∀ c ∈ cs, isQuote c = false ∧ c ≠ '#' := by
    intro c hc
    simpa [isInert] using h c hc
  have hquoted : MarksQuoted cs := by
    rintro before after rfl
    exact absurd rfl (hinert '#' (List.mem_append_right before List.mem_cons_self)).2
  intro rest
  rw [of, scan_append hquoted, quoteScan_of_forall fun c hc => (hinert c hc).1, of]

/-- Code and a comment after it are taken apart again. -/
theorem of_text {code : List Char} (h : IsCode code) (comment : Option (List Char)) :
    of (text ⟨code, comment⟩) = ⟨code, comment⟩ := by
  cases comment with
  | none =>
    have hcode := h []
    rw [List.append_nil] at hcode
    rw [text, hcode, prepend, of, scan_nil, List.append_nil]
  | some comment =>
    have hmark : of ('#' :: comment) = ⟨[], some comment⟩ := by
      rw [of, scan_cons, if_pos ⟨rfl, rfl⟩]
    rw [text, h, hmark, prepend, List.append_nil]

end CommentSplit

/-! ## Passing through a text -/

namespace ArgumentScan

/-- Whether a scan over arguments passes a character: it is no line feed, and it neither
ends an argument nor begins a comment. -/
def passesChar (s : ArgumentScan) (c : Char) : Bool :=
  !s.cuts c && !(s.opened.isNone && c == '#') && c != '\n'

/-- Whether a scan over arguments passes all characters of a text. -/
def passes (s : ArgumentScan) : List Char → Bool
  | [] => true
  | c :: rest => s.passesChar c && (s.step c).passes rest

/-- A scan passes a text and is then in a given state. -/
structure Passes (s : ArgumentScan) (cs : List Char) (t : ArgumentScan) : Prop where
  passes_eq : s.passes cs = true
  run_eq : s.run cs = t

namespace Passes

variable {s t u : ArgumentScan} {cs ds : List Char} {c : Char}

theorem nil (s : ArgumentScan) : Passes s [] s := ⟨rfl, rfl⟩

theorem cons (hc : s.passesChar c = true) (h : Passes (s.step c) cs t) : Passes s (c :: cs) t :=
  ⟨by rw [passes, hc, h.passes_eq]; rfl, h.run_eq⟩

theorem of_cons (h : Passes s (c :: cs) t) :
    s.passesChar c = true ∧ Passes (s.step c) cs t := by
  have hpasses := h.passes_eq
  rw [passes, Bool.and_eq_true] at hpasses
  exact ⟨hpasses.1, hpasses.2, h.run_eq⟩

theorem append (hcs : Passes s cs t) (hds : Passes t ds u) : Passes s (cs ++ ds) u := by
  induction cs generalizing s with
  | nil =>
    obtain rfl : s = t := hcs.run_eq
    exact hds
  | cons c cs ih =>
    obtain ⟨hc, hrest⟩ := hcs.of_cons
    exact cons hc (ih hrest)

/-- Nothing is cut in a text that is passed. -/
theorem cutPlaces_eq_nil (h : Passes s cs t) : s.cutPlaces cs = [] := by
  induction cs generalizing s with
  | nil => rfl
  | cons c cs ih =>
    obtain ⟨hc, hrest⟩ := h.of_cons
    -- a character that is passed is no separating comma
    have hcut : ¬ s.cuts c = true := by
      intro hcut
      rw [passesChar, hcut] at hc
      cases hc
    rw [cutPlaces_cons, if_neg hcut, ih hrest]
    rfl

/-- In a text that is passed all marks are quoted. -/
theorem marksQuotedFrom (h : Passes s cs t) : MarksQuotedFrom s.opened cs := by
  induction cs generalizing s with
  | nil => exact marksQuotedFrom_nil
  | cons c cs ih =>
    obtain ⟨hc, hrest⟩ := h.of_cons
    refine marksQuotedFrom_cons.mpr ⟨?_, ih hrest⟩
    rintro ⟨hopened, rfl⟩
    rw [passesChar, hopened] at hc
    simp at hc

/-- A text that is passed is code, with the quotes that are open around it. -/
theorem scan_append (h : Passes s cs t) (rest : List Char) :
    CommentSplit.scan s.opened (cs ++ rest) =
      (CommentSplit.scan t.opened rest).prepend cs := by
  have hopened : t.opened = quoteScan s.opened cs := by
    rw [← h.run_eq, ArgumentScan.run_eq]
  rw [hopened]
  exact CommentSplit.scan_append h.marksQuotedFrom rest

/-- No line ends in a text that is passed. -/
theorem newline_not_mem (h : Passes s cs t) : '\n' ∉ cs := by
  induction cs generalizing s with
  | nil => simp
  | cons c cs ih =>
    obtain ⟨hc, hrest⟩ := h.of_cons
    have hne : c ≠ '\n' := by
      rintro rfl
      simp [passesChar] at hc
    rw [List.mem_cons, not_or]
    exact ⟨hne.symm, ih hrest⟩

end Passes

/-! ### What is passed -/

/-- The characters that mean something to a scanner outside quotes. -/
def marks : List Char := ['\x27', '"', '(', ')', '[', ']', ',', '#', '\n']

/-- The characters that mean nothing to a scanner outside quotes. -/
def isPlain (c : Char) : Bool := !marks.contains c

theorem not_mem_marks {c : Char} (h : isPlain c = true) : c ∉ marks := by
  rw [isPlain, Bool.not_eq_true', List.contains_eq_mem, decide_eq_false_iff_not] at h
  exact h

theorem isQuote_of_isPlain {c : Char} (h : isPlain c = true) : isQuote c = false := by
  rw [Bool.eq_false_iff]
  intro hquote
  rcases isQuote_iff.mp hquote with rfl | rfl
  · exact absurd h (by decide)
  · exact absurd h (by decide)

/-- The characters of a word mean nothing to a scanner. -/
theorem isPlain_of_isWord {c : Char} (h : Text.isWord c = true) : isPlain c = true := by
  have hmarks : marks.all (fun d => !Text.isWord d) = true := by decide
  rw [isPlain, Bool.not_eq_true', List.contains_eq_mem, decide_eq_false_iff_not]
  intro hmem
  have hc := List.all_eq_true.mp hmarks c hmem
  rw [h] at hc
  cases hc

/-- A plain character leaves the state as it is. -/
theorem step_of_isPlain {c : Char} (h : isPlain c = true) (depth : Int) :
    step ⟨none, depth⟩ c = ⟨none, depth⟩ := by
  have hmarks := not_mem_marks h
  simp only [marks, List.mem_cons, List.not_mem_nil, or_false, not_or] at hmarks
  obtain ⟨-, -, hopen, hclose, hopen', hclose', -⟩ := hmarks
  have hdepth : depthChange c = 0 := by
    rw [depthChange, if_neg (by simp [hopen, hopen']), if_neg (by simp [hclose, hclose'])]
  have hopened : quoteStep none c = none := by rw [quoteStep, isQuote_of_isPlain h]; rfl
  rw [step, if_pos rfl, hopened, hdepth, Int.add_zero]

/-- **Plain text is passed.** -/
theorem passes_of_forall_isPlain {cs : List Char} (h : ∀ c ∈ cs, isPlain c = true)
    (depth : Int) : Passes ⟨none, depth⟩ cs ⟨none, depth⟩ := by
  induction cs with
  | nil => exact Passes.nil _
  | cons c cs ih =>
    have hc := h c List.mem_cons_self
    refine Passes.cons ?_ ?_
    · have hmarks := not_mem_marks hc
      simp only [marks, List.mem_cons, List.not_mem_nil, or_false, not_or] at hmarks
      simp [passesChar, cuts, hmarks]
    · rw [step_of_isPlain hc]
      exact ih fun d hd => h d (List.mem_cons_of_mem c hd)

/-- Inside quotes everything is passed but the closing quote. -/
theorem passes_inside {q : Char} {text : List Char} (hclosed : q ∉ text) (hline : '\n' ∉ text)
    (depth : Int) : Passes ⟨some q, depth⟩ text ⟨some q, depth⟩ := by
  induction text with
  | nil => exact Passes.nil _
  | cons c text ih =>
    rw [List.mem_cons, not_or] at hclosed hline
    have hstep : step ⟨some q, depth⟩ c = ⟨some q, depth⟩ := by
      rw [step, quoteStep, if_neg (Ne.symm hclosed.1), if_neg (by simp)]
    refine Passes.cons ?_ ?_
    · simp [passesChar, cuts, Ne.symm hline.1]
    · rw [hstep]
      exact ih hclosed.2 hline.2

/-- **Quoted text is passed**, whatever is between the quotes. -/
theorem passes_quoted {q : Char} {text : List Char} (hq : isQuote q = true) (hclosed : q ∉ text)
    (hline : '\n' ∉ text) (depth : Int) :
    Passes ⟨none, depth⟩ (q :: (text ++ [q])) ⟨none, depth⟩ := by
  have hends : ∀ c, isQuote c = true → passesChar ⟨none, depth⟩ c = true ∧
      passesChar ⟨some c, depth⟩ c = true ∧ depthChange c = 0 := by
    intro c hc
    rcases isQuote_iff.mp hc with rfl | rfl <;> simp [passesChar, cuts, depthChange]
  obtain ⟨hfirst, hlast, hdepth⟩ := hends q hq
  have hopen : step ⟨none, depth⟩ q = ⟨some q, depth⟩ := by
    rw [step, quoteStep, hq, if_pos rfl, if_pos rfl, hdepth, Int.add_zero]
  have hclose : step ⟨some q, depth⟩ q = ⟨none, depth⟩ := by
    rw [step, quoteStep, if_pos rfl, if_neg (by simp)]
  -- the first quote opens a run, and only the same character would close it before its end
  refine Passes.cons hfirst ?_
  rw [hopen]
  refine (passes_inside hclosed hline depth).append (Passes.cons hlast ?_)
  rw [hclose]
  exact Passes.nil _

end ArgumentScan

/-! ## Tokens -/

/-- A text that is one argument: it is passed from outside quotes and brackets back to
there, is not empty, and has no blanks at its ends. -/
structure IsToken (cs : List Char) : Prop where
  passes : ArgumentScan.Passes .start cs .start
  ne_nil : cs ≠ []
  first : ∀ c ∈ cs.head?, Text.isBlank c = false
  last : ∀ c ∈ cs.getLast?, Text.isBlank c = false

theorem IsToken.trim_eq {cs : List Char} (h : IsToken cs) : Text.trim cs = cs :=
  Text.trim_eq_self h.first h.last

theorem IsToken.isPiece {cs : List Char} (h : IsToken cs) : IsPiece cs where
  trim_eq := h.trim_eq
  endsTopLevel := (ArgumentScan.run_start_eq_start_iff cs).mp h.passes.run_eq
  topLevelCommas := by
    rw [← ArgumentScan.cutPlaces_start]
    exact h.passes.cutPlaces_eq_nil

/-- **A list of tokens is cut into these tokens**, since none of them is empty. -/
theorem splitArguments_joinTokens_of_isToken {tokens : List (List Char)}
    (h : ∀ t ∈ tokens, IsToken t) : splitArguments (joinTokens tokens) = tokens := by
  refine splitArguments_joinTokens (fun t ht => (h t ht).isPiece) ?_
  intro t ht
  exact (h t (List.mem_of_getLast? ht)).ne_nil

/-! ## Call lines -/

/-- A call as a script writes it: a target if there is one, the head, and the arguments
in parentheses. -/
def callText (target head : List Char) (tokens : List (List Char)) : List Char :=
  target ++ (head ++ '(' :: (joinTokens tokens ++ [')']))

namespace CommentSplit

theorem isCode_of_isIdentifier {name : List Char} (h : isIdentifier name = true) :
    IsCode name :=
  (ArgumentScan.passes_of_forall_isPlain
    (fun c hc => ArgumentScan.isPlain_of_isWord (isWord_of_isIdentifier h c hc)) 0).scan_append

theorem isCode_of_forall_isBlank {gap : List Char} (h : ∀ c ∈ gap, Text.isBlank c = true) :
    IsCode gap := by
  refine isCode_of_forall fun c hc => ?_
  have hmark : c ≠ '#' := by
    rintro rfl
    exact absurd (h _ hc) (by decide)
  rw [isInert, isQuote_eq_false_of_isBlank (h c hc)]
  simpa using hmark

theorem isCode_of_isTarget {target : List Char} (h : CallLine.IsTarget target) :
    IsCode target := by
  rcases h with rfl | ⟨name, before, after, hname, hbefore, hafter, rfl⟩
  · exact fun _ => rfl
  · have hsign : IsCode ['='] := isCode_of_forall (List.all_eq_true.mp (by decide))
    exact (isCode_of_isIdentifier hname).append
      ((isCode_of_forall_isBlank hbefore).append
        (hsign.append (isCode_of_forall_isBlank hafter)))

theorem isCode_joinTokens {tokens : List (List Char)} (h : ∀ t ∈ tokens, IsToken t) :
    IsCode (joinTokens tokens) := by
  induction tokens with
  | nil => exact fun _ => rfl
  | cons token tokens ih =>
    -- outside quotes a token is passed back to where it began, so what follows is read afresh
    have hfirst : IsCode token := (h token List.mem_cons_self).passes.scan_append
    have hcomma : IsCode [',', ' '] := isCode_of_forall (List.all_eq_true.mp (by decide))
    rw [joinTokens_cons]
    split
    · rwa [List.append_nil]
    · exact hfirst.append (hcomma.append (ih fun t ht => h t (List.mem_cons_of_mem token ht)))

end CommentSplit

theorem newline_not_mem_joinTokens {tokens : List (List Char)} (h : ∀ t ∈ tokens, IsToken t) :
    '\n' ∉ joinTokens tokens := by
  intro hmem
  rcases mem_intercalate hmem with hcomma | ⟨token, htoken, hmem⟩
  · exact absurd hcomma (by decide)
  · exact (h token htoken).passes.newline_not_mem hmem

section

variable {target head : List Char} {tokens : List (List Char)}

theorem isCode_callText (htarget : CallLine.IsTarget target) (hhead : isIdentifier head = true)
    (htokens : ∀ t ∈ tokens, IsToken t) : CommentSplit.IsCode (callText target head tokens) := by
  have hopen : CommentSplit.IsCode ['('] :=
    CommentSplit.isCode_of_forall (List.all_eq_true.mp (by decide))
  have hclose : CommentSplit.IsCode [')'] :=
    CommentSplit.isCode_of_forall (List.all_eq_true.mp (by decide))
  exact (CommentSplit.isCode_of_isTarget htarget).append
    ((CommentSplit.isCode_of_isIdentifier hhead).append
      (hopen.append ((CommentSplit.isCode_joinTokens htokens).append hclose)))

/-- A call has no blanks at its ends. -/
theorem trim_callText (htarget : CallLine.IsTarget target) (hhead : isIdentifier head = true) :
    Text.trim (callText target head tokens) = callText target head tokens := by
  refine Text.trim_eq_self ?_ ?_
  · rcases htarget with rfl | ⟨name, before, after, hname, -, -, rfl⟩
    · exact isBlank_head?_identifier hhead _
    · rw [callText, List.append_assoc]
      exact isBlank_head?_identifier hname _
  · have hlast : (callText target head tokens).getLast? = some ')' := by
      rw [callText, ← List.cons_append, ← List.append_assoc, ← List.append_assoc]
      exact List.getLast?_concat
    rw [hlast]
    intro c hc
    obtain rfl : ')' = c := by simpa using hc
    decide

/-- **A line that is put together from a head and tokens** is the call of that head with
those arguments, whatever its comment. -/
theorem Line.read_callText {catalog : Catalog} {s : Signature}
    (hs : catalog.get? (String.ofList head) = some s) (htarget : CallLine.IsTarget target)
    (hhead : isIdentifier head = true) (htokens : ∀ t ∈ tokens, IsToken t) (number : Nat)
    (comment : Option (List Char)) :
    Line.read catalog number (CommentSplit.text ⟨callText target head tokens, comment⟩) =
      .call s ⟨String.ofList head, (Arguments.ofList (tokens.map Given.read)).resolve s,
        String.ofList (Text.trim (CommentSplit.text ⟨callText target head tokens, comment⟩)),
        number⟩ := by
  have hsplit := CommentSplit.of_text (isCode_callText htarget hhead htokens) comment
  have hne : ¬ callText target head tokens = [] := by
    cases head with
    | nil => cases hhead
    | cons c head => simp [callText]
  have hcall : CallLine.read? (callText target head tokens) = some ⟨head, joinTokens tokens⟩ :=
    @CallLine.read?_append target head [] (joinTokens tokens) [] htarget hhead (by simp)
      (newline_not_mem_joinTokens htokens) (by simp)
  -- the comment goes first, then the parts of the call are found, then the arguments cut
  rw [Line.read, hsplit, trim_callText htarget hhead, if_neg hne, Line.ofCode, hcall]
  dsimp only
  rw [hs, Arguments.read, splitArguments_joinTokens_of_isToken htokens]

end

end CityScript
