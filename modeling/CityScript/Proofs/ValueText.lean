/-
Texts that spell a value.

An argument is looked at three times: by the scanner that cuts at the commas, by the one
that looks for a name and an equals sign, and by the reader of values. A text spells a
value if all three take it whole: the first as one token, the second as no name, the
third as the value. Quoted texts do, since a quote in front hides every equals sign from
the second, and so do the keywords and the numbers, which have no equals sign at all. What
spells a value does so behind a name too.
-/
import CityScript.Proofs.CallText
import CityScript.Proofs.IntegerText
import CityScript.Proofs.NamedArguments

set_option autoImplicit false

namespace CityScript

/-! ## Arguments without a name -/

/-- Without an equals sign there is no name. -/
theorem keywordSplit?_of_not_mem {cs : List Char} (h : '=' ∉ cs) : keywordSplit? cs = none := by
  rw [← Option.not_isSome_iff_eq_none, ← hasName_iff]
  rintro ⟨_, text, key, rfl, -⟩
  exact h (List.mem_append_right key List.mem_cons_self)

/-- A text that begins with a quote has no name. -/
theorem keywordSplit?_of_isQuote {q : Char} (hq : isQuote q = true) (cs : List Char) :
    keywordSplit? (q :: cs) = none := by
  rw [← Option.not_isSome_iff_eq_none, ← hasName_iff]
  rintro ⟨_, text, key, hkey, -, hne, hquote, -⟩
  -- the quote would be the first character of the name
  obtain ⟨first, rest, rfl⟩ := List.exists_cons_of_ne_nil hne
  obtain rfl : q = first := (List.cons.inj hkey).1
  rw [hquote q List.mem_cons_self] at hq
  cases hq

/-- What is in front of the first equals sign is the name, if it is an identifier. -/
theorem keywordSplit?_append {name : List Char} (hname : isIdentifier name = true)
    (cs : List Char) : keywordSplit? (name ++ '=' :: cs) = some (name, cs) := by
  have hword := isWord_of_isIdentifier hname
  have hne : name ≠ [] := by
    rintro rfl
    cases hname
  have hquote : ∀ c ∈ name, isQuote c = false := fun c hc =>
    ArgumentScan.isQuote_of_isPlain (ArgumentScan.isPlain_of_isWord (hword c hc))
  have htrim : Text.trim name = name := by
    refine Text.trim_eq_self ?_ ?_
    · exact fun c hc => Text.isBlank_eq_false_of_isWord (hword c (List.mem_of_mem_head? hc))
    · exact fun c hc => Text.isBlank_eq_false_of_isWord (hword c (List.mem_of_mem_getLast? hc))
  -- the sign behind the name is the first one, since no word character is one
  exact keywordSplit?_eq_some_iff.mpr
    ⟨name, rfl, not_mem_run hword (by decide), hne, hquote, htrim⟩

/-! ## Keywords -/

/-- The words that are no numbers and stand for a value. -/
def Value.keywords : List String := ["None", "null", "True", "False"]

/-- What is no keyword is a quoted text, a number or a text without quotes. -/
theorem Value.ofTrimmed_of_not_keyword {cs : List Char}
    (h : ∀ word ∈ Value.keywords, cs ≠ word.toList) :
    Value.ofTrimmed cs =
      match Value.unquote? cs with
      | some inner => .text (String.ofList inner)
      | none =>
        match readNumber? cs with
        | some n => .number n
        | none => .text (String.ofList cs) := by
  obtain ⟨hnone, hnull, htrue, hfalse, -⟩ := by
    simpa only [Value.keywords, List.forall_mem_cons] using h
  unfold Value.ofTrimmed
  exact (if_neg (not_or.mpr ⟨hnone, hnull⟩)).trans ((if_neg htrue).trans (if_neg hfalse))

/-! ## Spellings -/

/-- A text that is one argument, has no name in it, and is read as a value. -/
structure Spells (cs : List Char) (v : Value) : Prop where
  isToken : IsToken cs
  keywordSplit?_eq : keywordSplit? cs = none
  ofTrimmed_eq : Value.ofTrimmed cs = v

namespace Spells

variable {cs name : List Char} {v : Value}

/-- A spelling by itself is a value by position. -/
theorem read_eq (h : Spells cs v) : Given.read cs = .positional v := by
  rw [Given.read, h.keywordSplit?_eq]
  dsimp only
  rw [Value.read, h.isToken.trim_eq, h.ofTrimmed_eq]

/-- A spelling behind a name and an equals sign is a value by that name. -/
theorem read_named (h : Spells cs v) (hname : isIdentifier name = true) :
    Given.read (name ++ '=' :: cs) = .named (String.ofList name) v := by
  rw [Given.read, keywordSplit?_append hname]
  dsimp only
  rw [Value.read, h.isToken.trim_eq, h.ofTrimmed_eq]

end Spells

/-- A token behind a name and an equals sign is a token. -/
theorem IsToken.named {cs name : List Char} (h : IsToken cs) (hname : isIdentifier name = true) :
    IsToken (name ++ '=' :: cs) := by
  have hplain : ∀ c ∈ name, ArgumentScan.isPlain c = true :=
    fun c hc => ArgumentScan.isPlain_of_isWord (isWord_of_isIdentifier hname c hc)
  have hsign : ArgumentScan.Passes .start ['='] .start :=
    ArgumentScan.passes_of_forall_isPlain (List.all_eq_true.mp (by decide)) 0
  refine ⟨?_, by simp, isBlank_head?_identifier hname _, ?_⟩
  · exact (ArgumentScan.passes_of_forall_isPlain hplain 0).append (hsign.append h.passes)
  · have hlast : (name ++ '=' :: cs).getLast? = cs.getLast? := by
      rw [← List.singleton_append, ← List.append_assoc, List.getLast?_append,
        List.getLast?_eq_some_getLast h.ne_nil, Option.some_or]
    rw [hlast]
    exact h.last

/-! ## Bare words -/

/-- The characters of an argument that nothing splits and nothing trims. -/
def isBare (c : Char) : Bool :=
  ArgumentScan.isPlain c && !Text.isBlank c && c != '='

theorem isBare_of_isNumberChar {c : Char} (h : isNumberChar c = true) : isBare c = true := by
  simp only [isNumberChar, Bool.or_eq_true, beq_iff_eq] at h
  rcases h with (h | rfl) | rfl
  · have hword := Text.isWord_of_isAlphanum h
    have hsign : c ≠ '=' := by
      rintro rfl
      exact absurd hword (by decide)
    simp [isBare, ArgumentScan.isPlain_of_isWord hword,
      Text.isBlank_eq_false_of_isWord hword, hsign]
  · decide
  · decide

section Bare

variable {cs : List Char} (hne : cs ≠ []) (hbare : ∀ c ∈ cs, isBare c = true)
include hne hbare

/-- A bare word is one argument. -/
theorem isToken_of_forall_isBare : IsToken cs := by
  have hblank : ∀ c ∈ cs, Text.isBlank c = false := by
    intro c hc
    have h := hbare c hc
    simp only [isBare, Bool.and_eq_true, Bool.not_eq_true'] at h
    exact h.1.2
  refine ⟨ArgumentScan.passes_of_forall_isPlain (fun c hc => ?_) 0, hne,
    fun c hc => hblank c (List.mem_of_mem_head? hc),
    fun c hc => hblank c (List.mem_of_mem_getLast? hc)⟩
  have h := hbare c hc
  simp only [isBare, Bool.and_eq_true] at h
  exact h.1.1

/-- A bare word spells what it is read as. -/
theorem spells_of_forall_isBare {v : Value} (h : Value.ofTrimmed cs = v) : Spells cs v := by
  refine ⟨isToken_of_forall_isBare hne hbare, keywordSplit?_of_not_mem fun hsign => ?_, h⟩
  exact absurd (hbare _ hsign) (by decide)

end Bare

/-- A bare word that is read as a number spells it. -/
theorem spells_number {cs : List Char} (hbare : ∀ c ∈ cs, isBare c = true) {n : Binary64}
    (h : readNumber? cs = some n) : Spells cs (.number n) := by
  have hne : cs ≠ [] := by
    rintro rfl
    exact absurd h (by simp [readNumber?, Numeral.read?, splitSign])
  refine spells_of_forall_isBare hne hbare ?_
  -- the readers of keywords and of quoted texts come before, and neither takes a number
  have hword : ∀ word ∈ Value.keywords, cs ≠ word.toList := by
    have hwords : ∀ word ∈ Value.keywords, readNumber? word.toList = none := by decide +kernel
    rintro word hmem rfl
    rw [hwords word hmem] at h
    cases h
  have hquote : Value.unquote? cs = none := by
    cases cs with
    | nil => rfl
    | cons c cs =>
      have hc := hbare c List.mem_cons_self
      rw [Value.unquote?, if_neg]
      rintro ⟨rfl | rfl, -⟩
      · exact absurd hc (by decide)
      · exact absurd hc (by decide)
  rw [Value.ofTrimmed_of_not_keyword hword, hquote]
  dsimp only
  rw [h]

/-- The keywords spell their values. -/
theorem spells_keyword : Spells "None".toList .null ∧ Spells "True".toList (.bool true) ∧
    Spells "False".toList (.bool false) := by
  refine ⟨?_, ?_, ?_⟩
  all_goals exact spells_of_forall_isBare (by decide) (List.all_eq_true.mp (by decide)) (by decide)

/-! ## Quoted texts -/

/-- **A text between quotes** spells exactly what is between them. -/
theorem spells_quoted {q : Char} {text : List Char} (hq : isQuote q = true) (hclosed : q ∉ text)
    (hline : '\n' ∉ text) : Spells (q :: (text ++ [q])) (.text (String.ofList text)) := by
  have hquote : q = '"' ∨ q = '\x27' := (isQuote_iff.mp hq).symm
  have hblank : Text.isBlank q = false := by
    rcases hquote with rfl | rfl <;> decide
  refine ⟨⟨ArgumentScan.passes_quoted hq hclosed hline 0, by simp, ?_, ?_⟩,
    keywordSplit?_of_isQuote hq _, ?_⟩
  · intro c hc
    obtain rfl : q = c := by simpa using hc
    exact hblank
  · intro c hc
    rw [← List.cons_append, List.getLast?_concat] at hc
    obtain rfl : q = c := by simpa using hc
    exact hblank
  · have hword : ∀ word ∈ Value.keywords, q :: (text ++ [q]) ≠ word.toList := by
      have hwords : ∀ word ∈ Value.keywords, word.toList.head?.any isQuote = false := by decide
      intro word hmem heq
      have hword := hwords word hmem
      rw [← heq, List.head?_cons, Option.any_some, hq] at hword
      cases hword
    have hunquote : Value.unquote? (q :: (text ++ [q])) = some text := by
      rw [Value.unquote?, if_pos ⟨hquote, List.getLast?_concat⟩, List.dropLast_concat]
    rw [Value.ofTrimmed_of_not_keyword hword, hunquote]

end CityScript
