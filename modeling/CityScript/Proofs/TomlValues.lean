/-
Plain TOML values are read up to their ends.

A plain value is an integer of 64 bits, a text on one line, or an array of integers. What
stands behind a value is a blank, a line end, a comment, a comma or a bracket. None of them
goes on with a number or makes it a date, so a number is read up to that character. A text
is read up to its closing quote, and no quote stands behind that, which would make it a text
over several lines.

Readers have fuel. Every character takes one at most, so more fuel than characters is enough.
-/
import CityScript.Proofs.DocumentText
import CityScript.Proofs.IntegerText
import CityScript.Toml.Reader

set_option autoImplicit false

namespace CityScript.Toml

/-! ## Ends of values -/

/-- What may stand behind a value. -/
def EndsValue (rest : List Char) : Prop :=
  ∀ c ∈ rest.head?, c ∈ [' ', '\t', '\n', '\r', '#', ',', ']']

/-- The characters that would go on with a number or make it something else. -/
def numberMarks : List Char := ['_', '.', 'e', 'E', '-', ':', 'x', 'o', 'b']

/-- No digit and no other mark of a number stands behind a value. -/
theorem EndsValue.head {c : Char} {rest : List Char} (h : EndsValue (c :: rest)) :
    c.isDigit = false ∧ c ∉ numberMarks := by
  have hall : [' ', '\t', '\n', '\r', '#', ',', ']'].all
      (fun c => !c.isDigit && !numberMarks.contains c) = true := by decide
  have hc := List.all_eq_true.mp hall c (h c rfl)
  simpa using hc

section Numbers

variable {ds rest : List Char}

/-! ## Integers -/

theorem readDigitRun?_append (hds : ∀ c ∈ ds, c.isDigit = true) (hrest : EndsValue rest) :
    readDigitRun? Char.isDigit (ds ++ rest) = some (ds, rest) := by
  induction ds with
  | nil =>
    cases rest with
    | nil => rfl
    | cons c rest =>
      obtain ⟨hdigit, hmarks⟩ := hrest.head
      have hunderscore : c ≠ '_' := fun h => hmarks (h ▸ by decide)
      simp [readDigitRun?, hunderscore, hdigit]
  | cons d ds ih =>
    obtain ⟨hd, hds⟩ := List.forall_mem_cons.mp hds
    have hunderscore : d ≠ '_' := by
      rintro rfl
      cases hd
    simp [readDigitRun?, hunderscore, hd, ih hds]

theorem readDigits?_append (hds : Json.IsDigits ds) (hrest : EndsValue rest) :
    readDigits? Char.isDigit (ds ++ rest) = some (ds, rest) := by
  cases ds with
  | nil => exact absurd rfl hds.1
  | cons d ds =>
    obtain ⟨hd, hds⟩ := List.forall_mem_cons.mp hds.2
    simp [readDigits?, hd, readDigitRun?_append hds hrest]

/-- Digits in front of the end of a value are no beginning of a date or a time. -/
theorem startsField_append (hds : ∀ c ∈ ds, c.isDigit = true) (hrest : EndsValue rest)
    (count : Nat) {c : Char} (hdigit : c.isDigit = false) (hc : c ∈ numberMarks) :
    startsField count c (ds ++ rest) = false := by
  by_contra h
  simp only [startsField, Bool.not_eq_false, Bool.and_eq_true, beq_iff_eq, List.all_eq_true] at h
  obtain ⟨⟨-, hall⟩, hget⟩ := h
  obtain hlt | hle := Nat.lt_or_ge count ds.length
  · -- the mark would be one of the digits
    rw [List.getElem?_append_left hlt] at hget
    rw [hds c (List.mem_of_getElem? hget)] at hdigit
    cases hdigit
  · rw [List.getElem?_append_right hle] at hget
    cases rest with
    | nil => cases hget
    | cons d rest =>
      obtain ⟨hd, hmarks⟩ := hrest.head
      cases hcount : count - ds.length with
      | zero =>
        -- the mark would be the end of the value
        rw [hcount, List.getElem?_cons_zero] at hget
        rw [Option.some.inj hget] at hmarks
        exact hmarks hc
      | succ extra =>
        -- the end of the value would be one of the digits of the date
        have hmem : d ∈ (ds ++ d :: rest).take count := by
          refine List.mem_of_getElem? (i := ds.length) ?_
          rw [List.getElem?_take_of_lt (by omega), List.getElem?_append_right (Nat.le_refl _)]
          simp
        rw [hall d hmem] at hd
        cases hd

theorem readWhole?_append (hds : Json.IsWhole ds) (hrest : EndsValue rest) :
    readWhole? (ds ++ rest) = some (ds, rest) := by
  have hdigits := readDigits?_append hds.1 hrest
  unfold readWhole?
  split
  · next tail heq =>
    -- a zero in front is the whole number
    cases ds with
    | nil => exact absurd rfl hds.1.1
    | cons d ds =>
      obtain ⟨rfl, rfl⟩ := List.cons.inj heq
      rw [(List.cons.inj (hds.2 rfl)).2]
      rfl
  · exact hdigits

theorem readFraction?_none (hrest : EndsValue rest) : readFraction? rest = some ([], rest) := by
  unfold readFraction?
  split
  · exact absurd (by decide) hrest.head.2
  · rfl

theorem readPower?_none (hrest : EndsValue rest) : readPower? rest = some ([], rest) := by
  cases rest with
  | nil => rfl
  | cons c rest =>
    have hletter : ¬ (c = 'e' ∨ c = 'E') := by
      rintro (rfl | rfl)
      · exact hrest.head.2 (by decide)
      · exact hrest.head.2 (by decide)
    rw [readPower?, if_neg hletter]

/-- A number without a fraction and without a power of ten is an integer if it fits. -/
theorem readDecimal?_append (hds : Json.IsWhole ds) (hrest : EndsValue rest) (negative : Bool)
    {n : Int} (hn : (if negative then -(natOfDigits ds : Int) else natOfDigits ds) = n)
    (hlow : minInt64 ≤ n) (hhigh : n ≤ maxInt64) :
    readDecimal? negative (ds ++ rest) = some (.integer n, rest) := by
  have hvalue : decimalValue? negative ds [] [] = some (.integer n) := by
    simp only [decimalValue?, and_self, if_true, hn]
    rw [if_pos ⟨hlow, hhigh⟩]
  simp [readDecimal?, readWhole?_append hds hrest, readFraction?_none hrest,
    readPower?_none hrest, hvalue]

/-- Behind its sign a number that begins with a digit is a decimal one. -/
theorem readSigned?_of_isDigit {cs tail : List Char} {d : Char} {negative : Bool}
    (hd : d.isDigit = true) (hsign : splitSign cs = (negative, d :: tail)) :
    readSigned? cs = readDecimal? negative (d :: tail) := by
  have hi : d ≠ 'i' := by
    rintro rfl
    cases hd
  have hn : d ≠ 'n' := by
    rintro rfl
    cases hd
  simp [readSigned?, hsign, hi, hn]

/-- A text is no number in another base unless a letter follows a zero. -/
theorem readNumber?_eq_readSigned? {cs : List Char} (hdate : startsField 4 '-' cs = false)
    (htime : startsField 2 ':' cs = false)
    (hbase : ∀ c ∈ ['x', 'o', 'b'], ∀ tail, cs ≠ '0' :: c :: tail) :
    readNumber? cs = readSigned? cs := by
  unfold readNumber?
  rw [hdate, htime, if_neg Bool.false_ne_true, if_neg Bool.false_ne_true]
  split
  · exact absurd rfl (hbase 'x' (by decide) _)
  · exact absurd rfl (hbase 'o' (by decide) _)
  · exact absurd rfl (hbase 'b' (by decide) _)
  · rfl

/-- **An integer of 64 bits is read up to the end of the value.** -/
theorem readNumber?_append {n : Int} (hlow : minInt64 ≤ n) (hhigh : n ≤ maxInt64)
    (hrest : EndsValue rest) :
    readNumber? ((toString n).toList ++ rest) = some (.integer n, rest) := by
  have hwhole := Json.isWhole_digitsOf n.natAbs
  have hdigits := hwhole.1.2
  have hread := fun negative => readDecimal?_append hwhole hrest (n := n) negative
  rw [natOfDigits_digitsOf] at hread
  rw [toList_toString_int]
  generalize Layout.digitsOf n.natAbs = ds at *
  cases ds with
  | nil => exact absurd rfl hwhole.1.1
  | cons d tail =>
    have hd := hdigits d List.mem_cons_self
    split
    · next hneg =>
      -- a sign is no beginning of a date
      rw [List.cons_append, readNumber?_eq_readSigned? (by simp [startsField])
        (by simp [startsField]) (by simp), readSigned?_of_isDigit hd rfl]
      exact hread true (by rw [if_pos rfl]; omega) hlow hhigh
    · next hpos =>
      have hsign := splitSign_cons_of_isDigit hd (tail ++ rest)
      have hbase : ∀ c ∈ ['x', 'o', 'b'], ∀ more, d :: tail ++ rest ≠ '0' :: c :: more := by
        intro c hc more heq
        obtain ⟨rfl, hmore⟩ := List.cons.inj heq
        -- a zero stands alone, so the letter would be the end of the value
        rw [(List.cons.inj (hwhole.2 rfl)).2] at hmore
        change rest = c :: more at hmore
        rw [hmore] at hrest
        have hmark : ['x', 'o', 'b'].all (numberMarks.contains ·) = true := by decide
        have := List.all_eq_true.mp hmark c hc
        exact hrest.head.2 (by simpa using this)
      rw [readNumber?_eq_readSigned?
        (startsField_append hdigits hrest 4 (by decide) (by decide))
        (startsField_append hdigits hrest 2 (by decide) (by decide)) hbase,
        List.cons_append, readSigned?_of_isDigit hd hsign]
      exact hread false (by rw [if_neg Bool.false_ne_true]; omega) hlow hhigh

end Numbers

/-! ## Strings -/

/-- What stands between the quotes of a string, for each text. -/
inductive SpellsText : List Char → List Char → Prop
  | nil : SpellsText [] []
  | char {c : Char} {text cs : List Char} (hquote : c ≠ '"') (hslash : c ≠ '\\')
    (hc : isStringChar c = true) (h : SpellsText text cs) : SpellsText (c :: text) (c :: cs)
  | letter {e c : Char} {text cs : List Char} (he : e ≠ '/')
    (hletter : Json.letterEscape? e = some c) (h : SpellsText text cs) :
    SpellsText (c :: text) ('\\' :: e :: cs)
  | unit {x y z w c : Char} {text cs : List Char} (hunit : charOfHex? [x, y, z, w] = some c)
    (h : SpellsText text cs) : SpellsText (c :: text) ('\\' :: 'u' :: x :: y :: z :: w :: cs)

theorem readEscape?_of_letter {e c : Char} (he : e ≠ '/')
    (hletter : Json.letterEscape? e = some c) (rest : List Char) :
    readEscape? (e :: rest) = some (c, rest) := by
  unfold Json.letterEscape? at hletter
  split at hletter
  all_goals first
    | rw [← Option.some.inj hletter]; rfl
    | cases hletter
  exact absurd rfl he

/-- **A text is read up to its closing quote.** -/
theorem readBasic?_append {text cs : List Char} (h : SpellsText text cs) (rest : List Char)
    {fuel : Nat} (hfuel : cs.length < fuel) :
    readBasic? fuel (cs ++ '"' :: rest) = some (text, rest) := by
  induction h generalizing fuel with
  | nil =>
    obtain ⟨fuel, rfl⟩ := Nat.exists_eq_add_one.mpr (Nat.zero_lt_of_lt hfuel)
    rfl
  | char hquote hslash hc h ih =>
    obtain ⟨fuel, rfl⟩ := Nat.exists_eq_add_one.mpr (Nat.zero_lt_of_lt hfuel)
    simp only [List.length_cons] at hfuel
    have hread := @ih fuel (by omega)
    simp [readBasic?, hc, hread]
  | letter he hletter h ih =>
    obtain ⟨fuel, rfl⟩ := Nat.exists_eq_add_one.mpr (Nat.zero_lt_of_lt hfuel)
    simp only [List.length_cons] at hfuel
    have hread := @ih fuel (by omega)
    simp [readBasic?, readEscape?_of_letter he hletter, hread]
  | @unit _ _ _ _ _ _ cs hunit h ih =>
    obtain ⟨fuel, rfl⟩ := Nat.exists_eq_add_one.mpr (Nat.zero_lt_of_lt hfuel)
    simp only [List.length_cons] at hfuel
    have hread := @ih fuel (by omega)
    have hlong : ¬ cs.length + (rest.length + 1) + 1 + 1 + 1 + 1 < 4 := by omega
    simp [readBasic?, readEscape?, readEscape?.ofDigits?, hunit, hlong, hread]

theorem charOfHex?_of_codeUnit? {x y z w : Char} {n : Nat}
    (h : Json.codeUnit? x y z w = some n) (hn : n < 0xD800) :
    charOfHex? [x, y, z, w] = some (Char.ofNat n) := by
  simp only [Json.codeUnit?, Option.bind_eq_bind, Option.bind_eq_some_iff, Option.pure_def,
    Option.some.injEq] at h
  obtain ⟨a, ha, b, hb, c, hc, d, hd, rfl⟩ := h
  have hcode : 16 * (16 * (16 * a + b) + c) + d = ((a * 16 + b) * 16 + c) * 16 + d := by omega
  simp [charOfHex?, ha, hb, hc, hd, hcode, hn]

/-- Every text has a spelling: the usual escapes, and one more for the delete character. -/
theorem exists_spellsText (text : List Char) : ∃ cs, SpellsText text cs := by
  induction text with
  | nil => exact ⟨[], .nil⟩
  | cons c text ih =>
    obtain ⟨cs, h⟩ := ih
    by_cases hdelete : c.toNat = 0x7F
    · have hc : c = '\x7f' := Char.toNat_inj.mp hdelete
      exact ⟨_, .unit (show charOfHex? ['0', '0', '7', 'f'] = some c by rw [hc]; decide) h⟩
    rcases Json.escape_cases c with ⟨hquote, hslash, hspace, -⟩ | ⟨e, he, hescape⟩ |
      ⟨x, y, hcode, hlow, -⟩
    · refine ⟨_, .char hquote hslash ?_ h⟩
      simp [isStringChar, isCommentChar, hspace, hdelete]
    · refine ⟨_, .letter ?_ he h⟩
      -- a slash is not written with a backslash
      rintro rfl
      rw [← Option.some.inj he] at hescape
      exact absurd hescape (by decide)
    · -- a control character is no half of a surrogate pair
      have hunit := charOfHex?_of_codeUnit? hcode (by omega)
      rw [Char.ofNat_toNat] at hunit
      exact ⟨_, .unit hunit h⟩

theorem head_spellsText {text : List Char} {c : Char} {cs : List Char}
    (h : SpellsText text (c :: cs)) : c ≠ '"' := by
  cases h with
  | char hquote => exact hquote
  | letter => decide
  | unit => decide

/-- A text in quotes is no string over several lines, since no quote follows it. -/
theorem readString?_append {text cs rest : List Char} (h : SpellsText text cs)
    (hrest : ∀ c ∈ rest.head?, c ≠ '"') :
    readString? ('"' :: (cs ++ '"' :: rest)) = some (text, rest) := by
  have hlength : cs.length < (cs ++ '"' :: rest).length + 1 := by
    rw [List.length_append]
    omega
  have hread := readBasic?_append h rest hlength
  unfold readString?
  split
  · next tail heq =>
    have heq := (List.cons.inj heq).2
    cases cs with
    | nil =>
      -- the third quote would stand behind the string
      obtain ⟨-, heq⟩ := List.cons.inj heq
      rw [heq] at hrest
      exact absurd rfl (hrest '"' rfl)
    | cons c cs => exact absurd (List.cons.inj heq).1 (head_spellsText h)
  · next heq => cases heq
  · next tail _ heq =>
    rw [← (List.cons.inj heq).2]
    exact hread
  · next heq => cases heq
  · next hnone _ => exact absurd rfl (hnone _)

/-! ## Arrays -/

theorem isSpace_iff {c : Char} : isSpace c = true ↔ c = ' ' ∨ c = '\t' := by
  simp [isSpace]

/-- Blanks and line feeds only, as they may stand around the items of an array. -/
def IsFiller (cs : List Char) : Prop := ∀ c ∈ cs, isSpace c = true ∨ c = '\n'

theorem skipFiller_append {gap : List Char} (hgap : IsFiller gap) {c : Char}
    (hspace : isSpace c = false) (hc : c ∉ ['\n', '\r', '#']) (rest : List Char) :
    skipFiller false (gap ++ c :: rest) = c :: rest := by
  simp only [List.mem_cons, List.not_mem_nil, or_false, not_or] at hc
  obtain ⟨hfeed, hreturn, hcomment⟩ := hc
  induction gap with
  | nil => simp [skipFiller, hspace, hreturn, hcomment]
  | cons d gap ih =>
    obtain ⟨hd, htail⟩ := List.forall_mem_cons.mp hgap
    rw [isSpace_iff] at hd
    rcases hd with (rfl | rfl) | rfl
    · simpa [skipFiller, isSpace] using ih htail
    · simpa [skipFiller, isSpace] using ih htail
    · simpa [skipFiller] using ih htail

theorem endsValue_append {gap : List Char} (hgap : IsFiller gap) {rest : List Char}
    (hrest : EndsValue rest) : EndsValue (gap ++ rest) := by
  cases gap with
  | nil => exact hrest
  | cons d gap =>
    rintro c ⟨⟩
    have hd := hgap d List.mem_cons_self
    rw [isSpace_iff] at hd
    rcases hd with (rfl | rfl) | rfl <;> decide

/-- The items of an array of integers with its closing bracket, which a comma may precede. -/
inductive SpellsItems : List Int → List Char → Prop
  | close {gap : List Char} (hgap : IsFiller gap) : SpellsItems [] (gap ++ [']'])
  | last {before after : List Char} {n : Int} (hbefore : IsFiller before) (hafter : IsFiller after)
    (hlow : minInt64 ≤ n) (hhigh : n ≤ maxInt64) :
    SpellsItems [n] (before ++ ((toString n).toList ++ (after ++ [']'])))
  | next {before after cs : List Char} {n : Int} {ns : List Int} (hbefore : IsFiller before)
    (hafter : IsFiller after) (hlow : minInt64 ≤ n) (hhigh : n ≤ maxInt64)
    (h : SpellsItems ns cs) :
    SpellsItems (n :: ns) (before ++ ((toString n).toList ++ (after ++ ',' :: cs)))

/-- An integer begins with a sign or a digit, so with nothing that another value or a gap
begins with. -/
theorem exists_cons_toString (n : Int) : ∃ c tail, (toString n).toList = c :: tail ∧
    isSpace c = false ∧
    c ∉ ['[', ']', '\x7b', 't', 'f', '"', '\x27', '\n', '\r', '#'] := by
  obtain ⟨c, tail, htext, hc⟩ := Json.exists_cons_of_isNumber (Json.isNumber_toString n)
  have hne : c ∉ [' ', '\t', '[', ']', '\x7b', 't', 'f', '"', '\x27', '\n', '\r', '#'] :=
    Json.notMem_of_isNumber_head hc (by decide)
  simp only [List.mem_cons, not_or] at hne ⊢
  exact ⟨c, tail, htext, by simp [isSpace, hne.1, hne.2.1], hne.2.2⟩

theorem readValue?_integer {n : Int} (hlow : minInt64 ≤ n) (hhigh : n ≤ maxInt64)
    {rest : List Char} (hrest : EndsValue rest) (depth fuel : Nat) :
    readValue? depth (fuel + 1) ((toString n).toList ++ rest) = some (.integer n, rest) := by
  have hread := readNumber?_append hlow hhigh hrest
  obtain ⟨c, tail, htext, -, hc⟩ := exists_cons_toString n
  simp only [List.mem_cons, List.not_mem_nil, or_false, not_or] at hc
  rw [htext, List.cons_append] at hread ⊢
  simp [readValue?, hc, hread]

/-- Behind an item of an array stands a gap and then a comma or the closing bracket. -/
theorem readItems?_item {before after : List Char} {n : Int} (hbefore : IsFiller before)
    (hafter : IsFiller after) (hlow : minInt64 ≤ n) (hhigh : n ≤ maxInt64) {c : Char}
    (hc : c = ',' ∨ c = ']') (rest : List Char) (depth fuel : Nat) :
    readItems? depth (fuel + 2) (before ++ ((toString n).toList ++ (after ++ c :: rest))) =
      if c = ',' then
        (readItems? depth (fuel + 1) rest).map fun (items, after) => (.integer n :: items, after)
      else some ([.integer n], rest) := by
  have hend : EndsValue (after ++ c :: rest) := by
    refine endsValue_append hafter ?_
    rintro d ⟨⟩
    rcases hc with rfl | rfl <;> decide
  have hread := readValue?_integer hlow hhigh hend depth fuel
  have hskip : skipFiller false (after ++ c :: rest) = c :: rest := by
    rcases hc with rfl | rfl
    · exact skipFiller_append hafter (by decide) (by decide) rest
    · exact skipFiller_append hafter (by decide) (by decide) rest
  obtain ⟨d, tail, htext, hspace, hd⟩ := exists_cons_toString n
  simp only [List.mem_cons, List.not_mem_nil, or_false, not_or] at hd
  rw [htext, List.cons_append] at hread ⊢
  have hfirst := skipFiller_append hbefore hspace (by simp [hd]) (tail ++ (after ++ c :: rest))
  rcases hc with rfl | rfl
  · simp [readItems?, hfirst, hd, hread, hskip]
  · simp [readItems?, hfirst, hd, hread, hskip]

theorem readItems?_append {ns : List Int} {cs : List Char} (h : SpellsItems ns cs)
    (rest : List Char) (depth : Nat) {fuel : Nat} (hfuel : cs.length < fuel) :
    readItems? depth fuel (cs ++ rest) = some (ns.map .integer, rest) := by
  induction h generalizing fuel with
  | close hgap =>
    obtain ⟨fuel, rfl⟩ := Nat.exists_eq_add_one.mpr (Nat.zero_lt_of_lt hfuel)
    rw [List.append_assoc, List.singleton_append, readItems?,
      skipFiller_append hgap (by decide) (by decide)]
    rfl
  | last hbefore hafter hlow hhigh =>
    simp only [List.length_append, List.length_singleton] at hfuel
    obtain ⟨fuel, rfl⟩ : ∃ f, fuel = f + 2 := ⟨fuel - 2, by omega⟩
    simp only [List.append_assoc, List.singleton_append]
    rw [readItems?_item hbefore hafter hlow hhigh (.inr rfl)]
    rfl
  | next hbefore hafter hlow hhigh h ih =>
    simp only [List.length_append, List.length_cons] at hfuel
    obtain ⟨fuel, rfl⟩ : ∃ f, fuel = f + 2 := ⟨fuel - 2, by omega⟩
    simp only [List.append_assoc, List.cons_append]
    rw [readItems?_item hbefore hafter hlow hhigh (.inl rfl), if_pos rfl, ih (by omega)]
    rfl

/-! ## Values -/

/-- A text spells a value. -/
inductive SpellsValue : Toml → List Char → Prop
  | integer {n : Int} (hlow : minInt64 ≤ n) (hhigh : n ≤ maxInt64) :
    SpellsValue (.integer n) (toString n).toList
  | string {text : String} {cs : List Char} (h : SpellsText text.toList cs) :
    SpellsValue (.string text) ('"' :: (cs ++ ['"']))
  | integers {ns : List Int} {cs : List Char} (h : SpellsItems ns cs) :
    SpellsValue (.array (ns.map .integer)) ('[' :: cs)

/-- **A value is read up to its end.** -/
theorem readValue?_append {v : Toml} {cs rest : List Char} (h : SpellsValue v cs)
    (hrest : EndsValue rest) (depth : Nat) {fuel : Nat} (hfuel : cs.length < fuel) :
    readValue? (depth + 1) fuel (cs ++ rest) = some (v, rest) := by
  obtain ⟨fuel, rfl⟩ := Nat.exists_eq_add_one.mpr (Nat.zero_lt_of_lt hfuel)
  cases h with
  | integer hlow hhigh => exact readValue?_integer hlow hhigh hrest (depth + 1) fuel
  | @string text cs h =>
    have hquote : ∀ c ∈ rest.head?, c ≠ '"' := by
      rintro c hc rfl
      exact absurd (hrest '"' hc) (by decide)
    have hread := readString?_append h hquote
    simp [readValue?, stringValue?, hread]
  | integers h =>
    rw [List.length_cons] at hfuel
    rw [List.cons_append, readValue?, readItems?_append h rest depth (by omega)]
    rfl

theorem startsValue {v : Toml} {cs : List Char} (h : SpellsValue v cs) (rest : List Char) :
    ∀ c ∈ (cs ++ rest).head?, isSpace c = false := by
  cases h with
  | integer =>
    obtain ⟨c, tail, htext, hspace, -⟩ := exists_cons_toString _
    rw [htext]
    rintro d ⟨⟩
    exact hspace
  | string => rintro d ⟨⟩; decide
  | integers => rintro d ⟨⟩; decide

end CityScript.Toml
