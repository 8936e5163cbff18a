/-
The spellings of a document, and that they are read.

A document has many spellings: between its tokens there may be blanks. The grammar below
says which texts spell a document, with one rule for each way that the format has. It does
not say how much of a text belongs to a token, which the reader has to find out.

Strings end at a quote that no escape covers, so nothing behind a string matters. A number
ends where its grammar does not go on, so what stands behind it must not begin like the
rest of a number. In a document that is always a blank, a comma or a closing bracket.

The reader has fuel. Every nested document is shorter than the text around it by two
characters at least, and is read with two less fuel, so as much fuel as there are
characters is enough (`readValue?_of_spells`).
-/
import CityScript.Json.Reader
import CityScript.Proofs.CallGrammar

set_option autoImplicit false

namespace CityScript.Json

/-! ## Numbers -/

/-- At least one digit, and nothing else. -/
def IsDigits (cs : List Char) : Prop := cs ≠ [] ∧ ∀ c ∈ cs, c.isDigit = true

/-- The whole part of a number: no zero in front of other digits. -/
def IsWhole (cs : List Char) : Prop := IsDigits cs ∧ (cs.head? = some '0' → cs = ['0'])

/-- The fraction of a number, if there is one. -/
inductive IsFraction : List Char → Prop
  | none : IsFraction []
  | digits {ds : List Char} (h : IsDigits ds) : IsFraction ('.' :: ds)

/-- The power of ten of a number, if there is one. -/
inductive IsPower : List Char → Prop
  | none : IsPower []
  | unsigned {letter : Char} {ds : List Char} (hletter : letter = 'e' ∨ letter = 'E')
    (h : IsDigits ds) : IsPower (letter :: ds)
  | signed {letter sign : Char} {ds : List Char} (hletter : letter = 'e' ∨ letter = 'E')
    (hsign : sign = '+' ∨ sign = '-') (h : IsDigits ds) : IsPower (letter :: sign :: ds)

/-- The lexeme of a number without a sign. -/
inductive IsUnsigned : List Char → Prop
  | mk {whole fraction power : List Char} (hwhole : IsWhole whole)
    (hfraction : IsFraction fraction) (hpower : IsPower power) :
    IsUnsigned (whole ++ (fraction ++ power))

/-- The lexeme of a number. -/
inductive IsNumber : List Char → Prop
  | positive {cs : List Char} (h : IsUnsigned cs) : IsNumber cs
  | negative {cs : List Char} (h : IsUnsigned cs) : IsNumber ('-' :: cs)

/-- What may stand behind a number: nothing that would go on with it. -/
def EndsNumber (rest : List Char) : Prop :=
  ∀ c ∈ rest.head?, c.isDigit = false ∧ c ≠ '.' ∧ c ≠ 'e' ∧ c ≠ 'E'

section Numbers

variable {ds rest : List Char}

theorem readDigits?_append (hds : IsDigits ds) (hrest : ∀ c ∈ rest.head?, c.isDigit = false) :
    readDigits? (ds ++ rest) = some (ds, rest) := by
  have htake := takeWhile_run hds.2 hrest
  have hdrop := dropWhile_run hds.2 hrest
  rw [readDigits?, htake, hdrop]
  cases ds with
  | nil => exact absurd rfl hds.1
  | cons d ds => rfl

theorem readWhole?_append (hds : IsWhole ds) (hrest : ∀ c ∈ rest.head?, c.isDigit = false) :
    readWhole? (ds ++ rest) = some (ds, rest) := by
  rw [readWhole?, readDigits?_append hds.1 hrest]
  split
  · next h =>
    -- a zero in front of other digits is no whole part
    obtain ⟨rfl, -⟩ := Prod.mk.inj (Option.some.inj h)
    cases hds.2 rfl
  · rfl

theorem readFraction?_append (hds : IsFraction ds)
    (hrest : ∀ c ∈ rest.head?, c.isDigit = false ∧ c ≠ '.') :
    readFraction? (ds ++ rest) = some (ds, rest) := by
  cases hds with
  | none =>
    rw [List.nil_append]
    unfold readFraction?
    split
    · exact absurd rfl (hrest '.' rfl).2
    · rfl
  | digits h =>
    rw [List.cons_append, readFraction?, readDigits?_append h fun c hc => (hrest c hc).1]
    rfl

theorem readPower?_append (hds : IsPower ds)
    (hrest : ∀ c ∈ rest.head?, c.isDigit = false ∧ c ≠ 'e' ∧ c ≠ 'E') :
    readPower? (ds ++ rest) = some (ds, rest) := by
  have hdigit : ∀ c ∈ rest.head?, c.isDigit = false := fun c hc => (hrest c hc).1
  cases hds with
  | none =>
    rw [List.nil_append]
    unfold readPower?
    split
    · exact absurd rfl (hrest 'e' rfl).2.1
    · exact absurd rfl (hrest 'E' rfl).2.2
    · rfl
  | @unsigned letter ds hletter h =>
    have hafter : readPower?.afterLetter letter (ds ++ rest) = some (letter :: ds, rest) := by
      have hread := readDigits?_append h hdigit
      unfold readPower?.afterLetter
      split
      · next heq =>
        -- a digit is no sign
        cases ds with
        | nil => exact absurd rfl h.1
        | cons d ds =>
          obtain ⟨rfl, -⟩ := List.cons.inj heq
          cases h.2 _ List.mem_cons_self
      · next heq =>
        cases ds with
        | nil => exact absurd rfl h.1
        | cons d ds =>
          obtain ⟨rfl, -⟩ := List.cons.inj heq
          cases h.2 _ List.mem_cons_self
      · rw [hread]
        rfl
    rcases hletter with rfl | rfl
    · exact hafter
    · exact hafter
  | signed hletter hsign h =>
    have hread := readDigits?_append h hdigit
    rcases hletter with rfl | rfl
    · rcases hsign with rfl | rfl <;>
        rw [List.cons_append, List.cons_append, readPower?, readPower?.afterLetter, hread] <;> rfl
    · rcases hsign with rfl | rfl <;>
        rw [List.cons_append, List.cons_append, readPower?, readPower?.afterLetter, hread] <;> rfl

/-- Behind the whole part and the fraction no digit and no point goes on. -/
theorem head_power (hds : IsPower ds) (hrest : EndsNumber rest) :
    ∀ c ∈ (ds ++ rest).head?, c.isDigit = false ∧ c ≠ '.' := by
  intro c hc
  cases hds with
  | none => exact ⟨(hrest c hc).1, (hrest c hc).2.1⟩
  | unsigned hletter h =>
    cases hc
    rcases hletter with rfl | rfl <;> decide
  | signed hletter hsign h =>
    cases hc
    rcases hletter with rfl | rfl <;> decide

/-- Behind the whole part no digit goes on. -/
theorem head_fraction {power : List Char} (hds : IsFraction ds) (hpower : IsPower power)
    (hrest : EndsNumber rest) :
    ∀ c ∈ (ds ++ (power ++ rest)).head?, c.isDigit = false := by
  intro c hc
  cases hds with
  | none => exact (head_power hpower hrest c hc).1
  | digits h =>
    cases hc
    decide

theorem exists_cons_of_isUnsigned (h : IsUnsigned ds) :
    ∃ c tail, ds = c :: tail ∧ c.isDigit = true := by
  cases h with
  | @mk whole fraction power hwhole hfraction hpower =>
    cases whole with
    | nil => exact absurd rfl hwhole.1.1
    | cons d whole => exact ⟨d, _, rfl, hwhole.1.2 d List.mem_cons_self⟩

/-- The three parts of a number are read one after the other. -/
theorem readParts?_append (hds : IsUnsigned ds) (hrest : EndsNumber rest) :
    ∃ whole fraction power, whole ++ (fraction ++ power) = ds ∧
      readWhole? (ds ++ rest) = some (whole, fraction ++ (power ++ rest)) ∧
      readFraction? (fraction ++ (power ++ rest)) = some (fraction, power ++ rest) ∧
      readPower? (power ++ rest) = some (power, rest) := by
  cases hds with
  | @mk whole fraction power hwhole hfraction hpower =>
    refine ⟨whole, fraction, power, rfl, ?_, ?_, ?_⟩
    · rw [List.append_assoc, List.append_assoc]
      exact readWhole?_append hwhole (head_fraction hfraction hpower hrest)
    · exact readFraction?_append hfraction (head_power hpower hrest)
    · exact readPower?_append hpower fun c hc => ⟨(hrest c hc).1, (hrest c hc).2.2⟩

/-- **A number is read up to its end.** -/
theorem readNumberLexeme?_append (hds : IsNumber ds) (hrest : EndsNumber rest) :
    readNumberLexeme? (ds ++ rest) = some (ds, rest) := by
  cases hds with
  | positive h =>
    have hminus : ∀ tail, ds ++ rest ≠ '-' :: tail := by
      obtain ⟨c, front, rfl, hdigit⟩ := exists_cons_of_isUnsigned h
      intro tail heq
      -- a digit is no sign
      obtain ⟨rfl, -⟩ := List.cons.inj heq
      cases hdigit
    obtain ⟨whole, fraction, power, heq, hwhole, hfraction, hpower⟩ := readParts?_append h hrest
    rw [readNumberLexeme?]
    · simp [hwhole, hfraction, hpower, heq]
    · exact hminus
  | @negative ds h =>
    obtain ⟨whole, fraction, power, heq, hwhole, hfraction, hpower⟩ := readParts?_append h hrest
    rw [List.cons_append, readNumberLexeme?]
    simp [hwhole, hfraction, hpower, heq]

end Numbers

/-! ## Strings -/

/-- What may stand between the quotes of a string: characters other than quotes, backslashes
and control characters, and escapes. -/
inductive IsLexeme : List Char → Prop
  | nil : IsLexeme []
  | char {c : Char} {cs : List Char} (hquote : c ≠ '"') (hslash : c ≠ '\\')
    (hspace : 0x20 ≤ c.toNat) (h : IsLexeme cs) : IsLexeme (c :: cs)
  | letter {e : Char} {cs : List Char} (hletter : (letterEscape? e).isSome)
    (h : IsLexeme cs) : IsLexeme ('\\' :: e :: cs)
  | unit {x y z w : Char} {cs : List Char} (hunit : (codeUnit? x y z w).isSome)
    (h : IsLexeme cs) : IsLexeme ('\\' :: 'u' :: x :: y :: z :: w :: cs)

/-- **A string is read up to its closing quote.** -/
theorem readLexeme?_append {cs : List Char} (h : IsLexeme cs) (rest : List Char) :
    readLexeme? (cs ++ '"' :: rest) = some (cs, rest) := by
  induction h with
  | nil => simp [readLexeme?]
  | char hquote hslash hspace h ih =>
    simp [readLexeme?, hslash, hspace, ih]
  | @letter e cs hletter h ih =>
    have hu : e ≠ 'u' := by
      rintro rfl
      cases hletter
    simp [readLexeme?, hu, hletter, ih]
  | unit hunit h ih => simp [readLexeme?, hunit, ih]

/-! ## Blanks -/

/-- Blanks only. -/
def IsSpaces (cs : List Char) : Prop := ∀ c ∈ cs, isSpace c = true

/-- A text in front of which no blank is left to skip. -/
def StartsToken (cs : List Char) : Prop := ∀ c ∈ cs.head?, isSpace c = false

theorem skipSpace_append {blanks cs : List Char} (hblanks : IsSpaces blanks)
    (hcs : StartsToken cs) : skipSpace (blanks ++ cs) = cs := dropWhile_run hblanks hcs

/-! ## Documents -/

mutual

/-- A text spells a document. -/
inductive Spells : Json → List Char → Prop
  | null : Spells .null ['n', 'u', 'l', 'l']
  | true : Spells (.bool true) ['t', 'r', 'u', 'e']
  | false : Spells (.bool false) ['f', 'a', 'l', 's', 'e']
  | number {cs : List Char} (h : IsNumber cs) : Spells (.number (String.ofList cs)) cs
  | string {cs : List Char} (h : IsLexeme cs) :
    Spells (.string (String.ofList cs)) ('"' :: (cs ++ ['"']))
  | emptyList {blanks : List Char} (hblanks : IsSpaces blanks) :
    Spells (.list []) ('[' :: (blanks ++ [']']))
  | list {blanks cs : List Char} {items : List Json} (hblanks : IsSpaces blanks)
    (h : SpellsItems items cs) : Spells (.list items) ('[' :: (blanks ++ cs))
  | emptyObject {blanks : List Char} (hblanks : IsSpaces blanks) :
    Spells (.object []) ('\x7b' :: (blanks ++ ['\x7d']))
  | object {blanks cs : List Char} {members : List (String × Json)} (hblanks : IsSpaces blanks)
    (h : SpellsMembers members cs) : Spells (.object members) ('\x7b' :: (blanks ++ cs))

/-- A text spells the items of a list, with the closing bracket behind them. -/
inductive SpellsItems : List Json → List Char → Prop
  | last {item : Json} {cs blanks : List Char} (h : Spells item cs)
    (hblanks : IsSpaces blanks) : SpellsItems [item] (cs ++ (blanks ++ [']']))
  | cons {item : Json} {items : List Json} {cs before after ds : List Char}
    (h : Spells item cs) (hbefore : IsSpaces before) (hafter : IsSpaces after)
    (hrest : SpellsItems items ds) :
    SpellsItems (item :: items) (cs ++ (before ++ ',' :: (after ++ ds)))

/-- A text spells one member of an object. -/
inductive SpellsMember : String × Json → List Char → Prop
  | mk {key cs before after : List Char} {value : Json} (hkey : IsLexeme key)
    (hbefore : IsSpaces before) (hafter : IsSpaces after) (h : Spells value cs) :
    SpellsMember (String.ofList key, value)
      ('"' :: (key ++ '"' :: (before ++ ':' :: (after ++ cs))))

/-- A text spells the members of an object, with the closing brace behind them. -/
inductive SpellsMembers : List (String × Json) → List Char → Prop
  | last {member : String × Json} {cs blanks : List Char} (h : SpellsMember member cs)
    (hblanks : IsSpaces blanks) : SpellsMembers [member] (cs ++ (blanks ++ ['\x7d']))
  | cons {member : String × Json} {members : List (String × Json)}
    {cs before after ds : List Char} (h : SpellsMember member cs) (hbefore : IsSpaces before)
    (hafter : IsSpaces after) (hrest : SpellsMembers members ds) :
    SpellsMembers (member :: members) (cs ++ (before ++ ',' :: (after ++ ds)))

end

/-! ## First characters -/

/-- A number begins with a digit or a minus. -/
theorem exists_cons_of_isNumber {cs : List Char} (h : IsNumber cs) :
    ∃ c tail, cs = c :: tail ∧ (c = '-' ∨ c.isDigit = true) := by
  cases h with
  | positive h =>
    obtain ⟨c, tail, rfl, hdigit⟩ := exists_cons_of_isUnsigned h
    exact ⟨c, tail, rfl, .inr hdigit⟩
  | negative h => exact ⟨'-', _, rfl, .inl rfl⟩

/-- What a number begins with is none of the marks that are neither digits nor a minus. -/
theorem notMem_of_isNumber_head {c : Char} (hc : c = '-' ∨ c.isDigit = true) {marks : List Char}
    (hmarks : marks.all (fun d => d != '-' && !d.isDigit) = true) : c ∉ marks := by
  refine not_mem_run (List.all_eq_true.mp hmarks) ?_
  rcases hc with rfl | hdigit
  · rfl
  · rw [hdigit, Bool.not_true, Bool.and_false]

/-- A document begins with no blank and with no closing bracket. -/
theorem exists_cons_of_spells {j : Json} {cs : List Char} (h : Spells j cs) :
    ∃ c tail, cs = c :: tail ∧ isSpace c = false ∧ c ≠ ']' := by
  cases h with
  | number h =>
    obtain ⟨c, tail, rfl, hc⟩ := exists_cons_of_isNumber h
    refine ⟨c, tail, rfl, ?_⟩
    rcases hc with rfl | hdigit
    · decide
    · have hsymbols : [' ', '\n', '\t', '\r', ']'].all (fun d => !d.isDigit) = true := by decide
      have hne : ∀ d ∈ [' ', '\n', '\t', '\r', ']'], c ≠ d := by
        rintro d hd rfl
        have hnot := List.all_eq_true.mp hsymbols c hd
        rw [hdigit] at hnot
        cases hnot
      refine ⟨?_, hne ']' (by simp)⟩
      simp [isSpace, hne ' ', hne '\n', hne '\t', hne '\r']
  | _ => exact ⟨_, _, rfl, by decide, by decide⟩

theorem startsToken_of_spells {j : Json} {cs : List Char} (h : Spells j cs) (rest : List Char) :
    StartsToken (cs ++ rest) := by
  obtain ⟨c, tail, rfl, hspace, -⟩ := exists_cons_of_spells h
  intro d hd
  cases hd
  exact hspace

theorem exists_cons_of_spellsItems {items : List Json} {cs : List Char}
    (h : SpellsItems items cs) : ∃ c tail, cs = c :: tail ∧ isSpace c = false ∧ c ≠ ']' := by
  cases h with
  | last h hblanks =>
    obtain ⟨c, tail, rfl, hc⟩ := exists_cons_of_spells h
    exact ⟨c, _, rfl, hc⟩
  | cons h hbefore hafter hrest =>
    obtain ⟨c, tail, rfl, hc⟩ := exists_cons_of_spells h
    exact ⟨c, _, rfl, hc⟩

theorem exists_cons_of_spellsMembers {members : List (String × Json)} {cs : List Char}
    (h : SpellsMembers members cs) : ∃ tail, cs = '"' :: tail := by
  cases h with
  | last h hblanks =>
    cases h
    exact ⟨_, rfl⟩
  | cons h hbefore hafter hrest =>
    cases h
    exact ⟨_, rfl⟩

/-! ## What stands behind a document -/

theorem endsNumber_of_isSpaces {blanks : List Char} (hblanks : IsSpaces blanks) :
    EndsNumber blanks := by
  intro c hc
  have hspace := hblanks c (List.mem_of_mem_head? hc)
  simp only [isSpace, Bool.or_eq_true, beq_iff_eq] at hspace
  rcases hspace with ((rfl | rfl) | rfl) | rfl <;> decide

/-- Blanks and then a character that ends numbers. -/
theorem endsNumber_append {blanks : List Char} (hblanks : IsSpaces blanks) {c : Char}
    (hc : c = ',' ∨ c = ']' ∨ c = '\x7d') (rest : List Char) :
    EndsNumber (blanks ++ c :: rest) := by
  cases blanks with
  | nil =>
    rintro d ⟨⟩
    rcases hc with rfl | rfl | rfl <;> decide
  | cons b blanks =>
    rintro d ⟨⟩
    exact endsNumber_of_isSpaces hblanks b rfl

/-! ## Reading -/

theorem readValue?_of_isNumber {cs rest : List Char} (h : IsNumber cs) (hrest : EndsNumber rest)
    (fuel : Nat) :
    readValue? (fuel + 1) (cs ++ rest) = some (.number (String.ofList cs), rest) := by
  have hread := readNumberLexeme?_append h hrest
  obtain ⟨c, tail, rfl, hc⟩ := exists_cons_of_isNumber h
  have hne : c ∉ ['n', 't', 'f', '"', '[', '\x7b'] := notMem_of_isNumber_head hc (by decide)
  simp only [List.mem_cons, List.not_mem_nil, or_false, not_or] at hne
  rw [List.cons_append] at hread ⊢
  simp [readValue?, hne, hread]

/-- After a member the object ends with a brace, or goes on after a comma. -/
theorem readMembers?_member {key before after cs tail rest : List Char} {value : Json}
    {fuel : Nat} (hkey : IsLexeme key) (hbefore : IsSpaces before) (hafter : IsSpaces after)
    (hvalue : Spells value cs) (hread : readValue? fuel (cs ++ tail) = some (value, tail)) :
    let text := '"' :: (key ++ '"' :: (before ++ ':' :: (after ++ (cs ++ tail))))
    (skipSpace tail = '\x7d' :: rest →
      readMembers? (fuel + 1) text = some ([(String.ofList key, value)], rest)) ∧
    ∀ members more, skipSpace tail = ',' :: more →
      readMembers? fuel (skipSpace more) = some (members, rest) →
      readMembers? (fuel + 1) text = some ((String.ofList key, value) :: members, rest) := by
  intro text
  have hlexeme := readLexeme?_append hkey (before ++ ':' :: (after ++ (cs ++ tail)))
  have hcolon : skipSpace (before ++ ':' :: (after ++ (cs ++ tail))) =
      ':' :: (after ++ (cs ++ tail)) :=
    skipSpace_append hbefore (by rintro c ⟨⟩; decide)
  have hskip : skipSpace (after ++ (cs ++ tail)) = cs ++ tail :=
    skipSpace_append hafter (startsToken_of_spells hvalue tail)
  constructor
  · intro hend
    rw [readMembers?, hlexeme]
    simp only [hcolon, hskip, hread, hend]
  · intro members more hcomma hmore
    rw [readMembers?, hlexeme]
    simp only [hcolon, hskip, hread, hcomma, hmore, Option.map_some]

mutual

/-- **Every spelling of a document is read**, whatever stands behind it, unless it would go on
with a number. -/
theorem readValue?_of_spells {j : Json} {cs rest : List Char} {fuel : Nat} (h : Spells j cs)
    (hfuel : cs.length < fuel) (hrest : EndsNumber rest) :
    readValue? fuel (cs ++ rest) = some (j, rest) := by
  obtain ⟨fuel, rfl⟩ : ∃ n, fuel = n + 1 := ⟨fuel - 1, by omega⟩
  cases h with
  | null => simp [readValue?]
  | true => simp [readValue?]
  | false => simp [readValue?]
  | number h => exact readValue?_of_isNumber h hrest fuel
  | string h =>
    have hread := readLexeme?_append h rest
    simp [readValue?, hread]
  | @emptyList blanks hblanks =>
    have hskip : skipSpace (blanks ++ ']' :: rest) = ']' :: rest :=
      skipSpace_append hblanks (by rintro c ⟨⟩; decide)
    simp [readValue?, hskip]
  | @list blanks cs items hblanks h =>
    rw [List.length_cons, List.length_append] at hfuel
    have hread : readItems? fuel (cs ++ rest) = some (items, rest) :=
      readItems?_of_spells h (by omega)
    obtain ⟨c, tail, heq, hspace, hbracket⟩ := exists_cons_of_spellsItems h
    have hskip : skipSpace (blanks ++ (cs ++ rest)) = cs ++ rest :=
      skipSpace_append hblanks (by rw [heq]; rintro d ⟨⟩; exact hspace)
    rw [heq, List.cons_append] at hskip hread
    rw [heq]
    simp [readValue?, hskip, hbracket, hread]
  | @emptyObject blanks hblanks =>
    have hskip : skipSpace (blanks ++ '\x7d' :: rest) = '\x7d' :: rest :=
      skipSpace_append hblanks (by rintro c ⟨⟩; decide)
    simp [readValue?, hskip]
  | @object blanks cs members hblanks h =>
    rw [List.length_cons, List.length_append] at hfuel
    have hread : readMembers? fuel (cs ++ rest) = some (members, rest) :=
      readMembers?_of_spells h (by omega)
    obtain ⟨tail, heq⟩ := exists_cons_of_spellsMembers h
    have hskip : skipSpace (blanks ++ (cs ++ rest)) = cs ++ rest :=
      skipSpace_append hblanks (by rw [heq]; rintro d ⟨⟩; decide)
    rw [heq, List.cons_append] at hskip hread
    rw [heq]
    simp [readValue?, hskip, hread]
  termination_by cs.length

/-- The items of a list are read with their closing bracket. -/
theorem readItems?_of_spells {items : List Json} {cs rest : List Char} {fuel : Nat}
    (h : SpellsItems items cs) (hfuel : cs.length < fuel) :
    readItems? fuel (cs ++ rest) = some (items, rest) := by
  obtain ⟨fuel, rfl⟩ : ∃ n, fuel = n + 1 := ⟨fuel - 1, by omega⟩
  cases h with
  | @last item cs blanks h hblanks =>
    rw [List.length_append, List.length_append, List.length_singleton] at hfuel
    have hread : readValue? fuel (cs ++ (blanks ++ ']' :: rest)) =
        some (item, blanks ++ ']' :: rest) :=
      readValue?_of_spells h (by omega) (endsNumber_append hblanks (by simp) rest)
    have hskip : skipSpace (blanks ++ ']' :: rest) = ']' :: rest :=
      skipSpace_append hblanks (by rintro c ⟨⟩; decide)
    simp [readItems?, hread, hskip]
  | @cons item items cs before after ds h hbefore hafter hrest =>
    rw [List.length_append, List.length_append, List.length_cons, List.length_append] at hfuel
    have hread : readValue? fuel (cs ++ (before ++ ',' :: (after ++ (ds ++ rest)))) =
        some (item, before ++ ',' :: (after ++ (ds ++ rest))) :=
      readValue?_of_spells h (by omega) (endsNumber_append hbefore (by simp) _)
    have hmore : readItems? fuel (ds ++ rest) = some (items, rest) :=
      readItems?_of_spells hrest (by omega)
    have hcomma : skipSpace (before ++ ',' :: (after ++ (ds ++ rest))) =
        ',' :: (after ++ (ds ++ rest)) :=
      skipSpace_append hbefore (by rintro c ⟨⟩; decide)
    obtain ⟨c, tail, heq, hspace, -⟩ := exists_cons_of_spellsItems hrest
    have hskip : skipSpace (after ++ (ds ++ rest)) = ds ++ rest :=
      skipSpace_append hafter (by rw [heq]; rintro d ⟨⟩; exact hspace)
    simp [readItems?, hread, hcomma, hskip, hmore]
  termination_by cs.length

/-- The members of an object are read with their closing brace. -/
theorem readMembers?_of_spells {members : List (String × Json)} {cs rest : List Char}
    {fuel : Nat} (h : SpellsMembers members cs) (hfuel : cs.length < fuel) :
    readMembers? fuel (cs ++ rest) = some (members, rest) := by
  obtain ⟨fuel, rfl⟩ : ∃ n, fuel = n + 1 := ⟨fuel - 1, by omega⟩
  cases h with
  | @last member cs blanks h hblanks =>
    cases h with
    | @mk key text before after value hkey hbefore hafter h =>
      simp only [List.length_append, List.length_cons] at hfuel
      have hread : readValue? fuel (text ++ (blanks ++ '\x7d' :: rest)) =
          some (value, blanks ++ '\x7d' :: rest) :=
        readValue?_of_spells h (by omega) (endsNumber_append hblanks (by simp) rest)
      have hskip : skipSpace (blanks ++ '\x7d' :: rest) = '\x7d' :: rest :=
        skipSpace_append hblanks (by rintro c ⟨⟩; decide)
      have hmember := (readMembers?_member hkey hbefore hafter h hread).1 hskip
      simpa using hmember
  | @cons member members cs before after ds h hbefore hafter hrest =>
    cases h with
    | @mk key text front back value hkey hfront hback h =>
      simp only [List.length_append, List.length_cons] at hfuel
      have hread : readValue? fuel (text ++ (before ++ ',' :: (after ++ (ds ++ rest)))) =
          some (value, before ++ ',' :: (after ++ (ds ++ rest))) :=
        readValue?_of_spells h (by omega) (endsNumber_append hbefore (by simp) _)
      have hmore : readMembers? fuel (ds ++ rest) = some (members, rest) :=
        readMembers?_of_spells hrest (by omega)
      have hcomma : skipSpace (before ++ ',' :: (after ++ (ds ++ rest))) =
          ',' :: (after ++ (ds ++ rest)) :=
        skipSpace_append hbefore (by rintro c ⟨⟩; decide)
      obtain ⟨tail, heq⟩ := exists_cons_of_spellsMembers hrest
      have hskip : skipSpace (after ++ (ds ++ rest)) = ds ++ rest :=
        skipSpace_append hafter (by rw [heq]; rintro d ⟨⟩; decide)
      rw [← hskip] at hmore
      have hmember := (readMembers?_member hkey hfront hback h hread).2 members _ hcomma hmore
      simpa using hmember
  termination_by cs.length

end

/-- **Every spelling of a document is read as that document**, also between blanks. -/
theorem read?_of_spells {j : Json} {text : String} {before cs after : List Char}
    (h : Spells j cs) (hbefore : IsSpaces before) (hafter : IsSpaces after)
    (htext : text.toList = before ++ (cs ++ after)) : read? text = some j := by
  have hskip : skipSpace text.toList = cs ++ after := by
    rw [htext]
    exact skipSpace_append hbefore (startsToken_of_spells h after)
  have hend : skipSpace (after ++ []) = [] := skipSpace_append hafter (by rintro c ⟨⟩)
  rw [List.append_nil] at hend
  have hfuel : cs.length < text.toList.length + 1 := by
    rw [htext, List.length_append, List.length_append]
    omega
  rw [read?, hskip, readValue?_of_spells h hfuel (endsNumber_of_isSpaces hafter)]
  dsimp only
  rw [if_pos hend]

end CityScript.Json
