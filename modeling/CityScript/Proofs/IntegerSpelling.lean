/-
Integers between scripts and numbers.

An integer may be spelled in many ways, with a sign or without, with zeros in front of
its digits and with blanks around it, and it is written in one. Between the two it is a
binary number. Up to the bound for integers nothing is lost on that way: the number has
exactly the value of the integer, so it is written as the integer, by its digits and
with a minus only if it is less than zero. What is written is one of the spellings, so it
is read as the integer again. In the other direction a number is taken for an integer
only if it is one exactly, and therefore two integers never share a number.

Spellings have their value from the standard library's reading of digits, and numbers
theirs as a rational, so neither depends on the readers and writers that it is compared
with.
-/
import Mathlib.Data.Rat.Cast.Order
import CityScript.Json.Writer
import CityScript.Proofs.PaddedLines
import CityScript.Proofs.WrittenCalls

set_option autoImplicit false

namespace CityScript

/-! ## Spellings -/

/-- A decimal spelling of an integer: a sign or none, digits, and blanks around them. -/
structure IntegerSpelling where
  front : List Char
  sign : Sign
  digits : List Char
  back : List Char
  front_blank : ∀ c ∈ front, Text.isBlank c = true
  digits_ne_nil : digits ≠ []
  digit : ∀ c ∈ digits, c.isDigit = true
  back_blank : ∀ c ∈ back, Text.isBlank c = true

namespace IntegerSpelling

/-- A spelling as a script has it. -/
def text (w : IntegerSpelling) : List Char := w.front ++ (w.sign.text ++ w.digits) ++ w.back

/-- The integer that is spelled. -/
def value (w : IntegerSpelling) : Int :=
  if w.sign = .minus then -(Nat.ofDigitChars 10 w.digits 0 : Int)
  else Nat.ofDigitChars 10 w.digits 0

theorem natAbs_value (w : IntegerSpelling) : w.value.natAbs = Nat.ofDigitChars 10 w.digits 0 := by
  unfold value
  split <;> omega

/-! ## The canonical spelling -/

/-- The spelling with nothing to spare: no blanks, a minus in front of a number less than
zero and no other sign, and no zero in front of another digit. -/
structure IsCanonical (w : IntegerSpelling) : Prop where
  front_eq : w.front = []
  sign_eq : w.sign = if w.value < 0 then .minus else .none
  digits_eq : w.digits.head? = some '0' → w.digits = ['0']
  back_eq : w.back = []

/-- A digit is the digit of its value. -/
theorem digitChar_toNat_sub {c : Char} (hdigit : c.isDigit = true) :
    c.toNat - '0'.toNat < 10 ∧ (c.toNat - '0'.toNat).digitChar = c := by
  rw [Char.isDigit, Bool.and_eq_true, decide_eq_true_eq, decide_eq_true_eq] at hdigit
  have hlow : '0'.toNat ≤ c.toNat := hdigit.1
  have hhigh : c.toNat ≤ '0'.toNat + 9 := hdigit.2
  have hvalue : c.toNat - '0'.toNat < 10 := by omega
  refine ⟨hvalue, Char.toNat_inj.mp ?_⟩
  rw [Nat.toNat_digitChar_of_lt_ten hvalue]
  exact Nat.add_sub_cancel' hlow

/-- Digits that are read on from a number are written behind it. -/
theorem toDigits_append {n : Nat} (hn : 0 < n) {digits : List Char}
    (hdigits : ∀ c ∈ digits, c.isDigit = true) :
    Nat.toDigits 10 n ++ digits = Nat.toDigits 10 (Nat.ofDigitChars 10 digits n) := by
  induction digits generalizing n with
  | nil => rw [List.append_nil, Nat.ofDigitChars_nil]
  | cons c digits ih =>
    obtain ⟨hc, hrest⟩ := List.forall_mem_cons.mp hdigits
    obtain ⟨hvalue, hchar⟩ := digitChar_toNat_sub hc
    have hnext := Nat.toDigits_append_toDigits (b := 10) (by decide) hn hvalue
    rw [Nat.toDigits_of_lt_base hvalue, hchar] at hnext
    rw [Nat.ofDigitChars_cons, ← ih (by omega) hrest, ← hnext, List.append_assoc,
      List.singleton_append]

/-- **Digits without a zero to spare** are the digits of their value. -/
theorem toDigits_ofDigitChars {digits : List Char} (hne : digits ≠ [])
    (hdigits : ∀ c ∈ digits, c.isDigit = true)
    (hzero : digits.head? = some '0' → digits = ['0']) :
    Nat.toDigits 10 (Nat.ofDigitChars 10 digits 0) = digits := by
  obtain ⟨c, rest, rfl⟩ := List.exists_cons_of_ne_nil hne
  by_cases hc : c = '0'
  · rw [hzero (congrArg some hc)]
    rfl
  · obtain ⟨hdigit, hrest⟩ := List.forall_mem_cons.mp hdigits
    obtain ⟨hvalue, hchar⟩ := digitChar_toNat_sub hdigit
    have hpos : 0 < c.toNat - '0'.toNat := by
      refine Nat.pos_of_ne_zero fun h => hc ?_
      rw [← hchar, h]
      rfl
    rw [Nat.ofDigitChars_cons, Nat.mul_zero, Nat.zero_add, ← toDigits_append hpos hrest,
      Nat.toDigits_of_lt_base hvalue, hchar, List.singleton_append]

/-- **The text of an integer** is its one canonical spelling. -/
theorem IsCanonical.text_eq {w : IntegerSpelling} (h : w.IsCanonical) :
    w.text = (toString w.value).toList := by
  have hdigits : Layout.digitsOf w.value.natAbs = w.digits := by
    rw [natAbs_value]
    exact toDigits_ofDigitChars w.digits_ne_nil w.digit h.digits_eq
  rw [toList_toString_int, hdigits, text, h.front_eq, h.sign_eq, h.back_eq]
  split <;> simp [Sign.text]

/-- The canonical spelling of an integer. -/
def canonical (i : Int) : IntegerSpelling where
  front := []
  sign := if i < 0 then .minus else .none
  digits := Nat.toDigits 10 i.natAbs
  back := []
  front_blank := by simp
  digits_ne_nil := Nat.toDigits_ne_nil
  digit := fun _ => isDigit_of_mem_digitsOf
  back_blank := by simp

@[simp] theorem value_canonical (i : Int) : (canonical i).value = i := by
  unfold value canonical
  dsimp only
  rw [Nat.ofDigitChars_ten_toDigits]
  by_cases hi : i < 0
  · simp only [hi, if_true]
    omega
  · simp only [hi, if_false, reduceCtorEq]
    omega

theorem isCanonical_canonical (i : Int) : (canonical i).IsCanonical where
  front_eq := rfl
  sign_eq := by rw [value_canonical, canonical]
  digits_eq := toDigits_eq_zero_of_head? i.natAbs
  back_eq := rfl

end IntegerSpelling

/-! ## The exact value of a number -/

namespace Binary64

/-- The value of a number, which only a finite number has. -/
def toRat? : Binary64 → Option ℚ
  | .finite negative significand scale _ =>
    let magnitude : ℚ := (significand * Nat.pow 2 scale : Nat) / (unitsPerOne : Nat)
    some (if negative then -magnitude else magnitude)
  | _ => none

section Finite

variable {negative : Bool} {significand scale : Nat} {canonical : Canonical significand scale}

/-- A number whose units are whole ones has the value of that many ones. -/
theorem toRat?_finite {v : Nat} (hunits : significand * 2 ^ scale = v * unitsPerOne) :
    (finite negative significand scale canonical).toRat? =
      some (if negative then -(v : ℚ) else v) := by
  have hone : ((unitsPerOne : Nat) : ℚ) ≠ 0 := Nat.cast_ne_zero.mpr unitsPerOne_pos.ne'
  unfold toRat?
  dsimp only
  rw [Nat.pow_eq, hunits, Nat.cast_mul, mul_div_cancel_right₀ _ hone]

/-- A number with the value of an integer has as many units as that integer has, and its
sign. -/
theorem units_of_toRat? {i : Int}
    (h : (finite negative significand scale canonical).toRat? = some (i : ℚ)) :
    significand * 2 ^ scale = i.natAbs * unitsPerOne ∧
      i = if negative then -(i.natAbs : Int) else i.natAbs := by
  have hone : (0 : ℚ) < (unitsPerOne : Nat) := Nat.cast_pos.mpr unitsPerOne_pos
  have hnonneg : (0 : ℚ) ≤ (significand * Nat.pow 2 scale : Nat) / (unitsPerOne : Nat) :=
    div_nonneg (Nat.cast_nonneg _) hone.le
  have hvalue := Option.some.inj h
  -- without its sign the value is the absolute value of the integer
  have habs : ((significand * Nat.pow 2 scale : Nat) : ℚ) / (unitsPerOne : Nat) = i.natAbs := by
    rw [Nat.cast_natAbs, Int.cast_abs, ← hvalue]
    split
    · rw [abs_neg, abs_of_nonneg hnonneg]
    · rw [abs_of_nonneg hnonneg]
  rw [habs] at hvalue
  rw [div_eq_iff hone.ne', Nat.pow_eq] at habs
  refine ⟨by exact_mod_cast habs, Int.cast_inj.mp (hvalue.symm.trans ?_)⟩
  split
  · rw [Int.cast_neg, Int.cast_natCast]
  · rw [Int.cast_natCast]

end Finite

/-- **A number is taken for an integer exactly if it is one**, of absolute value below the
bound. -/
theorem toInt?_eq_some_iff (n : Binary64) (i : Int) :
    n.toInt? = some i ↔ n.toRat? = some (i : ℚ) ∧ i.natAbs < integerBound := by
  constructor
  · intro h
    obtain ⟨negative, significand, scale, canonical, rfl, hunits, hbound, hsign⟩ :=
      eq_finite_of_toInt? h
    refine ⟨?_, hbound⟩
    rw [toRat?_finite hunits]
    nth_rewrite 3 [hsign]
    split <;> simp
  · rintro ⟨h, hbound⟩
    cases n with
    | nan => cases h
    | infinite negative => cases h
    | finite negative significand scale canonical =>
      obtain ⟨hunits, hsign⟩ := units_of_toRat? h
      rw [toInt?_finite hunits hbound, ← hsign]

end Binary64

/-! ## There and back -/

namespace Value

variable {n : Binary64} {i : Int}

/-- A number that is an integer is written as that integer. -/
theorem render_of_toInt? (h : n.toInt? = some i) : (number n).render = toString i := by
  rw [render, renderNumber, h]

/-- It is the same in a document. -/
theorem toJson_of_toInt? (h : n.toInt? = some i) : (number n).toJson = .ofInt i := by
  rw [toJson, numberToJson, h]

end Value

namespace IntegerSpelling

/-- **A spelling is read as its integer**, if that is below the bound. -/
theorem read_text (w : IntegerSpelling) (hbound : w.value.natAbs < Binary64.integerBound) :
    ∃ n, Value.read w.text = .number n ∧ n.toInt? = some w.value := by
  have hdigits : natOfDigits w.digits < Binary64.integerBound := by
    rw [natOfDigits_eq, ← natAbs_value]
    exact hbound
  -- without the blanks the spelling is an integer literal
  have hspells := (Literal.integer w.sign w.digits w.digits_ne_nil w.digit hdigits).spells
  have htrim : Text.trim (w.sign.text ++ w.digits) = w.sign.text ++ w.digits :=
    hspells.isToken.trim_eq
  refine ⟨.ofRatio w.sign.isNegative (natOfDigits w.digits) 1, ?_, ?_⟩
  · rw [Value.read, text, Text.trim_pad w.front_blank w.back_blank, htrim]
    exact hspells.ofTrimmed_eq
  · rw [Binary64.toInt?_ofRatio_one hdigits, natOfDigits_eq, value]
    cases w.sign <;> rfl

/-- What becomes of a spelling that is read as a number: the number is the integer, exactly,
it is written canonically, in a script and in a document, on one line and at any depth, and
what is written is read as the integer again. -/
structure Survives (w : IntegerSpelling) (n : Binary64) : Prop where
  read_eq : Value.read w.text = .number n
  toInt?_eq : (Value.number n).toInt? = some w.value
  toRat?_eq : n.toRat? = some (w.value : ℚ)
  render_eq : (Value.number n).render = toString w.value
  compact_eq : (Value.number n).toJson.compact = toString w.value
  prettyAt_eq : ∀ level, (Value.number n).toJson.prettyAt level = toString w.value
  read_again : (Value.read (toString w.value).toList).toInt? = some w.value

/-- **Every spelling of an integer below the bound survives.** -/
theorem exists_survives (w : IntegerSpelling) (hbound : w.value.natAbs < Binary64.integerBound) :
    ∃ n, w.Survives n := by
  obtain ⟨n, hread, hint⟩ := w.read_text hbound
  obtain ⟨again, hread', hint'⟩ := (canonical w.value).read_text (by rwa [value_canonical])
  have htext := (isCanonical_canonical w.value).text_eq
  rw [value_canonical] at htext hint'
  have hjson := Value.toJson_of_toInt? hint
  refine ⟨n, hread, hint, ((n.toInt?_eq_some_iff w.value).mp hint).1,
    Value.render_of_toInt? hint, ?_, ?_, ?_⟩
  · rw [hjson, Json.ofInt, Json.compact]
  · intro level
    rw [hjson, Json.ofInt, Json.prettyAt]
  · rw [← htext, hread']
    exact hint'

end IntegerSpelling

/-- **Integers survive the binary format.** Each integer has one canonical spelling, which is
its text. A spelling of an integer of absolute value below `9.0e15` is read as a number that
is this integer exactly, that is written canonically, and whose text is read as the integer
again. A value is taken for an integer exactly if it is a number that is this integer, of
absolute value below `9.0e15`, so spellings of different integers are never read as one
value. -/
theorem Value.integers_survive :
    (∀ i : Int, ∃ c : IntegerSpelling, c.IsCanonical ∧ c.value = i) ∧
      (∀ c : IntegerSpelling, c.IsCanonical → c.text = (toString c.value).toList) ∧
      (∀ i : Int, i.natAbs < 9000000000000000 →
        ∀ w : IntegerSpelling, w.value = i → ∃ n, w.Survives n) ∧
      (∀ (v : Value) (i : Int), v.toInt? = some i ↔
        ∃ n, v = .number n ∧ n.toRat? = some (i : ℚ) ∧ i.natAbs < 9000000000000000) ∧
      ∀ w w' : IntegerSpelling, w.value.natAbs < 9000000000000000 →
        w'.value.natAbs < 9000000000000000 → Value.read w.text = Value.read w'.text →
          w.value = w'.value := by
  refine ⟨?_, fun c hc => hc.text_eq, ?_, ?_, ?_⟩
  · intro i
    exact ⟨.canonical i, IntegerSpelling.isCanonical_canonical i, IntegerSpelling.value_canonical i⟩
  · rintro i hbound w rfl
    exact w.exists_survives hbound
  · intro v i
    constructor
    · intro h
      cases v with
      | number n => exact ⟨n, rfl, (n.toInt?_eq_some_iff i).mp h⟩
      | null => cases h
      | bool b => cases h
      | text s => cases h
    · rintro ⟨n, rfl, hvalue⟩
      exact (n.toInt?_eq_some_iff i).mpr hvalue
  · intro w w' hbound hbound' hread
    obtain ⟨n, hsurvives⟩ := w.exists_survives hbound
    obtain ⟨n', hsurvives'⟩ := w'.exists_survives hbound'
    rw [hsurvives.read_eq, hsurvives'.read_eq] at hread
    have hint := hsurvives.toInt?_eq
    rw [hread, hsurvives'.toInt?_eq] at hint
    exact (Option.some.inj hint).symm

/-- The least integer that survives, with zeros in front of it and blanks around it. -/
theorem Value.integers_survive_least :
    ∃ w : IntegerSpelling, w.text = "	 -0008999999999999999 ".toList ∧
      w.value = -8999999999999999 ∧ w.value.natAbs < 9000000000000000 ∧
      ∃ n, Value.read "	 -0008999999999999999 ".toList = .number n ∧
        (Value.number n).toInt? = some (-8999999999999999) ∧
        (Value.number n).render = "-8999999999999999" ∧
        (Value.number n).toJson.compact = "-8999999999999999" ∧
        (Value.read "-8999999999999999".toList).toInt? = some (-8999999999999999) := by
  let w : IntegerSpelling := ⟨"	 ".toList, .minus, "0008999999999999999".toList, " ".toList,
    List.all_eq_true.mp (by decide), by decide, List.all_eq_true.mp (by decide),
    List.all_eq_true.mp (by decide)⟩
  have htext : w.text = "	 -0008999999999999999 ".toList := by decide
  have hvalue : w.value = -8999999999999999 := by decide
  have hwritten : toString (-8999999999999999 : Int) = "-8999999999999999" := by decide
  obtain ⟨n, h⟩ := integers_survive.2.2.1 _ (by decide) w hvalue
  obtain ⟨hread, hint, -, hrender, hcompact, -, hagain⟩ := h
  rw [htext] at hread
  rw [hvalue, hwritten] at hrender hcompact hagain
  rw [hvalue] at hint
  exact ⟨w, htext, hvalue, by rw [hvalue]; decide, n, hread, hint, hrender, hcompact,
    hagain⟩

end CityScript
