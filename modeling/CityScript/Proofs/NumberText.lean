/-
The characters of a number as a script writes it.

A number is written with digits, a sign and a point, and what is no finite number
with letters. So whatever number an argument is, its text has no quotes, brackets,
commas or blanks, and none of the marks that a line is cut at.
-/
import Mathlib.Data.List.Basic
import CityScript.Script.Value

set_option autoImplicit false

namespace CityScript

/-- The characters of the text of a number. -/
def isNumberChar (c : Char) : Bool := c.isAlphanum || c == '-' || c == '.'

theorem isNumberChar_of_isDigit {c : Char} (h : c.isDigit = true) : isNumberChar c = true := by
  simp [isNumberChar, Char.isAlphanum, h]

/-! ## Integers -/

/-- The digits of a whole number are digits. -/
theorem isDigit_of_mem_digitsOf {n : Nat} {c : Char} (h : c ∈ Layout.digitsOf n) :
    c.isDigit = true :=
  Nat.isDigit_of_mem_toDigits (by decide) (by decide) h

/-- The digits of a number have no zero to spare. -/
theorem toDigits_eq_zero_of_head? (n : Nat) (h : (Nat.toDigits 10 n).head? = some '0') :
    Nat.toDigits 10 n = ['0'] := by
  induction n using Nat.strongRecOn with
  | ind n ih =>
    by_cases hn : n < 10
    · rw [Nat.toDigits_of_lt_base hn] at h ⊢
      rw [Option.some.inj h]
    · -- the first digit is the one of the quotient, which is not zero
      rw [Nat.toDigits_of_base_le (by decide) (by omega),
        List.head?_append_of_ne_nil _ Nat.toDigits_ne_nil] at h
      have hquotient : n / 10 = 0 := by
        rw [← Nat.ofDigitChars_ten_toDigits (n := n / 10), ih (n / 10) (by omega) h]
        rfl
      omega

/-- An integer is written by its digits, after a minus if it is negative. -/
theorem toList_toString_int (i : Int) :
    (toString i).toList =
      if i < 0 then '-' :: Layout.digitsOf i.natAbs else Layout.digitsOf i.natAbs := by
  rw [Int.toString_eq_repr, Int.repr_eq_if]
  by_cases hi : i < 0
  · have hneg : ¬ 0 ≤ i := by omega
    have habs : (-i).toNat = i.natAbs := by omega
    rw [if_neg hneg, if_pos hi, habs, String.toList_append, Nat.toList_repr]
    rfl
  · have hpos : 0 ≤ i := by omega
    have habs : i.toNat = i.natAbs := by omega
    rw [if_pos hpos, if_neg hi, habs, Nat.toList_repr]
    rfl

theorem isNumberChar_of_mem_toString {i : Int} {c : Char} (h : c ∈ (toString i).toList) :
    isNumberChar c = true := by
  rw [toList_toString_int] at h
  split at h
  · rcases List.mem_cons.mp h with rfl | h
    · decide
    · exact isNumberChar_of_isDigit (isDigit_of_mem_digitsOf h)
  · exact isNumberChar_of_isDigit (isDigit_of_mem_digitsOf h)

/-! ## Numbers with a fraction -/

/-- A number that is written positionally has digits and a point. -/
theorem isNumberChar_of_mem_writePositional {digits : List Char}
    (hdigits : ∀ c ∈ digits, c.isDigit = true) (exponent : Int) {c : Char}
    (h : c ∈ Layout.writePositional [] digits exponent) : isNumberChar c = true := by
  have hdigit : ∀ {d : Char}, d ∈ digits → isNumberChar d = true :=
    fun hd => isNumberChar_of_isDigit (hdigits _ hd)
  have hzero : ∀ {n : Nat} {d : Char}, d ∈ List.replicate n '0' → isNumberChar d = true := by
    intro n d hd
    rw [List.eq_of_mem_replicate hd]
    decide
  unfold Layout.writePositional at h
  split at h
  · rw [List.append_nil] at h
    rcases List.mem_append.mp h with h | h
    · exact hdigit h
    · exact hzero h
  · dsimp only at h
    split at h
    · rcases List.mem_append.mp h with h | h
      · exact hdigit (List.mem_of_mem_take h)
      · rcases List.mem_cons.mp h with rfl | h
        · decide
        · exact hdigit (List.mem_of_mem_drop h)
    · rcases List.mem_cons.mp h with rfl | h
      · decide
      · rcases List.mem_cons.mp h with rfl | h
        · decide
        · rcases List.mem_append.mp h with h | h
          · exact hzero h
          · exact hdigit h

theorem isNumberChar_of_mem_plainText {n : Binary64} {c : Char} (h : c ∈ n.plainText.toList) :
    isNumberChar c = true := by
  have hwords : ∀ word ∈ ["NaN", "-inf", "inf"], word.toList.all isNumberChar = true := by
    decide
  cases n with
  | nan => exact List.all_eq_true.mp (hwords "NaN" (by simp)) c h
  | infinite negative =>
    cases negative
    · exact List.all_eq_true.mp (hwords "inf" (by simp)) c h
    · exact List.all_eq_true.mp (hwords "-inf" (by simp)) c h
  | finite negative significand scale canonical =>
    rw [Binary64.plainText, String.toList_ofList] at h
    -- plain text is positional at every place
    have hdecimal : ∀ {d : Char}, d ∈ Layout.plain.writeDecimal
        (shortestDecimal Layout.plain.tie significand scale) → isNumberChar d = true :=
      isNumberChar_of_mem_writePositional (fun _ => isDigit_of_mem_digitsOf) _
    unfold Layout.writeFinite at h
    dsimp only at h
    split at h
    · rcases List.mem_cons.mp h with rfl | h
      · decide
      · exact hdecimal h
    · exact hdecimal h

/-- **The text of a number** has letters, digits, signs and points only. -/
theorem isNumberChar_of_mem_renderNumber {n : Binary64} {c : Char}
    (h : c ∈ (Value.renderNumber n).toList) : isNumberChar c = true := by
  unfold Value.renderNumber at h
  split at h
  · exact isNumberChar_of_mem_toString h
  · exact isNumberChar_of_mem_plainText h

end CityScript
