/-
Integers through the binary format.

Below the bound for integers every integer is a number of the format. Its leading
bit is at most the 52nd, so doubled up to 53 bits it is still whole, and rounding
finds a quotient without remainder. A number of the format has one significand and
one scale only, since all but the least scale ask for a set leading bit. So a number
that is an integer other than zero is determined by it, and zero has its two signs.

On the side of the text, a decimal spelling of an integer is read as that integer,
with leading zeros and a sign or without. The digits need not be few for that, because
leading zeros do not move the first digit that counts.
-/
import Mathlib.Data.List.TakeWhile
import Mathlib.Tactic.Ring
import CityScript.Proofs.NumberText

set_option autoImplicit false

namespace CityScript

namespace Binary64

/-! ## One significand, one scale -/

/-- **A number of the format is written in one way.** -/
theorem Canonical.unique {m s m' s' : Nat} (h : Canonical m s) (h' : Canonical m' s')
    (heq : m * 2 ^ s = m' * 2 ^ s') : m = m' ∧ s = s' := by
  -- with a greater scale the other significand would have more than 53 bits
  have hlt : ∀ {m s m' s' : Nat}, Canonical m s → Canonical m' s' → s < s' →
      m * 2 ^ s ≠ m' * 2 ^ s' := by
    intro m s m' s' h h' hss heq
    obtain ⟨hm, -, -⟩ := h
    obtain ⟨-, -, hlead⟩ := h'
    rw [Nat.pow_eq] at hm
    have hm' : 2 ^ 52 ≤ m' := by
      rcases hlead with hzero | hlead
      · omega
      · rwa [Nat.pow_eq] at hlead
    obtain ⟨k, rfl⟩ : ∃ k, s' = s + (k + 1) := ⟨s' - s - 1, by omega⟩
    have hm_eq : m = m' * 2 ^ (k + 1) := by
      refine Nat.eq_of_mul_eq_mul_right (Nat.two_pow_pos s) ?_
      rw [heq, Nat.pow_add]
      ring
    have hgrow : 2 ^ 52 * 2 ≤ m' * 2 ^ (k + 1) := by
      refine Nat.mul_le_mul hm' ?_
      calc 2 = 2 ^ 1 := rfl
        _ ≤ 2 ^ (k + 1) := Nat.pow_le_pow_right (by decide) (by omega)
    omega
  rcases Nat.lt_trichotomy s s' with hss | rfl | hss
  · exact absurd heq (hlt h h' hss)
  · exact ⟨Nat.eq_of_mul_eq_mul_right (Nat.two_pow_pos s) heq, rfl⟩
  · exact absurd heq.symm (hlt h' h hss)

/-! ## Integers are exact -/

/-- Doubling moves the leading bit. -/
theorem log2_mul_two_pow {v : Nat} (hv : v ≠ 0) (k : Nat) : (v * 2 ^ k).log2 = v.log2 + k := by
  have hne : v * 2 ^ k ≠ 0 := Nat.mul_ne_zero hv (Nat.two_pow_pos k).ne'
  rw [Nat.log2_eq_iff hne]
  constructor
  · rw [Nat.pow_add]
    exact Nat.mul_le_mul_right _ (Nat.log2_self_le hv)
  · rw [Nat.add_right_comm, Nat.pow_add]
    exact Nat.mul_lt_mul_of_pos_right Nat.lt_log2_self (Nat.two_pow_pos k)

theorem unitsPerOne_eq : unitsPerOne = 2 ^ 1074 := by decide +kernel

theorem unitsPerOne_pos : 0 < unitsPerOne := by decide +kernel

theorem log2_le_of_lt {v : Nat} (hv : v ≠ 0) (hbound : v < 2 ^ 53) : v.log2 ≤ 52 := by
  have h := (Nat.log2_lt hv).mpr hbound
  omega

/-- A whole number with its bits moved up to the 53rd, and the scale that moves them
back, stand for that number. -/
theorem significand_mul_scale {v : Nat} (hlog : v.log2 ≤ 52) :
    v * 2 ^ (52 - v.log2) * 2 ^ (v.log2 + 1022) = v * unitsPerOne := by
  have hexponent : 52 - v.log2 + (v.log2 + 1022) = 1074 := by omega
  calc v * 2 ^ (52 - v.log2) * 2 ^ (v.log2 + 1022)
      = v * 2 ^ (52 - v.log2 + (v.log2 + 1022)) := by rw [Nat.mul_assoc, ← Nat.pow_add]
    _ = v * unitsPerOne := by rw [hexponent, unitsPerOne_eq]

/-- **Whole numbers of at most 53 bits are exact.** -/
theorem ofRatio_one {v : Nat} (hv : v ≠ 0) (hbound : v < 2 ^ 53) (negative : Bool) :
    ∃ canonical, ofRatio negative v 1 =
      .finite negative (v * 2 ^ (52 - v.log2)) (v.log2 + 1022) canonical := by
  have hlog := log2_le_of_lt hv hbound
  have hscale : (v * unitsPerOne / 1).log2 - 52 = v.log2 + 1022 := by
    rw [Nat.div_one, unitsPerOne_eq, log2_mul_two_pow hv]
    omega
  have hround : roundDiv (v * unitsPerOne) (1 * Nat.pow 2 (v.log2 + 1022)) =
      v * 2 ^ (52 - v.log2) := by
    rw [← significand_mul_scale hlog, Nat.pow_eq, Nat.one_mul]
    exact roundDiv_mul _ _ (Nat.two_pow_pos _)
  have hlow : 2 ^ 52 ≤ v * 2 ^ (52 - v.log2) := by
    have hsum : v.log2 + (52 - v.log2) = 52 := by omega
    calc 2 ^ 52 = 2 ^ v.log2 * 2 ^ (52 - v.log2) := by rw [← Nat.pow_add, hsum]
      _ ≤ v * 2 ^ (52 - v.log2) := Nat.mul_le_mul_right _ (Nat.log2_self_le hv)
  have hhigh : v * 2 ^ (52 - v.log2) < 2 ^ 53 := by
    have hsum : v.log2 + 1 + (52 - v.log2) = 53 := by omega
    calc v * 2 ^ (52 - v.log2) < 2 ^ (v.log2 + 1) * 2 ^ (52 - v.log2) :=
          Nat.mul_lt_mul_of_pos_right Nat.lt_log2_self (Nat.two_pow_pos _)
      _ = 2 ^ 53 := by rw [← Nat.pow_add, hsum]
  have hcanonical : Canonical (v * 2 ^ (52 - v.log2)) (v.log2 + 1022) :=
    ⟨hhigh, by omega, .inr hlow⟩
  refine ⟨hcanonical, ?_⟩
  unfold ofRatio
  dsimp only
  rw [hscale, hround, Nat.pow_eq, if_neg (Nat.ne_of_lt hhigh)]
  exact pack_of_canonical hcanonical negative

theorem ofRatio_zero (negative : Bool) : ofRatio negative 0 1 = zero negative := by
  cases negative <;> decide +kernel

/-- The integer of a number whose units are whole ones. -/
theorem toInt?_finite {negative : Bool} {significand scale v : Nat}
    {canonical : Canonical significand scale}
    (hunits : significand * 2 ^ scale = v * unitsPerOne) (hbound : v < integerBound) :
    (finite negative significand scale canonical).toInt? =
      some (if negative then -(v : Int) else v) := by
  unfold toInt?
  dsimp only
  rw [Nat.pow_eq, hunits, Nat.mul_mod_left, Nat.mul_div_cancel v unitsPerOne_pos,
    if_pos ⟨rfl, hbound⟩]

/-- A number that is an integer has as many units as that integer has. -/
theorem eq_finite_of_toInt? {n : Binary64} {i : Int} (h : n.toInt? = some i) :
    ∃ negative significand scale canonical, n = finite negative significand scale canonical ∧
      significand * 2 ^ scale = i.natAbs * unitsPerOne ∧ i.natAbs < integerBound ∧
      i = if negative then -(i.natAbs : Int) else i.natAbs := by
  cases n with
  | nan => cases h
  | infinite negative => cases h
  | finite negative significand scale canonical =>
    unfold toInt? at h
    dsimp only at h
    rw [Nat.pow_eq] at h
    split at h
    · next hwhole =>
      obtain ⟨hmod, hbound⟩ := hwhole
      have habs : i.natAbs = significand * 2 ^ scale / unitsPerOne := by
        rw [← Option.some.inj h]
        cases negative
        · exact Int.natAbs_natCast _
        · exact (Int.natAbs_neg _).trans (Int.natAbs_natCast _)
      refine ⟨negative, significand, scale, canonical, rfl, ?_, by rw [habs]; exact hbound, ?_⟩
      · rw [habs]
        exact (Nat.div_mul_cancel (Nat.dvd_of_mod_eq_zero hmod)).symm
      · rw [habs]
        exact (Option.some.inj h).symm
    · cases h

/-- **Integers below the bound are exact**, with the sign that is asked for. -/
theorem toInt?_ofRatio_one {v : Nat} (hbound : v < integerBound) (negative : Bool) :
    (ofRatio negative v 1).toInt? = some (if negative then -(v : Int) else v) := by
  -- zero has no leading bit that could be moved up
  by_cases hv : v = 0
  · subst hv
    rw [ofRatio_zero]
    exact toInt?_finite (by simp) hbound
  · have hbits : v < 2 ^ 53 := Nat.lt_trans hbound (by decide)
    obtain ⟨canonical, hratio⟩ := ofRatio_one hv hbits negative
    rw [hratio]
    exact toInt?_finite (significand_mul_scale (log2_le_of_lt hv hbits)) hbound

/-- The number of an integer below the bound is that integer. -/
theorem toInt?_ofInt {i : Int} (hbound : i.natAbs < integerBound) :
    (ofInt i).toInt? = some i := by
  rw [ofInt, toInt?_ofRatio_one hbound]
  by_cases hi : i < 0
  · simp only [hi, decide_true, if_true, Option.some.injEq]
    omega
  · simp only [hi, decide_false, Bool.false_eq_true, if_false, Option.some.injEq]
    omega

/-- Both zeros are the integer zero. -/
theorem toInt?_zero (negative : Bool) : (zero negative).toInt? = some 0 := by
  rw [← ofRatio_zero, toInt?_ofRatio_one (by decide)]
  cases negative <;> rfl

/-- Only the two zeros are the integer zero. -/
theorem eq_zero_of_toInt? {n : Binary64} (h : n.toInt? = some 0) : ∃ negative, n = zero negative := by
  obtain ⟨negative, significand, scale, canonical, rfl, hunits, -, -⟩ := eq_finite_of_toInt? h
  obtain rfl : significand = 0 := by simpa using hunits
  -- without a leading bit the scale is the least one
  obtain rfl : scale = 0 := by
    rcases canonical.2.2 with hzero | hlead
    · exact hzero
    · exact absurd hlead (by decide)
  exact ⟨negative, rfl⟩

/-- **An integer other than zero has one number.** -/
theorem eq_of_toInt? {m n : Binary64} {i : Int} (hm : m.toInt? = some i) (hn : n.toInt? = some i)
    (hi : i ≠ 0) : m = n := by
  obtain ⟨negative, significand, scale, canonical, rfl, hunits, -, hsign⟩ := eq_finite_of_toInt? hm
  obtain ⟨negative', significand', scale', canonical', rfl, hunits', -, hsign'⟩ :=
    eq_finite_of_toInt? hn
  -- the units give significand and scale, and the integer has the sign
  obtain ⟨rfl, rfl⟩ := canonical.unique canonical' (by rw [hunits, hunits'])
  obtain rfl : negative = negative' := by
    cases negative <;> cases negative' <;> simp at hsign hsign' <;> first | rfl | omega
  rfl

end Binary64

/-! ## Decimal spellings -/

/-- The value of digits, as the standard library computes it. -/
theorem natOfDigits_eq (digits : List Char) : natOfDigits digits = Nat.ofDigitChars 10 digits 0 :=
  Nat.ofDigitChars_eq_foldl.symm

/-- The digits of a number have its value. -/
theorem natOfDigits_digitsOf (n : Nat) : natOfDigits (Layout.digitsOf n) = n := by
  rw [natOfDigits_eq]
  exact Nat.ofDigitChars_ten_toDigits

/-- Leading zeros do not count. -/
theorem natOfDigits_dropWhile (digits : List Char) :
    natOfDigits (digits.dropWhile (· = '0')) = natOfDigits digits := by
  induction digits with
  | nil => rfl
  | cons c digits ih =>
    by_cases hc : c = '0'
    · subst hc
      rw [List.dropWhile_cons_of_pos (by simp), ih]
      rfl
    · rw [List.dropWhile_cons_of_neg (by simpa using hc)]

/-- A first digit that is not zero makes a number as great as its place. -/
theorem pow_le_natOfDigits {c : Char} (hdigit : c.isDigit = true) (hc : c ≠ '0')
    (digits : List Char) : 10 ^ digits.length ≤ natOfDigits (c :: digits) := by
  have hvalue : 1 ≤ c.toNat - '0'.toNat := by
    rw [Char.isDigit, Bool.and_eq_true, decide_eq_true_eq] at hdigit
    have hlow : '0'.toNat ≤ c.toNat := hdigit.1
    have hne : c.toNat ≠ '0'.toNat := fun h => hc (Char.toNat_inj.mp h)
    omega
  rw [natOfDigits_eq, Nat.ofDigitChars_cons, Nat.mul_zero, Nat.zero_add,
    Nat.ofDigitChars_eq_ofDigitChars_zero]
  calc 10 ^ digits.length = 10 ^ digits.length * 1 := (Nat.mul_one _).symm
    _ ≤ 10 ^ digits.length * (c.toNat - '0'.toNat) := Nat.mul_le_mul_left _ hvalue
    _ ≤ _ := Nat.le_add_right _ _

/-- Digits of a number below the bound, without leading zeros, are few. -/
theorem length_dropWhile_le {digits : List Char} (hdigits : ∀ c ∈ digits, c.isDigit = true)
    (hbound : natOfDigits digits < Binary64.integerBound) :
    (digits.dropWhile (· = '0')).length ≤ 16 := by
  rw [← natOfDigits_dropWhile] at hbound
  cases hdrop : digits.dropWhile (· = '0') with
  | nil => simp
  | cons c rest =>
    have hmem : c ∈ digits := (List.dropWhile_sublist _).mem (hdrop ▸ List.mem_cons_self)
    have hc : c ≠ '0' := by
      have h := List.head?_dropWhile_not (fun d : Char => decide (d = '0')) digits
      rw [hdrop] at h
      simpa using h
    have hpow := pow_le_natOfDigits (hdigits c hmem) hc rest
    rw [hdrop] at hbound
    have hlt : 10 ^ rest.length < 10 ^ 16 := by
      refine Nat.lt_trans (Nat.lt_of_le_of_lt hpow hbound) (by decide)
    have hlength := (Nat.pow_lt_pow_iff_right (by decide)).mp hlt
    rw [List.length_cons]
    omega

/-- A digit is no sign. -/
theorem splitSign_cons_of_isDigit {d : Char} (hd : d.isDigit = true) (tail : List Char) :
    splitSign (d :: tail) = (false, d :: tail) := by
  unfold splitSign
  split
  · next heq =>
    cases heq
    exact absurd hd (by decide)
  · next heq =>
    cases heq
    exact absurd hd (by decide)
  · rfl

/-- Digits have no sign. -/
theorem splitSign_of_isDigit {digits : List Char} (hne : digits ≠ [])
    (hdigits : ∀ c ∈ digits, c.isDigit = true) : splitSign digits = (false, digits) := by
  cases digits with
  | nil => exact absurd rfl hne
  | cons d tail => exact splitSign_cons_of_isDigit (hdigits d List.mem_cons_self) tail

/-- **A spelling of an integer below the bound is read as it**: digits after a sign or
without one. -/
theorem readNumber?_of_splitSign {cs digits : List Char} {negative : Bool}
    (hsign : splitSign cs = (negative, digits)) (hne : digits ≠ [])
    (hdigits : ∀ c ∈ digits, c.isDigit = true)
    (hbound : natOfDigits digits < Binary64.integerBound) :
    readNumber? cs = some (.ofRatio negative (natOfDigits digits) 1) := by
  have htake : digits.takeWhile Char.isDigit = digits := List.takeWhile_eq_self_iff.mpr hdigits
  have hdrop : digits.dropWhile Char.isDigit = [] := List.dropWhile_eq_nil_iff.mpr hdigits
  have hread : Numeral.read? cs = some ⟨negative, digits, 0⟩ := by
    unfold Numeral.read?
    rw [hsign]
    dsimp only
    rw [htake, hdrop]
    simp [hne, Numeral.readExponent?]
  -- few digits count, so the place of the first is far inside the range of the format
  have hvalue : Numeral.toBinary64 ⟨negative, digits, 0⟩ =
      .ofRatio negative (natOfDigits digits) 1 := by
    have hlength := length_dropWhile_le hdigits hbound
    unfold Numeral.toBinary64
    dsimp only
    rw [natOfDigits_dropWhile]
    split
    · next h =>
      rcases h with hzero | hplace
      · rw [hzero, Binary64.ofRatio_zero]
      · rw [Numeral.bottomPlace] at hplace
        omega
    · split
      · next hplace =>
        rw [Numeral.topPlace] at hplace
        omega
      · simp
  have hfinite : (Binary64.ofRatio negative (natOfDigits digits) 1).isFinite = true := by
    obtain ⟨_, _, _, _, heq, -⟩ :=
      Binary64.eq_finite_of_toInt? (Binary64.toInt?_ofRatio_one hbound negative)
    rw [heq]
    rfl
  rw [readNumber?, hread, Option.map_some, hvalue]
  exact Option.filter_some_pos hfinite

/-- The text of an integer has a minus if it is negative, and no other sign. -/
theorem splitSign_toString (i : Int) :
    splitSign (toString i).toList = (decide (i < 0), Layout.digitsOf i.natAbs) := by
  rw [toList_toString_int]
  by_cases hi : i < 0
  · rw [if_pos hi, decide_eq_true hi]
    rfl
  · rw [if_neg hi, decide_eq_false hi]
    exact splitSign_of_isDigit Nat.toDigits_ne_nil fun _ => isDigit_of_mem_digitsOf

/-- The text of an integer below the bound is read as its number. -/
theorem readNumber?_toString {i : Int} (hbound : i.natAbs < Binary64.integerBound) :
    readNumber? (toString i).toList = some (.ofInt i) := by
  have hread := readNumber?_of_splitSign (splitSign_toString i) Nat.toDigits_ne_nil
    (fun _ => isDigit_of_mem_digitsOf) (by rwa [natOfDigits_digitsOf])
  rw [hread, natOfDigits_digitsOf]
  rfl

/-- The text of every integer is read as it, where no number is made of it. -/
theorem readInt?_toString (i : Int) : readInt? (toString i).toList = some i := by
  have hne : Layout.digitsOf i.natAbs ≠ [] := Nat.toDigits_ne_nil
  have hall : (Layout.digitsOf i.natAbs).all Char.isDigit = true :=
    List.all_eq_true.mpr fun _ => isDigit_of_mem_digitsOf
  rw [readInt?, splitSign_toString]
  dsimp only
  rw [if_pos ⟨hne, hall⟩, natOfDigits_digitsOf]
  by_cases hi : i < 0
  · rw [if_pos (decide_eq_true hi)]
    congr 1
    omega
  · rw [if_neg (by simpa using hi)]
    congr 1
    omega

end CityScript
