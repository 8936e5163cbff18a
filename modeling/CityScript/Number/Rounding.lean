/-
Rounding an exact ratio to the nearest number of the binary format.

The ratio is first expressed in units of the least positive number. The whole
part of that count fixes the scale, namely the least one at which the
significand fits 53 bits, and the significand is the quotient at that scale,
rounded to the nearest integer with a half going to the even neighbour.
-/
import CityScript.Number.Binary64

set_option autoImplicit false

namespace CityScript

/-! ## Quotients -/

/-- The integer nearest to a quotient; a half goes to the even neighbour. -/
def roundDiv (num den : Nat) : Nat :=
  let floor := num / den
  let twice := 2 * (num % den)
  if twice < den then floor
  else if den < twice then floor + 1
  else if floor % 2 = 0 then floor
  else floor + 1

/-- A quotient without remainder is not changed. -/
theorem roundDiv_mul (n den : Nat) (h : 0 < den) : roundDiv (n * den) den = n := by
  simp [roundDiv, Nat.mul_div_cancel n h, h]

/-! ## Ratios -/

namespace Binary64

/-- The number nearest to `num / den`. -/
def ofRatio (negative : Bool) (num den : Nat) : Binary64 :=
  let units := num * unitsPerOne
  let scale := (units / den).log2 - 52
  let significand := roundDiv units (den * Nat.pow 2 scale)
  if significand = Nat.pow 2 53 then pack negative (Nat.pow 2 52) (scale + 1)
  else pack negative significand scale

/-- The number nearest to an integer. -/
def ofInt (n : Int) : Binary64 :=
  ofRatio (decide (n < 0)) n.natAbs 1

end Binary64

end CityScript
