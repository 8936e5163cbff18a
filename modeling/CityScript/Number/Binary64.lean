/-
Binary floating point numbers of 64 bits, as exact values.

Every finite number of the format is a whole multiple of `2^-1074`, its least
positive number. A finite number is kept as a significand below `2^53` and a
scale, and stands for `significand * 2^scale` of those units; asking the scale to
be the least one possible makes the pair unique. All arithmetic on these
numbers is then arithmetic on natural numbers, with nothing rounded on the way.
-/

set_option autoImplicit false

namespace CityScript

/-! ## The format -/

/-- The pairs of significand and scale that the format has: the significand fits
53 bits, the scale fits the exponent field, and the leading bit is set unless
the scale is the least one. -/
def Binary64.Canonical (significand scale : Nat) : Prop :=
  significand < Nat.pow 2 53 ∧ scale ≤ 2045 ∧ (scale = 0 ∨ Nat.pow 2 52 ≤ significand)

instance (significand scale : Nat) : Decidable (Binary64.Canonical significand scale) :=
  inferInstanceAs (Decidable (_ ∧ _ ∧ _))

/-- A number of the format: not a number, an infinity, or a signed whole multiple
of the least positive number. Zero has two signs. -/
inductive Binary64 where
  | nan
  | infinite (negative : Bool)
  | finite (negative : Bool) (significand scale : Nat)
      (canonical : Binary64.Canonical significand scale)
  deriving DecidableEq

namespace Binary64

/-- How many units of the least positive number make up one. -/
def unitsPerOne : Nat := Nat.pow 2 1074

/-- Zero of either sign. -/
def zero (negative : Bool) : Binary64 :=
  .finite negative 0 0 (by decide)

instance : Inhabited Binary64 := ⟨zero false⟩

/-- A number of given significand and scale; what the format has no room for is
an infinity. -/
def pack (negative : Bool) (significand scale : Nat) : Binary64 :=
  if h : Canonical significand scale then .finite negative significand scale h
  else .infinite negative

theorem pack_of_canonical {significand scale : Nat} (h : Canonical significand scale)
    (negative : Bool) : pack negative significand scale = .finite negative significand scale h := by
  simp [pack, h]

/-! ## Integers -/

/-- Integers are recognised below this bound only, well inside the range where
the format has every integer. -/
def integerBound : Nat := 9000000000000000

/-- The integer that a number is, if it is one of absolute value below the bound.
Both zeros are the integer zero. -/
def toInt? : Binary64 → Option Int
  | .finite negative significand scale _ =>
    let units := significand * Nat.pow 2 scale
    let magnitude := units / unitsPerOne
    if units % unitsPerOne = 0 ∧ magnitude < integerBound then
      some (if negative then -(magnitude : Int) else magnitude)
    else none
  | _ => none

/-- Whether a number is neither an infinity nor not a number. -/
def isFinite : Binary64 → Bool
  | .finite .. => true
  | _ => false

/-! ## The interchange form -/

/-- The 64 bits of a number; not a number has no bits of its own. The exponent
field of a finite number is its scale, plus one when the leading bit is set, so
that field and fraction together are `scale * 2^52 + significand`. -/
def bits? : Binary64 → Option Nat
  | .nan => none
  | .infinite negative => some (signBit negative + 2047 * Nat.pow 2 52)
  | .finite negative significand scale _ =>
    some (signBit negative + scale * Nat.pow 2 52 + significand)
where
  /-- The weight of the sign. -/
  signBit (negative : Bool) : Nat := if negative then Nat.pow 2 63 else 0

end Binary64

end CityScript
