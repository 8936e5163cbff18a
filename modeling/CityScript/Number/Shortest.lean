/-
The shortest decimal that reads back as a given binary number.

The decimals that read back form an interval around the number: half way to its
neighbours on both sides, the ends included when the significand is even. Among
the decimals of one, two, three digits and so on the first grid with a point in
the interval wins, and of its points the one nearest to the number. It is
enough to test the two neighbours of the number on each grid. An exact tie
between the two is left to the caller.
-/
import CityScript.Number.Rounding

set_option autoImplicit false

namespace CityScript

/-! ## Decimals -/

/-- A decimal: its digits as a whole number, times a power of ten. -/
structure Decimal where
  coefficient : Nat
  exponent : Int
  deriving DecidableEq, Repr

/-- How an exact tie between two decimals is decided. -/
inductive Tie where
  | up
  | even
  deriving DecidableEq, Repr

/-- How many decimal digits a number has; zero has none. -/
def digitCount (n : Nat) : Nat :=
  if n = 0 then 0 else digitCount (n / 10) + 1
termination_by n
decreasing_by omega

/-- Moves the zeros at the end of the coefficient into the exponent, as many as
the fuel allows. -/
def Decimal.dropZeros (d : Decimal) : Nat → Decimal
  | 0 => d
  | fuel + 1 =>
    if d.coefficient ≠ 0 ∧ d.coefficient % 10 = 0 then
      Decimal.dropZeros ⟨d.coefficient / 10, d.exponent + 1⟩ fuel
    else d

/-! ## The interval -/

/-- A positive number and the interval of the decimals that read back as it, all
three in units of `2^-1076`, a quarter of the least positive number. -/
structure ReadBack where
  low : Nat
  value : Nat
  high : Nat
  inclusive : Bool
  deriving DecidableEq, Repr

namespace ReadBack

/-- The interval of a significand and a scale. Below a power of two the
neighbour is half as far away as above it. -/
def of (significand scale : Nat) : ReadBack :=
  let gap := Nat.pow 2 scale
  let below := if significand = Nat.pow 2 52 ∧ 0 < scale then gap else 2 * gap
  let value := 4 * significand * gap
  ⟨value - below, value, value + 2 * gap, significand % 2 = 0⟩

/-- How many units make up one. -/
def unitsPerOne : Nat := Nat.pow 2 1076

/-- The place of the leading digit: the power of ten at or below the number. -/
def leadingPlace (r : ReadBack) : Int :=
  if unitsPerOne ≤ r.value then digitCount (r.value / unitsPerOne) - 1
  else -(digitCount ((unitsPerOne - 1) / r.value) : Int)

/-- Whether a number reads back, given in a finer unit that goes so many times into
the unit of the interval. -/
def contains (r : ReadBack) (finer n : Nat) : Bool :=
  if r.inclusive then r.low * finer ≤ n && n ≤ r.high * finer
  else r.low * finer < n && n < r.high * finer

/-- The better neighbour of the number among the multiples of `10^place`, if one
of the two reads back. -/
def onGrid? (r : ReadBack) (tie : Tie) (place : Int) : Option Decimal :=
  let step := unitsPerOne * Nat.pow 10 place.toNat
  let finer := Nat.pow 10 (-place).toNat
  let below := r.value * finer / step
  let rest := r.value * finer % step
  let above := below + 1
  let belowFits := r.contains finer (below * step)
  let aboveFits := r.contains finer (above * step)
  let takeBelow :=
    if 2 * rest < step then true
    else if step < 2 * rest then false
    else match tie with
      | .up => false
      | .even => below % 2 = 0
  if belowFits ∧ aboveFits then some ⟨if takeBelow then below else above, place⟩
  else if belowFits then some ⟨below, place⟩
  else if aboveFits then some ⟨above, place⟩
  else none

/-- The shortest decimal that reads back. Seventeen digits are always enough. -/
def shortest (r : ReadBack) (tie : Tie) : Decimal :=
  let top := r.leadingPlace
  let found := (List.range 17).findSome? fun extra => r.onGrid? tie (top - (extra : Nat))
  (found.getD ⟨0, 0⟩).dropZeros 20

end ReadBack

/-- The shortest decimal that reads back as the number of a significand and a
scale; zero is zero. -/
def shortestDecimal (tie : Tie) (significand scale : Nat) : Decimal :=
  if significand = 0 then ⟨0, 0⟩ else (ReadBack.of significand scale).shortest tie

end CityScript
