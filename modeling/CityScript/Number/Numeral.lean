/-
Decimal numerals: an optional sign, digits with an optional point among or
around them, and an optional power of ten.

At least one digit is needed before the power, and at least one in it. The
number that a numeral stands for is the binary one nearest to its exact value.
-/
import CityScript.Number.Rounding

set_option autoImplicit false

namespace CityScript

/-! ## Digits -/

/-- The value of a run of decimal digits. -/
def natOfDigits (digits : List Char) : Nat :=
  digits.foldl (fun value c => 10 * value + (c.toNat - 0x30)) 0

/-- Splits an optional sign off; true stands for the minus. -/
def splitSign : List Char → Bool × List Char
  | '-' :: rest => (true, rest)
  | '+' :: rest => (false, rest)
  | cs => (false, cs)

/-- A signed whole number in decimal digits, leading zeros allowed. -/
def readInt? (cs : List Char) : Option Int :=
  let (negative, digits) := splitSign cs
  if digits ≠ [] ∧ digits.all Char.isDigit then
    some (if negative then -(natOfDigits digits : Int) else natOfDigits digits)
  else none

/-! ## Numerals -/

/-- A numeral stands for its digits, read as a whole number, times a power of
ten, with a sign. -/
structure Numeral where
  negative : Bool
  digits : List Char
  exponent : Int
  deriving DecidableEq

namespace Numeral

/-- The power of ten at the end of a numeral, zero when there is none. -/
def readExponent? : List Char → Option Int
  | [] => some 0
  | c :: rest => if c = 'e' ∨ c = 'E' then readInt? rest else none

/-- Reads a text as a numeral, all of it or not at all. -/
def read? (cs : List Char) : Option Numeral :=
  let (negative, cs) := splitSign cs
  let whole := cs.takeWhile Char.isDigit
  let afterWhole := cs.dropWhile Char.isDigit
  let (fraction, rest) :=
    match afterWhole with
    | '.' :: tail => (tail.takeWhile Char.isDigit, tail.dropWhile Char.isDigit)
    | tail => ([], tail)
  if whole = [] ∧ fraction = [] then none
  else (readExponent? rest).map fun exponent =>
    ⟨negative, whole ++ fraction, exponent - fraction.length⟩

/-- Leading digits above this place are past every finite number. -/
def topPlace : Int := 310

/-- Leading digits below this place are nearer to zero than to any other number. -/
def bottomPlace : Int := -330

/-- The number nearest to a numeral. A numeral whose leading digit is far outside
the range of the format is decided by that place alone. -/
def toBinary64 (n : Numeral) : Binary64 :=
  let digits := n.digits.dropWhile (· = '0')
  let value := natOfDigits digits
  let place := digits.length + n.exponent
  if value = 0 ∨ place < bottomPlace then .zero n.negative
  else if topPlace < place then .infinite n.negative
  else
    .ofRatio n.negative (value * Nat.pow 10 n.exponent.toNat) (Nat.pow 10 (-n.exponent).toNat)

end Numeral

/-- The finite number that a text spells, if it is a numeral and does not overflow. -/
def readNumber? (cs : List Char) : Option Binary64 :=
  ((Numeral.read? cs).map Numeral.toBinary64).filter Binary64.isFinite

end CityScript
