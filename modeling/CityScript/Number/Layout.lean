/-
How the digits of a number are laid out as text.

A layout says which tie rule the shortest digits follow, which leading places
are written positionally and which in scientific form, and what follows a
number that is written positionally without a fraction.
-/
import CityScript.Number.Shortest

set_option autoImplicit false

namespace CityScript

/-! ## Layouts -/

/-- The decisions of a number format. -/
structure Layout where
  /-- Which of two equally near decimals is written. -/
  tie : Tie
  /-- Whether a number with its leading digit at this place is written positionally. -/
  positional : Int → Bool
  /-- What is written after the digits of a positional number that has no fraction. -/
  wholeEnd : List Char

namespace Layout

/-- Plain text writes every number positionally and a whole number bare; of two
equally near decimals it takes the upper one. -/
def plain : Layout := ⟨.up, fun _ => true, []⟩

/-- A document number is positional when its leading digit is at `10^-5` to
`10^15`, and a whole one ends in a point and a zero; a tie goes to the even
decimal. -/
def document : Layout := ⟨.even, fun place => -5 ≤ place && place ≤ 15, ['.', '0']⟩

/-! ## Writing -/

/-- The digits of a whole number. -/
def digitsOf (n : Nat) : List Char := Nat.toDigits 10 n

/-- Digits with a point so many places from their end, filled up with zeros. -/
def writePositional (wholeEnd : List Char) (digits : List Char) (exponent : Int) : List Char :=
  if 0 ≤ exponent then digits ++ List.replicate exponent.toNat '0' ++ wholeEnd
  else
    let places := (-exponent).toNat
    if places < digits.length then
      digits.take (digits.length - places) ++ '.' :: digits.drop (digits.length - places)
    else '0' :: '.' :: (List.replicate (places - digits.length) '0' ++ digits)

/-- One digit, the others after a point, and the place of the first with its sign. -/
def writeScientific (digits : List Char) (place : Int) : List Char :=
  let mantissa :=
    match digits with
    | first :: second :: rest => first :: '.' :: second :: rest
    | one => one
  mantissa ++ 'e' :: (if place < 0 then '-' else '+') :: digitsOf place.natAbs

/-- A decimal in the layout. -/
def writeDecimal (layout : Layout) (d : Decimal) : List Char :=
  let digits := digitsOf d.coefficient
  let place := d.exponent + digits.length - 1
  if layout.positional place then writePositional layout.wholeEnd digits d.exponent
  else writeScientific digits place

/-- A finite number in the layout. -/
def writeFinite (layout : Layout) (negative : Bool) (significand scale : Nat) : List Char :=
  let text := layout.writeDecimal (shortestDecimal layout.tie significand scale)
  if negative then '-' :: text else text

end Layout

/-- The plain text of any number: integers below the bound as integers would come
out the same but for the sign of zero, which is kept here. -/
def Binary64.plainText : Binary64 → String
  | .nan => "NaN"
  | .infinite negative => if negative then "-inf" else "inf"
  | .finite negative significand scale _ =>
    String.ofList (Layout.plain.writeFinite negative significand scale)

/-- The document text of a number, which only finite numbers have. -/
def Binary64.documentText? : Binary64 → Option String
  | .finite negative significand scale _ =>
    some (String.ofList (Layout.document.writeFinite negative significand scale))
  | _ => none

end CityScript
