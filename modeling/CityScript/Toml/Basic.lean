/-
TOML documents.

A document is a table of keys and values. Numbers with a fraction, truth values
and dates are told apart but kept without their value, because no setting is
made of them.
-/

set_option autoImplicit false

namespace CityScript

/-- A TOML value. -/
inductive Toml where
  | string (text : String)
  | integer (n : Int)
  | float
  | boolean
  | date
  | array (items : List Toml)
  | table (entries : List (String × Toml))
  deriving Inhabited

namespace Toml

/-- The text of a string. -/
def text? : Toml → Option String
  | .string text => some text
  | _ => none

/-- An integer within bounds. -/
def intWithin? (low high : Int) : Toml → Option Int
  | .integer n => if low ≤ n ∧ n ≤ high then some n else none
  | _ => none

/-- A natural number up to a bound. -/
def natUpTo? (high : Nat) (value : Toml) : Option Nat :=
  (intWithin? 0 high value).map Int.toNat

end Toml

end CityScript
