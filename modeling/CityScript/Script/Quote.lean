/-
Which part of a line is quoted.

A scan from the left keeps the quote that is open. A single or double quote
opens a quoted run when none is open, and only the same character closes it.
-/

set_option autoImplicit false

namespace CityScript

/-- The two characters that open a quoted run. -/
def isQuote (c : Char) : Bool := c == '\x27' || c == '"'

theorem isQuote_iff {c : Char} : isQuote c = true ↔ c = '\x27' ∨ c = '"' := by
  rw [isQuote, Bool.or_eq_true, beq_iff_eq, beq_iff_eq]

/-- The open quote after one more character. -/
def quoteStep (opened : Option Char) (c : Char) : Option Char :=
  match opened with
  | some q => if c = q then none else some q
  | none => if isQuote c then some c else none

/-- The open quote after a text, from a given one. -/
def quoteScan (opened : Option Char) (cs : List Char) : Option Char :=
  cs.foldl quoteStep opened

@[simp] theorem quoteScan_nil (opened : Option Char) : quoteScan opened [] = opened := rfl

@[simp] theorem quoteScan_cons (opened : Option Char) (c : Char) (cs : List Char) :
    quoteScan opened (c :: cs) = quoteScan (quoteStep opened c) cs := rfl

theorem quoteScan_append (opened : Option Char) (cs ds : List Char) :
    quoteScan opened (cs ++ ds) = quoteScan (quoteScan opened cs) ds := by
  simp [quoteScan]

end CityScript
