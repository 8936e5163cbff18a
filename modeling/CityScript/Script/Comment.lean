/-
Comments: everything from the first `#` of a line that is not quoted.
-/
import CityScript.Script.Quote

set_option autoImplicit false

namespace CityScript

/-! ## Splitting a line -/

/-- A line split into its code and the text after the mark of its comment, if
it has one. -/
structure CommentSplit where
  code : List Char
  comment : Option (List Char)
  deriving DecidableEq, Repr

namespace CommentSplit

/-- Puts a character in front of the code. -/
def push (c : Char) (s : CommentSplit) : CommentSplit := ⟨c :: s.code, s.comment⟩

/-- Splits a line at the first `#` outside quotes, with a quote that may be open
already. -/
def scan : Option Char → List Char → CommentSplit
  | _, [] => ⟨[], none⟩
  | opened, c :: rest =>
    if opened = none ∧ c = '#' then ⟨[], some rest⟩
    else (scan (quoteStep opened c) rest).push c

@[simp] theorem scan_nil (opened : Option Char) : scan opened [] = ⟨[], none⟩ := rfl

theorem scan_cons (opened : Option Char) (c : Char) (rest : List Char) :
    scan opened (c :: rest) =
      if opened = none ∧ c = '#' then ⟨[], some rest⟩
      else (scan (quoteStep opened c) rest).push c := rfl

/-- Splits a line at the first `#` outside quotes. -/
def of (line : List Char) : CommentSplit := scan none line

/-- Where the comment begins, counted in bytes of UTF-8. -/
def startByte? (s : CommentSplit) : Option Nat :=
  s.comment.map fun _ => (String.ofList s.code).utf8ByteSize

end CommentSplit

end CityScript
