/-
Pieces of a text: building a list of pieces from the last character to the first.
-/

set_option autoImplicit false

namespace CityScript.Text

/-- Puts a character in front of the first piece; without pieces it is one alone. -/
def extendFirst (c : Char) : List (List Char) → List (List Char)
  | [] => [[c]]
  | piece :: more => (c :: piece) :: more

@[simp] theorem extendFirst_nil (c : Char) : extendFirst c [] = [[c]] := rfl

@[simp] theorem extendFirst_cons (c : Char) (piece : List Char) (more : List (List Char)) :
    extendFirst c (piece :: more) = (c :: piece) :: more := rfl

@[simp] theorem extendFirst_ne_nil (c : Char) (pieces : List (List Char)) :
    extendFirst c pieces ≠ [] := by
  cases pieces <;> simp

/-- The character reaches the first piece only, whatever follows. -/
theorem extendFirst_append (c : Char) {pieces : List (List Char)} (h : pieces ≠ [])
    (more : List (List Char)) :
    extendFirst c (pieces ++ more) = extendFirst c pieces ++ more := by
  cases pieces with
  | nil => exact absurd rfl h
  | cons piece rest => rfl

/-- No character is lost. -/
@[simp] theorem flatten_extendFirst (c : Char) (pieces : List (List Char)) :
    (extendFirst c pieces).flatten = c :: pieces.flatten := by
  cases pieces <;> simp

end CityScript.Text
