/-
The lines of a text.

A line ends at a line feed, and one carriage return right before that line feed
belongs to the line end as well. What follows the last line feed is a line of
its own unless it is empty; a carriage return there, or one that no line feed
follows, is part of its line.
-/
import CityScript.Text.Pieces

set_option autoImplicit false

namespace CityScript.Text

/-- The lines of a text, without their line ends. -/
def lines : List Char → List (List Char)
  | [] => []
  | '\n' :: rest => [] :: lines rest
  | '\r' :: '\n' :: rest => [] :: lines rest
  | c :: rest => extendFirst c (lines rest)

@[simp] theorem lines_nil : lines [] = [] := rfl

@[simp] theorem lines_newline (rest : List Char) : lines ('\n' :: rest) = [] :: lines rest := by
  simp [lines]

@[simp] theorem lines_return_newline (rest : List Char) :
    lines ('\r' :: '\n' :: rest) = [] :: lines rest := by
  simp [lines]

/-- A character that is no line end belongs to the first line. -/
theorem lines_cons {c : Char} (hn : c ≠ '\n') {rest : List Char}
    (hr : ∀ tail, c = '\r' → rest ≠ '\n' :: tail) :
    lines (c :: rest) = extendFirst c (lines rest) := by
  rw [lines]
  · exact hn
  · exact fun tail hc h => hr tail hc h

/-- Only the empty text has no lines. -/
theorem lines_eq_nil {cs : List Char} : lines cs = [] ↔ cs = [] := by
  fun_cases lines cs <;> simp_all

/-- **No line holds a line feed.** -/
theorem newline_not_mem_of_mem_lines {cs line : List Char} (h : line ∈ lines cs) :
    '\n' ∉ line := by
  fun_induction lines cs generalizing line with
  | case1 => cases h
  | case2 rest ih =>
    rcases List.mem_cons.mp h with rfl | h
    · simp
    · exact ih h
  | case3 rest ih =>
    rcases List.mem_cons.mp h with rfl | h
    · simp
    · exact ih h
  | case4 c rest hn hr ih =>
    have hc : '\n' ≠ c := fun heq => hn heq.symm
    -- the character joins the first of the lines after it, or is a line of its own
    cases hlines : lines rest with
    | nil =>
      rw [hlines, extendFirst_nil, List.mem_singleton] at h
      rw [h]
      simpa using hc
    | cons first more =>
      rw [hlines] at h ih
      rcases List.mem_cons.mp h with rfl | h
      · simp [hc, ih List.mem_cons_self]
      · exact ih (List.mem_cons_of_mem first h)

/-- **Cutting after a line feed.** The lines of a text are those up to a line feed
and those after it. -/
theorem lines_append_newline (a b : List Char) :
    lines (a ++ '\n' :: b) = lines (a ++ ['\n']) ++ lines b := by
  fun_induction lines a with
  | case1 => simp
  | case2 rest ih => simpa using ih
  | case3 rest ih => simpa using ih
  | case4 c rest hn hr ih =>
    rw [List.cons_append, List.cons_append]
    by_cases h : c = '\r' ∧ rest = []
    · obtain ⟨rfl, rfl⟩ := h
      simp
    · have hr (x : List Char) : ∀ tail, c = '\r' → rest ++ '\n' :: x ≠ '\n' :: tail := by
        intro tail hc heq
        cases rest with
        | nil => exact h ⟨hc, rfl⟩
        | cons d rest =>
          simp only [List.cons_append, List.cons.injEq] at heq
          exact hr rest hc (by rw [heq.1])
      rw [lines_cons hn (hr b), lines_cons hn (hr []), ih, extendFirst_append]
      rw [ne_eq, lines_eq_nil]
      simp

end CityScript.Text
