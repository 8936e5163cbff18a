/-
Lines with their line ends, and lines turned into comments.

To change some lines of a text and nothing else, the text is cut into its lines
with the line end of each, so that the ends can be put back as they were. A line
that is turned into a comment becomes the single character `#`. The lines of the
new text are then the old ones with `#` in the chosen places, which is not quite
as clear as it sounds: a carriage return at the end of a line would become part of
a line end if a line feed came to stand behind it.
-/
import CityScript.Text.Lines

set_option autoImplicit false

namespace CityScript.Text

/-! ## Cutting -/

/-- Puts a character in front of the first line; without lines it is one without end. -/
def extendLine (c : Char) : List (List Char × List Char) → List (List Char × List Char)
  | [] => [([c], [])]
  | (line, fin) :: more => (c :: line, fin) :: more

/-- The lines of a text, each with the line end after it. The last line may have none. -/
def cutLines : List Char → List (List Char × List Char)
  | [] => []
  | '\n' :: rest => ([], ['\n']) :: cutLines rest
  | '\r' :: '\n' :: rest => ([], ['\r', '\n']) :: cutLines rest
  | c :: rest => extendLine c (cutLines rest)

/-- The first components are the lines. -/
theorem map_fst_cutLines (cs : List Char) : (cutLines cs).map Prod.fst = lines cs := by
  fun_induction cutLines cs with
  | case1 => rfl
  | case2 rest ih => rw [List.map_cons, ih, lines_newline]
  | case3 rest ih => rw [List.map_cons, ih, lines_return_newline]
  | case4 c rest hn hr ih =>
    rw [lines_cons hn (fun tail hc heq => hr tail hc heq), ← ih]
    cases cutLines rest with
    | nil => rfl
    | cons first more => rfl

/-- **Cutting loses nothing**: lines and line ends in turn are the text. -/
theorem flatMap_cutLines (cs : List Char) :
    (cutLines cs).flatMap (fun piece => piece.1 ++ piece.2) = cs := by
  fun_induction cutLines cs with
  | case1 => rfl
  | case2 rest ih => rw [List.flatMap_cons, ih]; rfl
  | case3 rest ih => rw [List.flatMap_cons, ih]; rfl
  | case4 c rest hn hr ih =>
    cases hcut : cutLines rest with
    | nil =>
      rw [hcut] at ih
      rw [← ih]
      rfl
    | cons first more =>
      rw [hcut] at ih
      rw [← ih]
      rfl

/-- A line without a line end has a character. -/
theorem ne_nil_of_mem_cutLines {cs : List Char} {piece : List Char × List Char}
    (h : piece ∈ cutLines cs) : piece.1 ++ piece.2 ≠ [] := by
  fun_induction cutLines cs with
  | case1 => cases h
  | case2 rest ih =>
    rcases List.mem_cons.mp h with rfl | h
    · simp
    · exact ih h
  | case3 rest ih =>
    rcases List.mem_cons.mp h with rfl | h
    · simp
    · exact ih h
  | case4 c rest hn hr ih =>
    cases hcut : cutLines rest with
    | nil =>
      rw [hcut] at h
      rw [List.mem_singleton.mp h]
      simp
    | cons first more =>
      rw [hcut] at h ih
      rcases List.mem_cons.mp h with rfl | h
      · simp
      · exact ih (List.mem_cons_of_mem first h)

/-- A text that does not begin with a line feed has none at the beginning of its first
line with its end, whatever comes after that. -/
theorem append_ne_newline {cs line fin : List Char} {more : List (List Char × List Char)}
    (hcut : cutLines cs = (line, fin) :: more) (h : ∀ tail, cs ≠ '\n' :: tail)
    (later tail : List Char) : line ++ fin ++ later ≠ '\n' :: tail := by
  intro heq
  have hcs := flatMap_cutLines cs
  rw [hcut, List.flatMap_cons] at hcs
  cases hpiece : line ++ fin with
  | nil => exact ne_nil_of_mem_cutLines (hcut ▸ List.mem_cons_self) hpiece
  | cons x xs =>
    rw [hpiece, List.cons_append, List.cons.injEq] at heq
    dsimp only at hcs
    rw [hpiece, heq.1] at hcs
    exact h _ hcs.symm

/-! ## Turning lines into comments -/

/-- The text of some lines with their line ends, counted from a number on, where the
lines that are to be hidden are a mere `#`. -/
def commentLines (hidden : Nat → Bool) : Nat → List (List Char × List Char) → List Char
  | _, [] => []
  | n, (line, fin) :: more =>
    (if hidden n then ['#'] else line) ++ fin ++ commentLines hidden (n + 1) more

theorem lines_hash (cs : List Char) : lines ('#' :: cs) = extendFirst '#' (lines cs) :=
  lines_cons (by decide) (fun _ h => absurd h (by decide))

/-- **Hidden lines.** The lines of the new text are the old ones, with `#` for those
that are hidden. -/
theorem lines_commentLines (hidden : Nat → Bool) (n : Nat) (cs : List Char) :
    lines (commentLines hidden n (cutLines cs)) =
      (lines cs).mapIdx fun i line => if hidden (n + i) then ['#'] else line := by
  fun_induction cutLines cs generalizing n with
  | case1 => rfl
  | case2 rest ih =>
    rw [commentLines, lines_newline, List.mapIdx_cons]
    simp only [← Nat.add_assoc, Nat.add_right_comm n _ 1, Nat.add_zero, ← ih]
    by_cases hh : hidden n = true
    · simp [hh, lines_hash]
    · simp [hh]
  | case3 rest ih =>
    rw [commentLines, lines_return_newline, List.mapIdx_cons]
    simp only [← Nat.add_assoc, Nat.add_right_comm n _ 1, Nat.add_zero, ← ih]
    by_cases hh : hidden n = true
    · simp [hh, lines_hash]
    · simp [hh]
  | case4 c rest hn hr ih =>
    -- `c` belongs to the first line, so it is hidden or kept with the rest of that line
    have hlines : lines (c :: rest) = extendFirst c (lines rest) :=
      lines_cons hn (fun tail hc heq => hr tail hc heq)
    cases hcut : cutLines rest with
    | nil =>
      have hrest : rest = [] := by rw [← flatMap_cutLines rest, hcut]; rfl
      rw [hlines, hrest]
      by_cases hh : hidden n = true
      · simp [extendLine, commentLines, hh, lines_hash]
      · simpa [extendLine, commentLines, hh, hrest] using hlines
    | cons piece more =>
      obtain ⟨line, fin⟩ := piece
      have hold : lines rest = line :: more.map Prod.fst := by
        rw [← map_fst_cutLines, hcut, List.map_cons]
      have hnew := ih n
      rw [hcut, hold, commentLines, List.mapIdx_cons] at hnew
      rw [hlines, hold, extendFirst_cons, extendLine, commentLines, List.mapIdx_cons]
      by_cases hh : hidden n = true
      · simpa [hh] using hnew
      · -- the new text goes on after `c` as the old one did, so `c` ends no line in it
        have hnext : ∀ tail, c = '\r' →
            line ++ fin ++ commentLines hidden (n + 1) more ≠ '\n' :: tail :=
          fun tail hc => append_ne_newline hcut (hr · hc) _ tail
        simp only [Nat.add_zero, hh, Bool.false_eq_true, if_false] at hnew ⊢
        rw [List.cons_append, List.cons_append, lines_cons hn hnext, hnew, extendFirst_cons]

end CityScript.Text
