/-
Lines with white space around them.

What is read line by line and then trimmed does not see how the lines are set out. White
space around a line is trimmed away again, and so is the one carriage return that a line
loses when its line feed makes a line end out of it: a carriage return is blank, so the
line that is left has the same trimmed text as the line that was written. Whether a line
ends in a line feed alone or in both characters is therefore all one.
-/
import CityScript.Text.Blank
import CityScript.Text.Lines

set_option autoImplicit false

namespace CityScript.Text

/-! ## Trimming -/

/-- Blanks at the end do not count. -/
theorem trim_append_of_forall {gap : List Char} (h : ∀ c ∈ gap, isBlank c = true)
    (cs : List Char) : trim (cs ++ gap) = trim cs := by
  have hend : ∀ ds : List Char, trimEnd (ds ++ gap) = trimEnd ds := by
    intro ds
    rw [trimEnd, List.reverse_append, List.dropWhile_append_of_pos, ← trimEnd]
    simpa using h
  rw [trim, trimStart, List.dropWhile_append]
  split
  · -- a blank text leaves nothing of itself, and nothing of the blanks after it
    next hblank =>
    rw [List.isEmpty_iff] at hblank
    have hgap : trimStart gap = [] := trimStart_eq_nil_iff.mpr h
    rw [trimStart] at hgap
    rw [hgap, trim, trimStart, hblank]
  · rw [hend, ← trimStart, ← trim]

/-- **Blanks around a text do not count.** -/
theorem trim_pad {front back : List Char} (hfront : ∀ c ∈ front, isBlank c = true)
    (hback : ∀ c ∈ back, isBlank c = true) (cs : List Char) :
    trim (front ++ cs ++ back) = trim cs := by
  rw [trim_append_of_forall hback, trim, trimStart_append_of_forall hfront, ← trim]

/-! ## Line ends -/

/-- The two ways to end a line. -/
inductive LineEnd where
  | feed
  | returnFeed
  deriving DecidableEq, Repr, Inhabited

/-- The characters of a line end. -/
def LineEnd.text : LineEnd → List Char
  | .feed => ['\n']
  | .returnFeed => ['\r', '\n']

variable {line : List Char}

/-- A text without line feeds is one line. -/
theorem lines_of_newline_not_mem (h : '\n' ∉ line) (hne : line ≠ []) : lines line = [line] := by
  induction line with
  | nil => exact absurd rfl hne
  | cons c line ih =>
    obtain ⟨hc, hline⟩ : '\n' ≠ c ∧ '\n' ∉ line := by simpa using h
    have hnext : ∀ tail, c = '\r' → line ≠ '\n' :: tail := by
      rintro tail - rfl
      exact hline List.mem_cons_self
    rw [lines_cons hc.symm hnext]
    cases line with
    | nil => rfl
    | cons d line => rw [ih hline (by simp), extendFirst_cons]

/-- What a line feed makes of the text before it: a line without at most one blank of that
text. -/
theorem exists_lines_append_newline (h : '\n' ∉ line) (rest : List Char) :
    ∃ kept gap, (∀ c ∈ gap, isBlank c = true) ∧ line = kept ++ gap ∧
      lines (line ++ '\n' :: rest) = kept :: lines rest := by
  induction line with
  | nil => exact ⟨[], [], by simp, rfl, lines_newline rest⟩
  | cons c line ih =>
    obtain ⟨hc, hline⟩ : '\n' ≠ c ∧ '\n' ∉ line := by simpa using h
    by_cases hreturn : c = '\r' ∧ line = []
    · obtain ⟨rfl, rfl⟩ := hreturn
      exact ⟨[], ['\r'], List.all_eq_true.mp rfl, rfl, lines_return_newline rest⟩
    · obtain ⟨kept, gap, hgap, hsplit, hlines⟩ := ih hline
      -- `c` stands before another character of the line, or is no carriage return
      have hnext : ∀ tail, c = '\r' → line ++ '\n' :: rest ≠ '\n' :: tail := by
        intro tail hc heq
        cases line with
        | nil => exact hreturn ⟨hc, rfl⟩
        | cons d line =>
          obtain ⟨rfl, -⟩ := List.cons.inj heq
          exact hline List.mem_cons_self
      refine ⟨c :: kept, gap, hgap, by rw [hsplit, List.cons_append], ?_⟩
      rw [List.cons_append, lines_cons hc.symm hnext, hlines, extendFirst_cons]

/-- **A line with its line end** has the trimmed text of the line, whichever end it is. -/
theorem map_trim_lines_append_lineEnd (h : '\n' ∉ line) (e : LineEnd) (rest : List Char) :
    (lines (line ++ e.text ++ rest)).map trim = trim line :: (lines rest).map trim := by
  have hfeed : ∀ l : List Char, '\n' ∉ l →
      (lines (l ++ '\n' :: rest)).map trim = trim l :: (lines rest).map trim := by
    intro l hl
    obtain ⟨kept, gap, hgap, rfl, hlines⟩ := exists_lines_append_newline hl rest
    rw [hlines, List.map_cons, trim_append_of_forall hgap]
  cases e with
  | feed => simpa [LineEnd.text] using hfeed line h
  | returnFeed =>
    have hreturn := hfeed (line ++ ['\r']) (by simpa using h)
    rw [trim_append_of_forall (List.all_eq_true.mp rfl)] at hreturn
    simpa [LineEnd.text] using hreturn

/-! ## Padding -/

/-- White space within a line: the blanks but for the line feed. -/
def isSpace (c : Char) : Bool := isBlank c && c != '\n'

theorem isBlank_of_isSpace {gap : List Char} (h : ∀ c ∈ gap, isSpace c = true) :
    ∀ c ∈ gap, isBlank c = true := by
  intro c hc
  have hspace := h c hc
  rw [isSpace, Bool.and_eq_true] at hspace
  exact hspace.1

theorem newline_not_mem_of_isSpace {gap : List Char} (h : ∀ c ∈ gap, isSpace c = true) :
    '\n' ∉ gap := by
  intro hmem
  exact absurd (h _ hmem) (by decide)

section

variable {front back : List Char} (hfront : ∀ c ∈ front, isSpace c = true)
  (hback : ∀ c ∈ back, isSpace c = true) (hline : '\n' ∉ line)
include hfront hback hline

/-- White space around a line does not make two lines of it. -/
theorem newline_not_mem_pad : '\n' ∉ front ++ line ++ back := by
  simp only [List.mem_append, not_or]
  exact ⟨⟨newline_not_mem_of_isSpace hfront, hline⟩, newline_not_mem_of_isSpace hback⟩

/-- **A line that is set out**, with its line end, has the trimmed text of the line. -/
theorem map_trim_lines_pad_append (e : LineEnd) (rest : List Char) :
    (lines (front ++ line ++ back ++ e.text ++ rest)).map trim =
      trim line :: (lines rest).map trim := by
  rw [map_trim_lines_append_lineEnd (newline_not_mem_pad hfront hback hline),
    trim_pad (isBlank_of_isSpace hfront) (isBlank_of_isSpace hback)]

/-- A last line that is set out and has no line end is one line, unless it is empty. -/
theorem map_trim_lines_pad (hne : front ++ line ++ back ≠ []) :
    (lines (front ++ line ++ back)).map trim = [trim line] := by
  rw [lines_of_newline_not_mem (newline_not_mem_pad hfront hback hline) hne, List.map_singleton,
    trim_pad (isBlank_of_isSpace hfront) (isBlank_of_isSpace hback)]

end

end CityScript.Text
