/-
How a script is set out does not matter.

A line is looked at three times before it is trimmed: by the scanner that finds the comment,
which begins with the blanks in front, and as the text that is shown with a call or with a
problem. Blanks in front change nothing for the scanner, because no blank is a quote or a
mark. Blanks at the end come to the comment if there is one and to the code otherwise, also
when a quote is still open there, and both are trimmed. So all that is read of a line depends
on its trimmed text only.

For a whole script it remains that its lines stay lines. The script is cut into lines and
line ends, every line gets its own indentation, trailing white space and line end, and what
comes out has lines with the same trimmed texts in the same places.
-/
import CityScript.Proofs.LineEnds
import CityScript.Proofs.PaddedLines
import CityScript.Proofs.QuotedMarks
import CityScript.Script.Program

set_option autoImplicit false

namespace CityScript

/-! ## One line -/

namespace CommentSplit

theorem hash_not_mem_of_forall_isBlank {gap : List Char} (h : ∀ c ∈ gap, Text.isBlank c = true) :
    '#' ∉ gap := not_mem_run h (by decide)

theorem marksQuotedFrom_of_hash_not_mem {opened : Option Char} {cs : List Char} (h : '#' ∉ cs) :
    MarksQuotedFrom opened cs := by
  rintro before after rfl
  exact absurd (List.mem_append_right before List.mem_cons_self) h

/-- Blanks in front of a line come to its code. -/
theorem of_append_front {front : List Char} (h : ∀ c ∈ front, Text.isBlank c = true)
    (raw : List Char) : of (front ++ raw) = (of raw).prepend front := by
  have hquoted : MarksQuoted front :=
    marksQuotedFrom_of_hash_not_mem (hash_not_mem_of_forall_isBlank h)
  rw [of, scan_append hquoted, quoteScan_of_forall_isBlank h, of]

/-- Puts a text behind a line: it comes to the comment, or to the code if there is none. -/
def append (s : CommentSplit) (cs : List Char) : CommentSplit :=
  match s.comment with
  | none => ⟨s.code ++ cs, none⟩
  | some comment => ⟨s.code, some (comment ++ cs)⟩

/-- Blanks behind a line come to its comment if it has one, whatever quotes are open. -/
theorem of_append_back {back : List Char} (h : ∀ c ∈ back, Text.isBlank c = true)
    (raw : List Char) : of (raw ++ back) = (of raw).append back := by
  cases hcomment : (of raw).comment with
  | none =>
    have hraw : (of raw).code = raw := code_eq_of_comment_eq_none hcomment
    have hquoted : MarksQuoted raw := by
      rw [← hraw]
      exact marksQuoted_code raw
    have hback : MarksQuotedFrom (quoteScan none raw) back :=
      marksQuotedFrom_of_hash_not_mem (hash_not_mem_of_forall_isBlank h)
    rw [of, scan_of_marksQuotedFrom (marksQuotedFrom_append.mpr ⟨hquoted, hback⟩), append, hcomment]
    dsimp only
    rw [hraw]
  | some comment =>
    obtain ⟨hraw, houtside, hquoted⟩ := of_eq_some_iff.mp (show of raw = ⟨_, some comment⟩ by
      rw [← hcomment])
    have hline : raw ++ back = (of raw).code ++ '#' :: (comment ++ back) := by
      rw [← List.cons_append, ← List.append_assoc, ← hraw]
    rw [of_eq_some_iff.mpr ⟨hline, houtside, hquoted⟩, append, hcomment]

end CommentSplit

namespace Line

section

variable (catalog : Catalog) (number : Nat) {front back : List Char}

theorem read_append_front (h : ∀ c ∈ front, Text.isBlank c = true) (raw : List Char) :
    read catalog number (front ++ raw) = read catalog number raw := by
  have hcode : ∀ cs, Text.trim (front ++ cs) = Text.trim cs := by
    intro cs
    rw [Text.trim, Text.trimStart_append_of_forall h, ← Text.trim]
  rw [read, CommentSplit.of_append_front h, CommentSplit.prepend]
  dsimp only
  rw [hcode, hcode, ← read]

theorem read_append_back (h : ∀ c ∈ back, Text.isBlank c = true) (raw : List Char) :
    read catalog number (raw ++ back) = read catalog number raw := by
  rw [read, read, CommentSplit.of_append_back h, CommentSplit.append,
    Text.trim_append_of_forall h]
  cases hcomment : (CommentSplit.of raw).comment with
  | none =>
    dsimp only
    rw [Text.trim_append_of_forall h]
  | some comment =>
    dsimp only
    rw [Text.trim_append_of_forall h]

/-- **White space around a line does not matter.** -/
theorem read_pad (hfront : ∀ c ∈ front, Text.isBlank c = true)
    (hback : ∀ c ∈ back, Text.isBlank c = true) (raw : List Char) :
    read catalog number (front ++ raw ++ back) = read catalog number raw := by
  rw [read_append_back catalog number hback, read_append_front catalog number hfront]

/-- All that is read of a line is in its trimmed text. -/
theorem read_trim (raw : List Char) :
    read catalog number (Text.trim raw) = read catalog number raw := by
  obtain ⟨front, back, hfront, hback, hraw⟩ := Text.exists_gaps raw
  rw [← read_pad catalog number hfront hback, List.append_assoc, ← hraw]

end

end Line

/-- Scripts whose lines have the same trimmed texts are read alike. -/
theorem readLines_congr {catalog : Catalog} {source source' : String}
    (h : (Text.lines source.toList).map Text.trim = (Text.lines source'.toList).map Text.trim) :
    readLines catalog source = readLines catalog source' := by
  have hread : ∀ raws : List (List Char),
      (raws.mapIdx fun i raw => Line.read catalog (i + 1) raw) =
        (raws.map Text.trim).mapIdx fun i raw => Line.read catalog (i + 1) raw := by
    intro raws
    refine List.ext_getElem (by simp) ?_
    intro i _ _
    rw [List.getElem_mapIdx, List.getElem_mapIdx, List.getElem_map, Line.read_trim]
  rw [readLines, hread, h, ← hread, readLines]

/-! ## The lines of a text with their ends -/

namespace Text

/-- Lines with their line ends, as a text is cut into them: only the last one may be without
an end, and it is not empty then. -/
inductive Cut : List (List Char × List Char) → Prop
  | nil : Cut []
  | last {line : List Char} (hline : '\n' ∉ line) (hne : line ≠ []) : Cut [(line, [])]
  | cons {line : List Char} {more : List (List Char × List Char)} (e : LineEnd)
      (hline : '\n' ∉ line) (hmore : Cut more) : Cut ((line, e.text) :: more)

theorem cut_cutLines (cs : List Char) : Cut (cutLines cs) := by
  fun_induction cutLines cs with
  | case1 => exact .nil
  | case2 rest ih => exact .cons .feed (by simp) ih
  | case3 rest ih => exact .cons .returnFeed (by simp) ih
  | case4 c rest hn hr ih =>
    have hc : '\n' ≠ c := fun heq => hn heq.symm
    -- `c` comes to the first line, whose end stays as it is
    cases hcut : cutLines rest with
    | nil => exact .last (by simpa using hc) (by simp)
    | cons first more =>
      rw [hcut] at ih
      cases ih with
      | last hline hne => exact .last (by simpa using ⟨hc, hline⟩) (by simp)
      | cons e hline hmore => exact .cons e (by simpa using ⟨hc, hline⟩) hmore

/-! ## Setting out -/

/-- How a line is set out: white space in front of it and behind it, and the line end that it
gets in place of its own, if any. -/
structure LineLayout where
  indent : List Char := []
  trail : List Char := []
  lineEnd : Option LineEnd := none
  isSpace_indent : ∀ c ∈ indent, isSpace c = true := by exact List.all_eq_true.mp rfl
  isSpace_trail : ∀ c ∈ trail, isSpace c = true := by exact List.all_eq_true.mp rfl

/-- The line end of a line with a layout. A last line without one stays so. -/
def LineLayout.finish (l : LineLayout) : List Char → List Char
  | [] => []
  | fin => (l.lineEnd.map LineEnd.text).getD fin

theorem LineLayout.exists_finish_eq (l : LineLayout) (e : LineEnd) :
    ∃ e' : LineEnd, l.finish e.text = e'.text := by
  refine ⟨l.lineEnd.getD e, ?_⟩
  cases e <;> cases h : l.lineEnd <;> simp [finish, LineEnd.text, h]

/-- The text of some lines with their line ends, counted from a number on, each set out in
its own way. -/
def layOut (layout : Nat → LineLayout) : Nat → List (List Char × List Char) → List Char
  | _, [] => []
  | n, (line, fin) :: more =>
    (layout n).indent ++ line ++ (layout n).trail ++ (layout n).finish fin ++
      layOut layout (n + 1) more

/-- **Lines that are set out are the same lines**, but for white space around them. -/
theorem map_trim_lines_layOut (layout : Nat → LineLayout)
    {pieces : List (List Char × List Char)} (h : Cut pieces) (n : Nat) :
    (lines (layOut layout n pieces)).map trim = (pieces.map Prod.fst).map trim := by
  induction h generalizing n with
  | nil => rfl
  | @last line hline hne =>
    rw [layOut, layOut, LineLayout.finish, List.append_nil, List.append_nil]
    exact map_trim_lines_pad (layout n).isSpace_indent (layout n).isSpace_trail hline
      (by simp [hne])
  | @cons line more e hline _ ih =>
    obtain ⟨e', he'⟩ := (layout n).exists_finish_eq e
    rw [layOut, he', map_trim_lines_pad_append (layout n).isSpace_indent (layout n).isSpace_trail
      hline, ih, List.map_cons, List.map_cons]

end Text

/-- A script in which the lines are set out anew, each by the layout for its number. -/
def relaid (layout : Nat → Text.LineLayout) (source : String) : String :=
  String.ofList (Text.layOut layout 1 (Text.cutLines source.toList))

theorem map_trim_lines_relaid (layout : Nat → Text.LineLayout) (source : String) :
    (Text.lines (relaid layout source).toList).map Text.trim =
      (Text.lines source.toList).map Text.trim := by
  rw [relaid, String.toList_ofList, Text.map_trim_lines_layOut layout (Text.cut_cutLines _),
    Text.map_fst_cutLines]

namespace Program

/-- **Layout does not matter.** White space around a line changes nothing of what is read of
it, be it a call, a comment or a problem, and a script may be set out in any way: with other
indentation, other white space at the ends of its lines, and other line ends, it has the same
calls, the same normalized lines and the same problems. -/
theorem read_laid_out (catalog : Catalog) (number : Nat) (raw front back : List Char)
    (hfront : ∀ c ∈ front, Text.isBlank c = true) (hback : ∀ c ∈ back, Text.isBlank c = true) :
    Line.read catalog number (front ++ raw ++ back) = Line.read catalog number raw ∧
    ∀ (layout : Nat → Text.LineLayout) (source : String),
      Program.read catalog (relaid layout source) = Program.read catalog source := by
  refine ⟨Line.read_pad catalog number hfront hback raw, ?_⟩
  intro layout source
  rw [Program.read, Program.read, readLines_congr (map_trim_lines_relaid layout source)]

/-- A quote that is open at the end of a line, and a script of three lines that gets other
white space and line ends. -/
theorem read_laid_out_park :
    let raw := "build_park('a # b)".toList
    let front := ['\t', '\u2003']
    let back := [' ', '\n', '\r']
    let layout : Nat → Text.LineLayout := fun n =>
      if n = 1 then { indent := ['\t'], lineEnd := some .returnFeed }
      else { trail := ['\u3000', '\r'] }
    let source := "build_park(1, 2) # it's\n\nfoo("
    (∀ c ∈ front, Text.isBlank c = true) ∧ (∀ c ∈ back, Text.isBlank c = true) ∧
    Line.read .builtin 1 (front ++ raw ++ back) =
      .call (Catalog.landmark "build_park")
        ⟨"build_park", [.text "'a # b", .null, .text ""], "build_park('a # b)", 1⟩ ∧
    relaid layout source = "\tbuild_park(1, 2) # it's\r\n\u3000\r\nfoo(\u3000\r" ∧
    Program.read .builtin (relaid layout source) = Program.read .builtin source := by
  intro raw front back layout source
  have hfront : ∀ c ∈ front, Text.isBlank c = true := List.all_eq_true.mp rfl
  have hback : ∀ c ∈ back, Text.isBlank c = true := List.all_eq_true.mp rfl
  obtain ⟨hline, hprogram⟩ := read_laid_out .builtin 1 raw front back hfront hback
  refine ⟨hfront, hback, ?_, by decide +kernel, hprogram layout source⟩
  rw [hline]
  decide +kernel

end Program

end CityScript
