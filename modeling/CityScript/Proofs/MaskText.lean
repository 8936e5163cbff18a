/-
Masks from texts: what a text of glyphs is read as.

The rows of a text are its lines without the white space around them, blank lines left out.
All their characters are looked at before the shape is. So a text with a character that is no
glyph is refused for the first one in reading order, even where its rows are no square, and
every other text is read as the rows of truth values that its glyphs stand for.

From this side a mask may be written with either glyph of many for a cell, with white space
around the rows, with blank lines between them, and with either line end. All these texts have
the same rows of truth values, so a square is read back as itself however it is written.
-/
import CityScript.Proofs.MaskRows
import CityScript.Proofs.PaddedLines

set_option autoImplicit false

namespace CityScript.Mask

/-! ## Glyphs -/

/-- All characters of a line are glyphs. -/
def AllGlyphs (line : List Char) : Prop := ∀ c ∈ line, glyph? c ≠ none

/-- The truth values of a line of glyphs. -/
def decode (line : List Char) : List Bool := line.map fun c => glyph? c == some true

/-- The first character of some lines, in reading order, that is no glyph, with its row and its
column: all lines above it and all characters before it on its line are glyphs. -/
def FirstUnknown (lines : List (List Char)) (glyph : Char) (row col : Nat) : Prop :=
  ∃ above before after below, lines = above ++ (before ++ glyph :: after) :: below ∧
    above.length = row ∧ before.length = col ∧ glyph? glyph = none ∧
    (∀ line ∈ above, AllGlyphs line) ∧ AllGlyphs before

theorem readGlyphs_of_allGlyphs {line : List Char} (h : AllGlyphs line) (row col : Nat) :
    readGlyphs row col line = .ok (decode line) := by
  induction line generalizing col with
  | nil => rfl
  | cons c line ih =>
    obtain ⟨land, hland⟩ := Option.ne_none_iff_exists'.mp (h c List.mem_cons_self)
    rw [readGlyphs, hland, ih fun d hd => h d (List.mem_cons_of_mem c hd)]
    simp [Except.map, decode, hland]

/-- Reading a line stops at its first character that is no glyph. -/
theorem readGlyphs_of_unknown {before : List Char} (h : AllGlyphs before) {glyph : Char}
    (hglyph : glyph? glyph = none) (after : List Char) (row col : Nat) :
    readGlyphs row col (before ++ glyph :: after) =
      .error (.unknownGlyph glyph row (col + before.length)) := by
  induction before generalizing col with
  | nil =>
    rw [List.nil_append, readGlyphs, hglyph]
    rfl
  | cons c before ih =>
    obtain ⟨land, hland⟩ := Option.ne_none_iff_exists'.mp (h c List.mem_cons_self)
    rw [List.cons_append, readGlyphs, hland, ih fun d hd => h d (List.mem_cons_of_mem c hd)]
    simp [Except.map, Nat.add_assoc, Nat.add_comm 1]

theorem readRows_of_allGlyphs {lines : List (List Char)} (h : ∀ line ∈ lines, AllGlyphs line)
    (row : Nat) : readRows row lines = .ok (lines.map decode) := by
  induction lines generalizing row with
  | nil => rfl
  | cons line lines ih =>
    rw [readRows, readGlyphs_of_allGlyphs (h line List.mem_cons_self),
      ih fun l hl => h l (List.mem_cons_of_mem line hl)]
    rfl

/-- **Reading stops at the first character that is no glyph.** -/
theorem readRows_of_firstUnknown {lines : List (List Char)} {glyph : Char} {row col : Nat}
    (h : FirstUnknown lines glyph row col) (start : Nat) :
    readRows start lines = .error (.unknownGlyph glyph (start + row) col) := by
  obtain ⟨above, before, after, below, rfl, rfl, rfl, hglyph, habove, hbefore⟩ := h
  induction above generalizing start with
  | nil =>
    rw [List.nil_append, readRows, readGlyphs_of_unknown hbefore hglyph]
    simp
  | cons line above ih =>
    rw [List.cons_append, readRows, readGlyphs_of_allGlyphs (habove line List.mem_cons_self),
      ih (start + 1) fun l hl => habove l (List.mem_cons_of_mem line hl)]
    simp [Except.map, Nat.add_assoc, Nat.add_comm 1]

/-- Lines have glyphs only, or a first character that is none. -/
theorem allGlyphs_or_firstUnknown (lines : List (List Char)) :
    (∀ line ∈ lines, AllGlyphs line) ∨ ∃ glyph row col, FirstUnknown lines glyph row col := by
  cases hline : lines.find? (fun line => line.any fun c => (glyph? c).isNone) with
  | none =>
    refine .inl ?_
    intro line hmem c hc
    have hknown := List.find?_eq_none.mp hline line hmem
    simp only [List.any_eq_true, not_exists, not_and] at hknown
    simpa using hknown c hc
  | some line =>
    obtain ⟨hunknown, above, below, rfl, habove⟩ := List.find?_eq_some_iff_append.mp hline
    obtain ⟨c, hc, hnone⟩ := List.any_eq_true.mp hunknown
    -- on the first line with such a character, the first of them is the one
    have hsome : (line.find? fun c => (glyph? c).isNone).isSome = true := by
      rw [List.find?_isSome]
      exact ⟨c, hc, hnone⟩
    obtain ⟨glyph, hglyph⟩ := Option.isSome_iff_exists.mp hsome
    obtain ⟨hfirst, before, after, rfl, hbefore⟩ := List.find?_eq_some_iff_append.mp hglyph
    refine .inr ⟨glyph, _, _, above, before, after, below, rfl, rfl, rfl, by simpa using hfirst,
      ?_, ?_⟩
    · intro l hl d hd
      have hknown := habove l hl
      simp only [Bool.not_eq_true', List.any_eq_false] at hknown
      simpa using hknown d hd
    · intro d hd
      simpa [Option.isSome_iff_ne_none] using hbefore d hd

/-! ## The law of a text -/

/-- What becomes of a text: it is refused for the first character of its rows that is no glyph,
and without one it is read as the rows that its glyphs stand for. -/
structure TextLaw (text : String) : Prop where
  unknown_iff : ∀ glyph row col, ofText text = .error (.unknownGlyph glyph row col) ↔
    FirstUnknown (textRows text) glyph row col
  unknown_exists : (∃ line ∈ textRows text, ∃ c ∈ line, glyph? c = none) →
    ∃ glyph row col, ofText text = .error (.unknownGlyph glyph row col)
  known_eq : (∀ line ∈ textRows text, AllGlyphs line) →
    ofText text = ofRows ((textRows text).map decode)

section

variable {text : String}

theorem ofText_of_firstUnknown {glyph : Char} {row col : Nat}
    (h : FirstUnknown (textRows text) glyph row col) :
    ofText text = .error (.unknownGlyph glyph row col) := by
  rw [ofText, readRows_of_firstUnknown h, Nat.zero_add]

theorem ofText_of_allGlyphs (h : ∀ line ∈ textRows text, AllGlyphs line) :
    ofText text = ofRows ((textRows text).map decode) := by
  rw [ofText, readRows_of_allGlyphs h]

end

theorem textLaw_ofText (text : String) : TextLaw text where
  known_eq := ofText_of_allGlyphs
  unknown_exists := by
    rintro ⟨line, hline, c, hc, hnone⟩
    rcases allGlyphs_or_firstUnknown (textRows text) with h | ⟨glyph, row, col, h⟩
    · exact absurd hnone (h line hline c hc)
    · exact ⟨glyph, row, col, ofText_of_firstUnknown h⟩
  unknown_iff := by
    intro glyph row col
    refine ⟨?_, ofText_of_firstUnknown⟩
    intro herror
    rcases allGlyphs_or_firstUnknown (textRows text) with h | ⟨glyph', row', col', h⟩
    · -- rows of truth values are never refused for a glyph
      rw [ofText_of_allGlyphs h, ofRows_eq_error_iff] at herror
      exact herror.elim
    · rw [ofText_of_firstUnknown h] at herror
      cases herror
      exact h

/-! ## Written masks -/

/-- The rows of truth values that a text is written from: each row by glyphs of its own choice
on a line of its own, white space around it, and blank lines anywhere. Lines end in either way,
and the last one may have no end. -/
inductive Writes : List (List Bool) → List Char → Prop
  | blankEnd {gap : List Char} (hgap : ∀ c ∈ gap, Text.isSpace c = true) : Writes [] gap
  | rowEnd {row : List Bool} {front glyphs back : List Char}
      (hfront : ∀ c ∈ front, Text.isSpace c = true) (hback : ∀ c ∈ back, Text.isSpace c = true)
      (hglyphs : glyphs.map glyph? = row.map some) : Writes [row] (front ++ glyphs ++ back)
  | blank {rows : List (List Bool)} {gap text : List Char} (e : Text.LineEnd)
      (hgap : ∀ c ∈ gap, Text.isSpace c = true) (hrest : Writes rows text) :
      Writes rows (gap ++ e.text ++ text)
  | row {row : List Bool} {rows : List (List Bool)} {front glyphs back text : List Char}
      (e : Text.LineEnd) (hfront : ∀ c ∈ front, Text.isSpace c = true)
      (hback : ∀ c ∈ back, Text.isSpace c = true) (hglyphs : glyphs.map glyph? = row.map some)
      (hrest : Writes rows text) :
      Writes (row :: rows) (front ++ glyphs ++ back ++ e.text ++ text)

/-- A glyph is no white space. -/
theorem isBlank_eq_false_of_glyph? {c : Char} {land : Bool} (h : glyph? c = some land) :
    Text.isBlank c = false := by
  unfold glyph? at h
  split at h
  · next hland => rcases hland with rfl | rfl | rfl | rfl <;> decide
  · split at h
    · next hwater => rcases hwater with rfl | rfl | rfl | rfl <;> decide
    · cases h

section

variable {glyphs : List Char} {row : List Bool} (h : glyphs.map glyph? = row.map some)
include h

theorem exists_glyph?_of_mem {c : Char} (hc : c ∈ glyphs) : ∃ land, glyph? c = some land := by
  have hmem : glyph? c ∈ glyphs.map glyph? := List.mem_map_of_mem hc
  rw [h, List.mem_map] at hmem
  obtain ⟨land, -, hland⟩ := hmem
  exact ⟨land, hland.symm⟩

theorem allGlyphs_of_map_glyph? : AllGlyphs glyphs := by
  intro c hc hnone
  obtain ⟨land, hland⟩ := exists_glyph?_of_mem h hc
  rw [hland] at hnone
  cases hnone

theorem decode_of_map_glyph? : decode glyphs = row := by
  have hdecode : decode glyphs = (glyphs.map glyph?).map (· == some true) := by
    rw [List.map_map]
    rfl
  rw [hdecode, h, List.map_map]
  refine List.map_id'' ?_ row
  intro land
  cases land <;> rfl

theorem newline_not_mem_of_map_glyph? : '\n' ∉ glyphs := by
  intro hmem
  obtain ⟨land, hland⟩ := exists_glyph?_of_mem h hmem
  cases hland

/-- Glyphs have no white space to trim. -/
theorem trim_of_map_glyph? : Text.trim glyphs = glyphs := by
  have hblank : ∀ c ∈ glyphs, Text.isBlank c = false := by
    intro c hc
    obtain ⟨land, hland⟩ := exists_glyph?_of_mem h hc
    exact isBlank_eq_false_of_glyph? hland
  exact Text.trim_eq_self (fun c hc => hblank c (List.mem_of_mem_head? hc))
    (fun c hc => hblank c (List.mem_of_getLast? hc))

end

/-- **The rows of a written text** are glyphs for the rows that it is written from. -/
theorem Writes.exists_textRows {rows : List (List Bool)} {text : List Char} (h : Writes rows text)
    (hrows : ∀ row ∈ rows, row ≠ []) :
    (∀ line ∈ textRows (String.ofList text), AllGlyphs line) ∧
      (textRows (String.ofList text)).map decode = rows := by
  simp only [textRows, String.toList_ofList]
  have hkept : ∀ {row : List Bool} {glyphs : List Char}, row ≠ [] →
      glyphs.map glyph? = row.map some → glyphs ≠ [] := by
    rintro row glyphs hrow hglyphs rfl
    exact hrow (List.map_eq_nil_iff.mp hglyphs.symm)
  induction h with
  | @blankEnd gap hgap =>
    by_cases hnil : gap = []
    · simp [hnil]
    · rw [Text.lines_of_newline_not_mem (Text.newline_not_mem_of_isSpace hgap) hnil]
      simp [Text.trim_eq_nil_iff.mpr (Text.isBlank_of_isSpace hgap)]
  | @rowEnd row front glyphs back hfront hback hglyphs =>
    have hne : glyphs ≠ [] := hkept (hrows row List.mem_cons_self) hglyphs
    rw [Text.map_trim_lines_pad hfront hback (newline_not_mem_of_map_glyph? hglyphs)
      (by simp [hne]), trim_of_map_glyph? hglyphs]
    simp [hne, allGlyphs_of_map_glyph? hglyphs, decode_of_map_glyph? hglyphs]
  | blank e hgap _ ih =>
    rw [Text.map_trim_lines_append_lineEnd (Text.newline_not_mem_of_isSpace hgap),
      Text.trim_eq_nil_iff.mpr (Text.isBlank_of_isSpace hgap)]
    simpa using ih hrows
  | @row row rows front glyphs back text e hfront hback hglyphs _ ih =>
    have hne : glyphs ≠ [] := hkept (hrows row List.mem_cons_self) hglyphs
    obtain ⟨hknown, hdecode⟩ := ih fun r hr => hrows r (List.mem_cons_of_mem row hr)
    rw [Text.map_trim_lines_pad_append hfront hback (newline_not_mem_of_map_glyph? hglyphs),
      trim_of_map_glyph? hglyphs, List.filter_cons_of_pos (by simpa using hne), List.map_cons,
      hdecode, decode_of_map_glyph? hglyphs]
    refine ⟨?_, rfl⟩
    intro line hline
    rcases List.mem_cons.mp hline with rfl | hline
    · exact allGlyphs_of_map_glyph? hglyphs
    · exact hknown line hline

/-- A written square is read back. -/
theorem Writes.exists_ofText {rows : List (List Bool)} {text : List Char} (h : Writes rows text)
    (hsquare : IsSquare rows) :
    ∃ m, ofText (String.ofList text) = .ok m ∧ m.Shows rows := by
  have hrows : ∀ row ∈ rows, row ≠ [] := by
    rintro row hrow rfl
    exact hsquare.1 (List.eq_nil_of_length_eq_zero (hsquare.2 [] hrow).symm)
  obtain ⟨hknown, hdecode⟩ := h.exists_textRows hrows
  obtain ⟨m, hm⟩ := exists_ofRows hsquare
  refine ⟨m, ?_, shows_of_ofRows hm⟩
  rw [ofText_of_allGlyphs hknown, hdecode, hm]

/-- **Masks are read exactly.** A text is refused for the first character of its rows that is
no glyph, and else read as the rows of truth values that it has. Rows are refused for their
fault, and else there is a mask that shows them. So a square that is written as text, in
whatever glyphs and with whatever white space, blank lines and line ends, is read back. -/
theorem reads_exactly (text : String) (rows : List (List Bool)) :
    TextLaw text ∧ RowsLaw rows ∧
      ∀ written, Writes rows written → IsSquare rows →
        ∃ m, ofText (String.ofList written) = .ok m ∧ m.Shows rows :=
  ⟨textLaw_ofText text, rowsLaw_ofRows rows, fun _ h hsquare => h.exists_ofText hsquare⟩

/-- A square with a blank line, indentation and two line ends, and a text that is no square but
refused for its glyph. -/
theorem reads_exactly_headland :
    let rows := [[true, false], [true, true]]
    let written := "\t\n #~\r\n1x ".toList
    Writes rows written ∧ IsSquare rows ∧
    (∃ m, ofText (String.ofList written) = .ok m ∧ m.Shows rows) ∧
    FirstUnknown (textRows "#?\n#") '?' 0 1 ∧ ofText "#?\n#" = .error (.unknownGlyph '?' 0 1) := by
  intro rows written
  have hlast : Writes [[true, true]] ([] ++ "1x".toList ++ [' ']) :=
    .rowEnd (List.all_eq_true.mp rfl) (List.all_eq_true.mp rfl) (by decide)
  have hboth : Writes rows ([' '] ++ "#~".toList ++ [] ++ ['\r', '\n'] ++ _) :=
    .row .returnFeed (List.all_eq_true.mp rfl) (List.all_eq_true.mp rfl) (by decide) hlast
  have hwritten : Writes rows (['\t'] ++ ['\n'] ++ _) := .blank .feed (List.all_eq_true.mp rfl) hboth
  have hsquare : IsSquare rows := by decide
  have hunknown : FirstUnknown (textRows "#?\n#") '?' 0 1 :=
    ⟨[], ['#'], [], [['#']], by decide +kernel, rfl, rfl, by decide, by simp,
      by simp [AllGlyphs, glyph?]⟩
  obtain ⟨htext, -, hread⟩ := reads_exactly "#?\n#" rows
  exact ⟨hwritten, hsquare, hread written hwritten hsquare, hunknown,
    (htext.unknown_iff '?' 0 1).mpr hunknown⟩

end CityScript.Mask
