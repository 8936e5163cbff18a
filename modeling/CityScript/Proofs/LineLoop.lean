/-
A script read in one loop over its lines.

A program is given by views of the lines of its script, one view for each of its lists.
The loop below makes the same program in a single pass: it numbers the lines in words of
32 bits as it comes to them, finds the comment of each by its offset in bytes, and adds
what the line gives to the end of the lists. Three things are to be shown for it.

The offset counts the bytes of the code, so the two slices of a line that begin and end at
it are always cut between characters, and they are the code and the comment
(`splitAtByte?_byteCount`). The signature that a call is written with is looked up again,
and is the one that its arguments were filled by (`push_eq`). The numbers are exact as long
as the number of lines fits a word (`readFrom?_eq`).
-/
import CityScript.Proofs.LineAccount

set_option autoImplicit false

namespace CityScript

/-! ## Offsets in bytes -/

namespace Text

/-- How many bytes of UTF-8 a text takes. -/
def byteCount (cs : List Char) : Nat := (String.ofList cs).utf8ByteSize

@[simp] theorem byteCount_nil : byteCount [] = 0 := rfl

@[simp] theorem byteCount_cons (c : Char) (cs : List Char) :
    byteCount (c :: cs) = c.utf8Size + byteCount cs := by
  rw [byteCount, String.ofList_cons, String.utf8ByteSize_append, String.utf8ByteSize_singleton,
    byteCount]

/-- Cuts a text at an offset in bytes. An offset inside of a character, or behind the end,
is none to cut at. -/
def splitAtByte? : Nat → List Char → Option (List Char × List Char)
  | 0, cs => some ([], cs)
  | _ + 1, [] => none
  | i + 1, c :: cs =>
    if c.utf8Size ≤ i + 1 then
      (splitAtByte? (i + 1 - c.utf8Size) cs).map fun (front, back) => (c :: front, back)
    else none

/-- **Between two parts of a text** it can be cut. -/
theorem splitAtByte?_byteCount (front back : List Char) :
    splitAtByte? (byteCount front) (front ++ back) = some (front, back) := by
  induction front with
  | nil => rw [byteCount_nil, List.nil_append, splitAtByte?]
  | cons c front ih =>
    have hsize := c.utf8Size_pos
    obtain ⟨i, hi⟩ : ∃ i, c.utf8Size + byteCount front = i + 1 :=
      Nat.exists_eq_succ_of_ne_zero (by omega)
    have hrest : i + 1 - c.utf8Size = byteCount front := by omega
    rw [byteCount_cons, hi, List.cons_append, splitAtByte?, if_pos (by omega), hrest, ih]
    rfl

end Text

/-! ## Where a comment begins -/

/-- Looks for the mark of a comment, with the offset that the scan has come to and the
quote that is open there. -/
def commentStart? (opened : Option Char) (offset : Nat) : List Char → Option Nat
  | [] => none
  | c :: rest =>
    match opened with
    | some q =>
      if c = q then commentStart? none (offset + c.utf8Size) rest
      else commentStart? (some q) (offset + c.utf8Size) rest
    | none =>
      if c = '\x27' ∨ c = '"' then commentStart? (some c) (offset + c.utf8Size) rest
      else if c = '#' then some offset
      else commentStart? none (offset + c.utf8Size) rest

/-- One step of the scan: it stops at a mark outside quotes, and goes on with the quote
that is open then. -/
theorem commentStart?_cons (opened : Option Char) (offset : Nat) (c : Char)
    (rest : List Char) :
    commentStart? opened offset (c :: rest) =
      if opened = none ∧ c = '#' then some offset
      else commentStart? (quoteStep opened c) (offset + c.utf8Size) rest := by
  cases opened with
  | some q =>
    rw [if_neg (fun h => nomatch h.1)]
    by_cases hclose : c = q
    · simp [commentStart?, quoteStep, hclose]
    · simp [commentStart?, quoteStep, hclose]
  | none =>
    by_cases hquote : c = '\x27' ∨ c = '"'
    · have hmark : c ≠ '#' := by
        rintro rfl
        revert hquote
        decide
      rw [commentStart?, if_pos hquote, if_neg (fun h => hmark h.2), quoteStep,
        if_pos (isQuote_iff.mpr hquote)]
    · have hstep : quoteStep none c = none := if_neg (mt isQuote_iff.mp hquote)
      rw [commentStart?, if_neg hquote, hstep]
      by_cases hmark : c = '#'
      · rw [if_pos hmark, if_pos ⟨rfl, hmark⟩]
      · rw [if_neg hmark, if_neg (fun h => hmark h.2)]

/-- **The scan finds the end of the code.** -/
theorem commentStart?_eq (opened : Option Char) (offset : Nat) (cs : List Char) :
    commentStart? opened offset cs =
      (CommentSplit.scan opened cs).startByte?.map (offset + ·) := by
  induction cs generalizing opened offset with
  | nil => rfl
  | cons c cs ih =>
    rw [commentStart?_cons, CommentSplit.scan_cons]
    split
    · rfl
    · -- the code is longer by the character that the offset has moved over
      rw [ih, CommentSplit.startByte?, CommentSplit.startByte?, CommentSplit.push,
        Option.map_map, Option.map_map]
      refine congrArg (Option.map · _) (funext fun _ => ?_)
      have hcons := Text.byteCount_cons c (CommentSplit.scan (quoteStep opened c) cs).code
      unfold Text.byteCount at hcons
      dsimp only [Function.comp_apply]
      rw [hcons, Nat.add_assoc]

/-! ## Single lines -/

namespace Line

/-- Reads a line that is cut at an offset in bytes: the code is what is in front of the
comment, and the comment begins a byte behind the offset of its mark. -/
def readSliced? (catalog : Catalog) (number : Nat) (raw : List Char) : Option Line := do
  let start := commentStart? none 0 raw
  let code ← match start with
    | none => some raw
    | some i => (Text.splitAtByte? i raw).map Prod.fst
  let code := Text.trim code
  if code = [] then
    match start with
    | none => return .blank
    | some i => do
      let (_, text) ← Text.splitAtByte? (i + 1) raw
      return .comment (String.ofList (Text.trim text))
  else return ofCode catalog number (String.ofList (Text.trim raw)) code

/-- **No slice is out of place**, and what is read is the line. -/
theorem readSliced?_eq (catalog : Catalog) (number : Nat) (raw : List Char) :
    readSliced? catalog number raw = some (Line.read catalog number raw) := by
  have htext := CommentSplit.text_scan none raw
  rw [← CommentSplit.of, CommentSplit.text] at htext
  have hstart : commentStart? none 0 raw =
      (CommentSplit.of raw).comment.map fun _ => Text.byteCount (CommentSplit.of raw).code := by
    rw [commentStart?_eq, CommentSplit.startByte?, Option.map_map]
    simp only [Function.comp_def, Nat.zero_add]
    rfl
  unfold readSliced? Line.read
  rw [hstart]
  dsimp only
  cases hcomment : (CommentSplit.of raw).comment with
  | none =>
    rw [hcomment] at htext
    dsimp only at htext
    simp only [htext, Option.map_none, Option.bind_eq_bind, Option.bind_some]
    split <;> rfl
  | some comment =>
    rw [hcomment] at htext
    dsimp only at htext
    -- the mark is one byte, so the code and its mark end a byte further on
    have hmark : Text.byteCount (CommentSplit.of raw).code + 1 =
        Text.byteCount ((CommentSplit.of raw).code ++ ['#']) := by
      rw [Text.byteCount, Text.byteCount, String.ofList_append, String.utf8ByteSize_append]
      rfl
    have hcode := Text.splitAtByte?_byteCount (CommentSplit.of raw).code ('#' :: comment)
    have hrest := Text.splitAtByte?_byteCount ((CommentSplit.of raw).code ++ ['#']) comment
    rw [htext] at hcode
    rw [List.append_assoc, List.singleton_append, htext] at hrest
    simp only [Option.map_some, hcode, hmark, hrest, Option.bind_eq_bind, Option.bind_some]
    split <;> rfl

end Line

/-! ## The loop -/

namespace Program

/-- The program with one more line: what the line gives is added at the end of each list.
The signature of a call is looked up in the catalog. -/
def push (catalog : Catalog) (p : Program) : Line → Program
  | .blank => { p with normalized := p.normalized ++ ["// (empty line)"] }
  | .comment text => { p with normalized := p.normalized ++ ["// " ++ text] }
  | .call _ c =>
    let rendered := match catalog.get? c.operation with
      | some s => c.render s
      | none => c.operation ++ "(...)"
    { p with normalized := p.normalized ++ [rendered], calls := p.calls ++ [c] }
  | .rejected d =>
    { p with
      normalized := p.normalized ++ ["// ⚠ " ++ d.rejection.note]
      diagnostics := p.diagnostics ++ [d] }

/-- The program of some lines, continued by that of others. -/
def append (p q : Program) : Program :=
  ⟨p.calls ++ q.calls, p.normalized ++ q.normalized, p.diagnostics ++ q.diagnostics⟩

/-- The second lookup of a signature finds the first one. -/
theorem push_eq (catalog : Catalog) (p : Program) (number : Nat) (raw : List Char) :
    p.push catalog (Line.read catalog number raw) =
      p.append (ofLines [Line.read catalog number raw]) := by
  cases hline : Line.read catalog number raw with
  | blank => simp [push, append, ofLines, Line.call?, Line.diagnostic?, Line.render]
  | comment text => simp [push, append, ofLines, Line.call?, Line.diagnostic?, Line.render]
  | rejected d => simp [push, append, ofLines, Line.call?, Line.diagnostic?, Line.render]
  | call s c =>
    have hsignature := (Line.callLaw_of_read hline).get?_eq
    simp [push, append, ofLines, Line.call?, Line.diagnostic?, Line.render, hsignature]

/-- The number of the line at an index, as a word of 32 bits. -/
def lineNumber (i : Nat) : UInt32 := UInt32.ofNat i + 1

/-- **The numbers of lines wrap around** only behind the last word. -/
theorem toNat_lineNumber (i : Nat) : (lineNumber i).toNat = (i + 1) % (maxWord32 + 1) := by
  have hone : (1 : UInt32).toNat = 1 := rfl
  rw [lineNumber, UInt32.toNat_add, UInt32.toNat_ofNat', hone, Nat.mod_add_mod]
  rfl

/-- Adds the lines from an index on to a program, one after the other. -/
def readFrom? (catalog : Catalog) (p : Program) (i : Nat) : List (List Char) → Option Program
  | [] => some p
  | raw :: rest => do
    let line ← Line.readSliced? catalog (lineNumber i).toNat raw
    readFrom? catalog (p.push catalog line) (i + 1) rest

/-- What the loop adds is the program of the lines that it has read. -/
theorem readFrom?_eq (catalog : Catalog) (p : Program) {i : Nat} {raws : List (List Char)}
    (h : i + raws.length ≤ maxWord32) :
    readFrom? catalog p i raws =
      some (p.append
        (ofLines (raws.mapIdx fun j raw => Line.read catalog (i + j + 1) raw))) := by
  induction raws generalizing p i with
  | nil => simp [readFrom?, append, ofLines]
  | cons raw raws ih =>
    rw [List.length_cons] at h
    have hnumber : (lineNumber i).toNat = i + 1 := by
      rw [toNat_lineNumber]
      exact Nat.mod_eq_of_lt (by omega)
    have hnext : (fun (j : Nat) (raw : List Char) => Line.read catalog (i + 1 + j + 1) raw) =
        fun j raw => Line.read catalog (i + (j + 1) + 1) raw := by
      funext j raw
      rw [Nat.add_right_comm i 1 j, Nat.add_assoc i j 1]
    rw [readFrom?, Line.readSliced?_eq, hnumber, Option.bind_eq_bind, Option.bind_some,
      ih _ (by omega), push_eq, List.mapIdx_cons, hnext]
    have hcons := ofLines_append [Line.read catalog (i + 1) raw]
      (raws.mapIdx fun j raw => Line.read catalog (i + (j + 1) + 1) raw)
    rw [List.singleton_append] at hcons
    rw [Nat.add_zero, hcons]
    simp only [append, List.append_assoc]

/-- **The loop reads the program of a script.** Its numbers are words of 32 bits, which is
enough for every script with as many lines as a word can count. -/
theorem readFrom?_eq_read (catalog : Catalog) (source : String)
    (hlines : (Text.lines source.toList).length ≤ maxWord32) :
    readFrom? catalog ⟨[], [], []⟩ 0 (Text.lines source.toList) =
      some (Program.read catalog source) := by
  rw [readFrom?_eq catalog _ (by omega)]
  simp only [append, List.nil_append, Nat.zero_add]
  rfl

/-- The number of every call and of every problem fits a word then. -/
theorem line_le_maxWord32 (catalog : Catalog) (source : String)
    (hlines : (Text.lines source.toList).length ≤ maxWord32) :
    (∀ c ∈ (Program.read catalog source).calls, c.line ≤ maxWord32) ∧
      ∀ d ∈ (Program.read catalog source).diagnostics, d.line ≤ maxWord32 := by
  obtain ⟨hcalls, hdiagnostics⟩ := (read_account catalog source).line_mem
  exact ⟨fun c hc => (hcalls c hc).2.trans hlines,
    fun d hd => (hdiagnostics d hd).2.trans hlines⟩

end Program

end CityScript
