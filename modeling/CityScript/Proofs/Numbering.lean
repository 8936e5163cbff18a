/-
The numbers of the lines of a script.

A line is read on its own, and its number is only written down: into the call on
it, or into the problem with it. Nothing else of what is read depends on the
number. So lines that move down by some number are the same lines with greater
numbers, in the calls, in the diagnostics, and in the results of a run, which
carry their calls with them.

Since the numbers are those of the positions, they grow from one call to the next,
and a call and a problem never have the same number.
-/
import CityScript.Proofs.Placing

set_option autoImplicit false

namespace CityScript

/-! ## Moving down -/

/-- The same call `n` lines further down. -/
def Call.shift (n : Nat) (c : Call) : Call := { c with line := c.line + n }

/-- The same problem `n` lines further down. -/
def Diagnostic.shift (n : Nat) (d : Diagnostic) : Diagnostic := { d with line := d.line + n }

/-- The same result of the same call `n` lines further down. -/
def CallResult.shift (n : Nat) (r : CallResult) : CallResult := { r with call := r.call.shift n }

namespace Line

/-- The same line `n` lines further down. -/
def shift (n : Nat) : Line → Line
  | .blank => .blank
  | .comment text => .comment text
  | .call signature c => .call signature (c.shift n)
  | .rejected d => .rejected (d.shift n)

theorem call?_shift (n : Nat) (l : Line) : (l.shift n).call? = l.call?.map (·.shift n) := by
  cases l <;> rfl

theorem diagnostic?_shift (n : Nat) (l : Line) :
    (l.shift n).diagnostic? = l.diagnostic?.map (·.shift n) := by
  cases l <;> rfl

/-- The normalized form does not show the number. -/
@[simp] theorem render_shift (n : Nat) (l : Line) : (l.shift n).render = l.render := by
  cases l <;> rfl

/-- **The number of a line is only written down.** -/
theorem read_add (catalog : Catalog) (number n : Nat) (raw : List Char) :
    Line.read catalog (number + n) raw = (Line.read catalog number raw).shift n := by
  unfold Line.read
  dsimp only
  split
  · split <;> rfl
  · unfold Line.ofCode
    split
    · rfl
    · dsimp only
      split <;> rfl

/-- The number that is written into a line. -/
def number? : Line → Option Nat
  | .call _ c => some c.line
  | .rejected d => some d.line
  | _ => none

/-- A line has no other number than that of its position. -/
theorem eq_of_number?_read {catalog : Catalog} {number : Nat} {raw : List Char} {n : Nat}
    (h : (Line.read catalog number raw).number? = some n) : n = number := by
  unfold Line.read at h
  dsimp only at h
  split at h
  · -- a line without code is blank or a comment
    split at h <;> cases h
  · unfold Line.ofCode at h
    split at h
    · cases h
      rfl
    · dsimp only at h
      split at h <;> cases h <;> rfl

theorem number?_of_call? {l : Line} {c : Call} (h : l.call? = some c) :
    l.number? = some c.line := by
  cases l <;> cases h
  rfl

theorem number?_of_diagnostic? {l : Line} {d : Diagnostic} (h : l.diagnostic? = some d) :
    l.number? = some d.line := by
  cases l <;> cases h
  rfl

/-- A call has the number of its line. -/
theorem line_of_call? {catalog : Catalog} {number : Nat} {raw : List Char} {c : Call}
    (h : (Line.read catalog number raw).call? = some c) : c.line = number :=
  eq_of_number?_read (number?_of_call? h)

/-- A problem has the number of its line. -/
theorem line_of_diagnostic? {catalog : Catalog} {number : Nat} {raw : List Char} {d : Diagnostic}
    (h : (Line.read catalog number raw).diagnostic? = some d) : d.line = number :=
  eq_of_number?_read (number?_of_diagnostic? h)

/-- A line has a call or a problem, never both. -/
theorem diagnostic?_of_call? {l : Line} {c : Call} (h : l.call? = some c) :
    l.diagnostic? = none := by
  cases l <;> first | rfl | cases h

end Line

/-! ## Numbers grow -/

section Numbered

variable {α : Type} {view : Line → Option α} {number : α → Nat} {catalog : Catalog}

/-- What is seen on a line of a script is seen on the line of its number. -/
theorem mem_filterMap_readLines
    (hnumber : ∀ n raw x, view (Line.read catalog n raw) = some x → number x = n)
    {source : String} {x : α} (hx : x ∈ (readLines catalog source).filterMap view) :
    ∃ i raw, (Text.lines source.toList)[i]? = some raw ∧ number x = i + 1 ∧
      view (Line.read catalog (i + 1) raw) = some x := by
  rw [List.mem_filterMap] at hx
  obtain ⟨l, hl, hview⟩ := hx
  rw [readLines, List.mem_mapIdx] at hl
  obtain ⟨i, hi, rfl⟩ := hl
  exact ⟨i, _, List.getElem?_eq_getElem hi, hnumber _ _ _ hview, hview⟩

/-- **Numbers grow** from one line to the next. -/
theorem filterMap_readLines_pairwise
    (hnumber : ∀ n raw x, view (Line.read catalog n raw) = some x → number x = n)
    (source : String) :
    ((readLines catalog source).filterMap view).Pairwise fun x y => number x < number y := by
  rw [List.pairwise_filterMap, List.pairwise_iff_getElem]
  intro i j hi hj hij x hx y hy
  simp only [readLines, List.getElem_mapIdx] at hx hy
  rw [hnumber _ _ _ hx, hnumber _ _ _ hy]
  omega

end Numbered

namespace Program

/-- The calls of a script stand on different lines, in the order of the lines. -/
theorem calls_pairwise (catalog : Catalog) (source : String) :
    (Program.read catalog source).calls.Pairwise fun c c' => c.line < c'.line :=
  filterMap_readLines_pairwise (fun _ _ _ => Line.line_of_call?) source

/-- No line has a call and a problem. -/
theorem line_ne_line {catalog : Catalog} {source : String} {c : Call} {d : Diagnostic}
    (hc : c ∈ (Program.read catalog source).calls)
    (hd : d ∈ (Program.read catalog source).diagnostics) : c.line ≠ d.line := by
  obtain ⟨i, raw, hraw, hline, hcall⟩ :=
    mem_filterMap_readLines (fun _ _ _ => Line.line_of_call?) hc
  obtain ⟨j, raw', hraw', hline', hdiagnostic⟩ :=
    mem_filterMap_readLines (fun _ _ _ => Line.line_of_diagnostic?) hd
  -- with one number both would be seen on the line at one position
  intro heq
  obtain rfl : i = j := by omega
  obtain rfl : raw = raw' := by simpa [hraw] using hraw'
  rw [Line.diagnostic?_of_call? hcall] at hdiagnostic
  cases hdiagnostic

end Program

end CityScript
