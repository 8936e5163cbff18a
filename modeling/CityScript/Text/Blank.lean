/-
Blank characters, and cutting them off both ends of a text.

Blank means the Unicode property White_Space: the ASCII blanks, the next-line
control, the no-break spaces and the general spaces and separators. The zero
width space and the byte order mark are not in it.
-/

set_option autoImplicit false

namespace CityScript.Text

/-! ## The class -/

/-- The characters with the White_Space property. -/
def isBlank (c : Char) : Bool :=
  (0x09 ≤ c.toNat && c.toNat ≤ 0x0D) || c.toNat == 0x20 || c.toNat == 0x85 || c.toNat == 0xA0 ||
    c.toNat == 0x1680 || (0x2000 ≤ c.toNat && c.toNat ≤ 0x200A) || c.toNat == 0x2028 ||
    c.toNat == 0x2029 || c.toNat == 0x202F || c.toNat == 0x205F || c.toNat == 0x3000

/-! ## Trimming -/

/-- Drops the blanks in front. -/
def trimStart (cs : List Char) : List Char :=
  cs.dropWhile isBlank

/-- Drops the blanks at the end. -/
def trimEnd (cs : List Char) : List Char :=
  (cs.reverse.dropWhile isBlank).reverse

/-- Drops the blanks at both ends. -/
def trim (cs : List Char) : List Char :=
  trimEnd (trimStart cs)

@[simp] theorem trim_nil : trim [] = [] := rfl

/-- The text without the blanks at its ends. -/
def trimmed (s : String) : String :=
  String.ofList (trim s.toList)

/-! ### What trimming keeps -/

/-- The part of a text from its first character that is not blank is blank only if
the text is. -/
theorem forall_mem_trimStart {cs : List Char} :
    (∀ c ∈ trimStart cs, isBlank c = true) ↔ ∀ c ∈ cs, isBlank c = true := by
  induction cs with
  | nil => rfl
  | cons c cs ih =>
    rw [trimStart] at ih ⊢
    by_cases hc : isBlank c = true
    · rw [List.dropWhile_cons_of_pos hc, ih]
      simp [hc]
    · rw [List.dropWhile_cons_of_neg hc]

/-- A text is trimmed away in front if it is blank, and only then. -/
theorem trimStart_eq_nil_iff {cs : List Char} :
    trimStart cs = [] ↔ ∀ c ∈ cs, isBlank c = true := by
  constructor
  · intro h
    rw [← forall_mem_trimStart, h]
    simp
  · intro h
    induction cs with
    | nil => rfl
    | cons c cs ih =>
      rw [trimStart, List.dropWhile_cons_of_pos (h c List.mem_cons_self)]
      exact ih fun d hd => h d (List.mem_cons_of_mem c hd)

/-- A text is trimmed away if it is blank, and only then. -/
theorem trim_eq_nil_iff {cs : List Char} : trim cs = [] ↔ ∀ c ∈ cs, isBlank c = true := by
  rw [← forall_mem_trimStart, trim, trimEnd, List.reverse_eq_nil_iff]
  have h := @trimStart_eq_nil_iff (trimStart cs).reverse
  simp only [List.mem_reverse] at h
  exact h

/-- Trimming only takes characters away. -/
theorem trim_sublist (cs : List Char) : (trim cs).Sublist cs := by
  have hfront : (trimStart cs).Sublist cs := List.dropWhile_sublist isBlank
  have hend : (trim cs).Sublist (trimStart cs) := by
    rw [trim, trimEnd, ← List.reverse_sublist, List.reverse_reverse]
    exact List.dropWhile_sublist isBlank
  exact hend.trans hfront

/-- A text with a character at its start that is not blank keeps its start. -/
theorem trimStart_cons_of_not_isBlank {c : Char} (h : isBlank c = false) (cs : List Char) :
    trimStart (c :: cs) = c :: cs :=
  List.dropWhile_cons_of_neg (by simp [h])

/-- Blanks in front do not count. -/
theorem trimStart_append_of_forall {gap : List Char} (h : ∀ c ∈ gap, isBlank c = true)
    (cs : List Char) : trimStart (gap ++ cs) = trimStart cs :=
  List.dropWhile_append_of_pos h

/-- A text that begins and ends with characters that are not blank is trimmed. -/
theorem trim_eq_self {cs : List Char} (hfirst : ∀ c ∈ cs.head?, isBlank c = false)
    (hlast : ∀ c ∈ cs.getLast?, isBlank c = false) : trim cs = cs := by
  have hstart : ∀ ds : List Char, (∀ c ∈ ds.head?, isBlank c = false) → trimStart ds = ds := by
    intro ds h
    cases ds with
    | nil => rfl
    | cons d ds => exact trimStart_cons_of_not_isBlank (h d rfl) ds
  have hend := hstart cs.reverse (by rw [List.head?_reverse]; exact hlast)
  rw [trim, hstart cs hfirst, trimEnd]
  rw [trimStart] at hend
  rw [hend, List.reverse_reverse]

end CityScript.Text
