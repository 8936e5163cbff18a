/-
The form of a call line.

A call line is an optional target with an equals sign, a head, the arguments in
parentheses, and blanks between these and after them. The reader of such lines
never tries anything twice. It need not, since the part that it is in ends where
the next character is of another class: neither a blank nor the parenthesis or the
equals sign is a word character. Here that is turned into the law that every text
put together in this form is read as the call that it was put together from.
-/
import CityScript.Script.CallLine

set_option autoImplicit false

namespace CityScript

/-! ## Runs of one class -/

section

variable {p : Char → Bool} {run rest : List Char}

/-- Taking what is of a class stops in front of text that begins with none. -/
theorem takeWhile_run (hrun : ∀ c ∈ run, p c = true) (hrest : ∀ c ∈ rest.head?, p c = false) :
    (run ++ rest).takeWhile p = run := by
  rw [List.takeWhile_append_of_pos hrun]
  cases rest with
  | nil => simp
  | cons c rest => rw [List.takeWhile_cons_of_neg (by simp [hrest c rfl]), List.append_nil]

theorem dropWhile_run (hrun : ∀ c ∈ run, p c = true) (hrest : ∀ c ∈ rest.head?, p c = false) :
    (run ++ rest).dropWhile p = rest := by
  rw [List.dropWhile_append_of_pos hrun]
  cases rest with
  | nil => rfl
  | cons c rest => rw [List.dropWhile_cons_of_neg (by simp [hrest c rfl])]

theorem not_mem_run (hrun : ∀ c ∈ run, p c = true) {d : Char} (hd : p d = false) : d ∉ run := by
  intro hmem
  rw [hrun d hmem] at hd
  cases hd

end

/-! ## Blanks are no word characters -/

namespace Text

/-- A blank never continues a word. -/
theorem isWord_eq_false_of_isBlank {c : Char} (h : isBlank c = true) : isWord c = false := by
  -- the class of the blanks is finite, so each of them is looked up in the table
  have hcodes : ∀ n ∈ [0x09, 0x0A, 0x0B, 0x0C, 0x0D, 0x20, 0x85, 0xA0, 0x1680, 0x2000, 0x2001,
      0x2002, 0x2003, 0x2004, 0x2005, 0x2006, 0x2007, 0x2008, 0x2009, 0x200A, 0x2028, 0x2029,
      0x202F, 0x205F, 0x3000], isWord (Char.ofNat n) = false := by
    decide +kernel
  rw [← Char.ofNat_toNat c]
  refine hcodes _ ?_
  simp only [isBlank, Bool.or_eq_true, Bool.and_eq_true, decide_eq_true_eq, beq_iff_eq] at h
  simp only [List.mem_cons, List.not_mem_nil, or_false]
  omega

/-- A word character is no blank. -/
theorem isBlank_eq_false_of_isWord {c : Char} (h : isWord c = true) : isBlank c = false := by
  rw [Bool.eq_false_iff]
  intro hblank
  rw [isWord_eq_false_of_isBlank hblank] at h
  cases h

end Text

/-! ## Identifiers -/

/-- Whether a text is an identifier: a letter or an underscore, and word characters. -/
def isIdentifier : List Char → Bool
  | [] => false
  | c :: rest => Text.isWordStart c && rest.all Text.isWord

/-- An identifier has word characters only. -/
theorem isWord_of_isIdentifier {name : List Char} (h : isIdentifier name = true) :
    ∀ c ∈ name, Text.isWord c = true := by
  cases name with
  | nil => simp
  | cons first rest =>
    rw [isIdentifier, Bool.and_eq_true, List.all_eq_true] at h
    intro c hc
    rcases List.mem_cons.mp hc with rfl | hc
    · exact Text.isWord_of_isWordStart h.1
    · exact h.2 c hc

/-- Text that begins with an identifier begins with no blank. -/
theorem isBlank_head?_identifier {name : List Char} (h : isIdentifier name = true)
    (rest : List Char) : ∀ c ∈ (name ++ rest).head?, Text.isBlank c = false := by
  cases name with
  | nil => cases h
  | cons first name =>
    intro c hc
    obtain rfl : first = c := by simpa using hc
    exact Text.isBlank_eq_false_of_isWord (isWord_of_isIdentifier h first List.mem_cons_self)

/-- An identifier that is read is one, and nothing of the text is lost. -/
theorem readIdentifier?_eq_some {cs name rest : List Char}
    (h : readIdentifier? cs = some (name, rest)) :
    isIdentifier name = true ∧ cs = name ++ rest := by
  cases cs with
  | nil => cases h
  | cons c cs =>
    rw [readIdentifier?] at h
    split at h
    · next hstart =>
      cases h
      refine ⟨?_, ?_⟩
      · rw [isIdentifier, hstart, Bool.true_and]
        exact List.all_takeWhile
      · rw [List.cons_append, List.takeWhile_append_dropWhile]
    · cases h

/-- An identifier is read up to a character that is no word character. -/
theorem readIdentifier?_append {name rest : List Char} (hname : isIdentifier name = true)
    (hrest : ∀ c ∈ rest.head?, Text.isWord c = false) :
    readIdentifier? (name ++ rest) = some (name, rest) := by
  cases name with
  | nil => cases hname
  | cons first more =>
    rw [isIdentifier, Bool.and_eq_true, List.all_eq_true] at hname
    rw [List.cons_append, readIdentifier?, if_pos hname.1, takeWhile_run hname.2 hrest,
      dropWhile_run hname.2 hrest]

/-! ## Call lines -/

namespace CallLine

/-- The body of a call ends at a closing parenthesis that only blanks follow. -/
theorem readBody?_append {body after : List Char} (hbody : '\n' ∉ body)
    (hafter : ∀ c ∈ after, Text.isBlank c = true) :
    readBody? (body ++ ')' :: after) = some body := by
  have hdrop : (body ++ ')' :: after).reverse.dropWhile Text.isBlank = ')' :: body.reverse := by
    have hrev : (body ++ ')' :: after).reverse = after.reverse ++ ')' :: body.reverse := by simp
    rw [hrev, List.dropWhile_append_of_pos (by simpa using hafter),
      List.dropWhile_cons_of_neg (by decide)]
  rw [readBody?, hdrop]
  simp [hbody]

/-- What comes after the head of a call: blanks, and the arguments in parentheses. -/
theorem afterHead?_append (head : List Char) {gap body after : List Char}
    (hgap : ∀ c ∈ gap, Text.isBlank c = true) (hbody : '\n' ∉ body)
    (hafter : ∀ c ∈ after, Text.isBlank c = true) :
    afterHead? head (gap ++ '(' :: (body ++ ')' :: after)) = some ⟨head, body⟩ := by
  rw [afterHead?, Text.trimStart_append_of_forall hgap,
    Text.trimStart_cons_of_not_isBlank (by decide)]
  show (readBody? (body ++ ')' :: after)).map _ = _
  rw [readBody?_append hbody hafter]
  rfl

/-- What may stand in front of the head of a call: nothing, or a name and an equals
sign, with blanks around the sign. -/
def IsTarget (target : List Char) : Prop :=
  target = [] ∨ ∃ name before after, isIdentifier name = true ∧
    (∀ c ∈ before, Text.isBlank c = true) ∧ (∀ c ∈ after, Text.isBlank c = true) ∧
    target = name ++ (before ++ '=' :: after)

/-- The first character after the head of a call, a blank or a parenthesis, is no word character. -/
theorem isWord_head?_gap {gap : List Char} (hgap : ∀ c ∈ gap, Text.isBlank c = true) {c : Char}
    (hc : Text.isWord c = false) (rest : List Char) :
    ∀ d ∈ (gap ++ c :: rest).head?, Text.isWord d = false := by
  intro d hd
  cases gap with
  | nil =>
    obtain rfl : c = d := by simpa using hd
    exact hc
  | cons b gap =>
    obtain rfl : b = d := by simpa using hd
    exact Text.isWord_eq_false_of_isBlank (hgap b List.mem_cons_self)

/-- In front of an identifier there is nothing to trim. -/
theorem trimStart_identifier {name : List Char} (h : isIdentifier name = true)
    (rest : List Char) : Text.trimStart (name ++ rest) = name ++ rest := by
  cases name with
  | nil => cases h
  | cons c name =>
    exact Text.trimStart_cons_of_not_isBlank (isBlank_head?_identifier h rest c rfl) _

/-- Without an equals sign the first identifier is the head. -/
theorem read?_of_head {cs head rest rest' : List Char}
    (hhead : readIdentifier? cs = some (head, rest)) (hopen : Text.trimStart rest = '(' :: rest') :
    read? cs = afterHead? head ('(' :: rest') := by
  simp only [read?, hhead, hopen]
  rfl

/-- With an equals sign the identifier behind it is the head. -/
theorem read?_of_target {cs name rest rest' head after : List Char}
    (hname : readIdentifier? cs = some (name, rest)) (hsign : Text.trimStart rest = '=' :: rest')
    (hhead : readIdentifier? (Text.trimStart rest') = some (head, after)) :
    read? cs = afterHead? head after := by
  simp only [read?, hname, hsign, hhead]

/-- **A line in the form of a call is read as one.** -/
theorem read?_append {target head gap body after : List Char} (htarget : IsTarget target)
    (hhead : isIdentifier head = true) (hgap : ∀ c ∈ gap, Text.isBlank c = true)
    (hbody : '\n' ∉ body) (hafter : ∀ c ∈ after, Text.isBlank c = true) :
    read? (target ++ (head ++ (gap ++ '(' :: (body ++ ')' :: after)))) = some ⟨head, body⟩ := by
  have hread := readIdentifier?_append hhead
    (isWord_head?_gap hgap (by decide : Text.isWord '(' = false) (body ++ ')' :: after))
  rcases htarget with rfl | ⟨name, before, behind, hname, hbefore, hbehind, rfl⟩
  · -- without a target the first character after the blanks is the parenthesis
    have hopen : Text.trimStart (gap ++ '(' :: (body ++ ')' :: after)) =
        '(' :: (body ++ ')' :: after) := by
      rw [Text.trimStart_append_of_forall hgap, Text.trimStart_cons_of_not_isBlank (by decide)]
    rw [List.nil_append, read?_of_head hread hopen]
    exact @afterHead?_append head [] body after (by simp) hbody hafter
  · -- the equals sign ends the target, and behind it the head is read as without one
    have hfirst := readIdentifier?_append hname
      (isWord_head?_gap hbefore (by decide : Text.isWord '=' = false)
        (behind ++ (head ++ (gap ++ '(' :: (body ++ ')' :: after)))))
    have hsign : Text.trimStart (before ++ '=' :: (behind ++ (head ++ (gap ++
        '(' :: (body ++ ')' :: after))))) =
          '=' :: (behind ++ (head ++ (gap ++ '(' :: (body ++ ')' :: after)))) := by
      rw [Text.trimStart_append_of_forall hbefore, Text.trimStart_cons_of_not_isBlank (by decide)]
    rw [List.append_assoc, List.append_assoc, List.cons_append, read?_of_target hfirst hsign
      (by rw [Text.trimStart_append_of_forall hbehind, trimStart_identifier hhead, hread])]
    exact afterHead?_append head hgap hbody hafter

end CallLine

end CityScript
