/-
Call lines have one form and one reading.

A call line is put together from up to nine parts: the target with its equals sign and the
blanks around that, the head, blanks, the arguments in parentheses, and blanks. Every text
of this form is read as a call, and whatever is read as a call has this form. That the
parts can be told from the text rests on the classes of their characters. A name goes on as
long as there are word characters, and what follows it is none; blanks go on as long as
there are blanks, and what follows them is none. From the front this gives all parts up to
the first parenthesis, and from the back the blanks behind the last one, so the arguments
are what is between these two, whatever parentheses they hold themselves.
-/
import CityScript.Proofs.CallGrammar

set_option autoImplicit false

namespace CityScript

/-! ## Runs of one class -/

/-- **A run ends in one place only**: a text is characters of a class and a rest that begins
with none in at most one way. -/
theorem run_unique {p : Char → Bool} {run run' rest rest' : List Char}
    (h : run ++ rest = run' ++ rest')
    (hrun : ∀ c ∈ run, p c = true) (hrest : ∀ c ∈ rest.head?, p c = false)
    (hrun' : ∀ c ∈ run', p c = true) (hrest' : ∀ c ∈ rest'.head?, p c = false) :
    run = run' ∧ rest = rest' := by
  have hfirst : run = run' := by
    rw [← takeWhile_run hrun hrest, h, takeWhile_run hrun' hrest']
  refine ⟨hfirst, ?_⟩
  rw [hfirst] at h
  exact List.append_cancel_left h

theorem forall_mem_head?_cons {p : Char → Bool} {d : Char} (hd : p d = false) (rest : List Char) :
    ∀ c ∈ (d :: rest).head?, p c = false := by
  intro c hc
  obtain rfl : d = c := by simpa using hc
  exact hd

/-- A name, blanks and a sign of neither class: the name goes as far as there are word
characters, and the blanks go up to the sign. -/
theorem name_gap_unique {name name' gap gap' rest rest' : List Char} {d d' : Char}
    (h : name ++ (gap ++ d :: rest) = name' ++ (gap' ++ d' :: rest'))
    (hname : isIdentifier name = true) (hgap : ∀ c ∈ gap, Text.isBlank c = true)
    (hd : Text.isWord d = false ∧ Text.isBlank d = false)
    (hname' : isIdentifier name' = true) (hgap' : ∀ c ∈ gap', Text.isBlank c = true)
    (hd' : Text.isWord d' = false ∧ Text.isBlank d' = false) :
    name = name' ∧ gap = gap' ∧ d = d' ∧ rest = rest' := by
  obtain ⟨rfl, hrest⟩ := run_unique h
    (isWord_of_isIdentifier hname) (CallLine.isWord_head?_gap hgap hd.1 rest)
    (isWord_of_isIdentifier hname') (CallLine.isWord_head?_gap hgap' hd'.1 rest')
  obtain ⟨rfl, hsign⟩ := run_unique hrest
    hgap (forall_mem_head?_cons hd.2 rest) hgap' (forall_mem_head?_cons hd'.2 rest')
  exact ⟨rfl, rfl, List.cons.inj hsign⟩

/-! ## The parts of a call line -/

/-- A name with an equals sign behind it, and the blanks around that sign. -/
structure CallTarget where
  name : List Char
  before : List Char
  behind : List Char
  isIdentifier_name : isIdentifier name = true
  isBlank_before : ∀ c ∈ before, Text.isBlank c = true
  isBlank_behind : ∀ c ∈ behind, Text.isBlank c = true

/-- The parts of a call line. -/
structure CallForm where
  target : Option CallTarget
  head : List Char
  gap : List Char
  body : List Char
  after : List Char
  isIdentifier_head : isIdentifier head = true
  isBlank_gap : ∀ c ∈ gap, Text.isBlank c = true
  newline_not_mem_body : '\n' ∉ body
  isBlank_after : ∀ c ∈ after, Text.isBlank c = true

def CallTarget.text (t : CallTarget) : List Char := t.name ++ (t.before ++ '=' :: t.behind)

namespace CallForm

/-- What comes behind the target: the head, blanks, the body in parentheses, and blanks. -/
def callPart (f : CallForm) : List Char :=
  f.head ++ (f.gap ++ '(' :: (f.body ++ ')' :: f.after))

/-- The line that is put together from the parts. -/
def text (f : CallForm) : List Char :=
  match f.target with
  | none => f.callPart
  | some t => t.text ++ f.callPart

/-- **Whatever has the form of a call is read as one.** -/
theorem read?_text (f : CallForm) : CallLine.read? f.text = some ⟨f.head, f.body⟩ := by
  have hread : ∀ {target : List Char}, CallLine.IsTarget target →
      CallLine.read? (target ++ f.callPart) = some ⟨f.head, f.body⟩ := fun htarget =>
    CallLine.read?_append htarget f.isIdentifier_head f.isBlank_gap f.newline_not_mem_body
      f.isBlank_after
  rw [text]
  cases f.target with
  | none => exact hread (.inl rfl)
  | some t =>
    exact hread (.inr ⟨t.name, t.before, t.behind, t.isIdentifier_name, t.isBlank_before,
      t.isBlank_behind, rfl⟩)

end CallForm

/-! ## Whatever is read has the form -/

namespace Text

/-- In front of what trimming leaves there are blanks only. -/
theorem exists_gap (cs : List Char) :
    ∃ gap, (∀ c ∈ gap, isBlank c = true) ∧ cs = gap ++ trimStart cs := by
  refine ⟨cs.takeWhile isBlank, ?_, ?_⟩
  · exact List.all_eq_true.mp List.all_takeWhile
  · exact List.takeWhile_append_dropWhile.symm

end Text

namespace CallLine

theorem readBody?_eq_some {cs body : List Char} (h : readBody? cs = some body) :
    '\n' ∉ body ∧ ∃ after, (∀ c ∈ after, Text.isBlank c = true) ∧ cs = body ++ ')' :: after := by
  obtain ⟨gap, hgap, hcs⟩ := Text.exists_gap cs.reverse
  unfold readBody? at h
  rw [Text.trimStart] at hcs
  split at h
  · next rest hrest =>
    split at h
    · cases h
    · next hline =>
      cases h
      rw [hrest] at hcs
      refine ⟨by simpa using hline, gap.reverse, by simpa using hgap, ?_⟩
      rw [← List.reverse_reverse cs, hcs]
      simp
  · cases h

theorem afterHead?_eq_some {head cs : List Char} {call : CallLine}
    (h : afterHead? head cs = some call) :
    call.head = head ∧ '\n' ∉ call.body ∧ ∃ gap after, (∀ c ∈ gap, Text.isBlank c = true) ∧
      (∀ c ∈ after, Text.isBlank c = true) ∧ cs = gap ++ '(' :: (call.body ++ ')' :: after) := by
  obtain ⟨gap, hgap, hcs⟩ := Text.exists_gap cs
  unfold afterHead? at h
  split at h
  · next rest hrest =>
    obtain ⟨body, hbody, rfl⟩ := Option.map_eq_some_iff.mp h
    obtain ⟨hline, after, hafter, rfl⟩ := readBody?_eq_some hbody
    exact ⟨rfl, hline, gap, after, hgap, hafter, by rw [← hrest]; exact hcs⟩
  · cases h

/-- **Whatever is read as a call has the form of one.** -/
theorem exists_form_of_read? {cs : List Char} {call : CallLine} (h : read? cs = some call) :
    ∃ f : CallForm, f.text = cs := by
  unfold read? at h
  split at h
  · cases h
  · next name rest hname =>
    obtain ⟨hidentifier, rfl⟩ := readIdentifier?_eq_some hname
    split at h
    · next rest' hsign =>
      split at h
      · cases h
      · next head rest'' hhead =>
        -- the first name is that of the target, with blanks on both sides of the sign
        obtain ⟨hidentifier', hrest'⟩ := readIdentifier?_eq_some hhead
        obtain ⟨-, hline, gap, after, hgap, hafter, rfl⟩ := afterHead?_eq_some h
        obtain ⟨before, hbefore, hcs⟩ := Text.exists_gap rest
        obtain ⟨behind, hbehind, hcs'⟩ := Text.exists_gap rest'
        refine ⟨⟨some ⟨name, before, behind, hidentifier, hbefore, hbehind⟩, head, gap, call.body,
          after, hidentifier', hgap, hline, hafter⟩, ?_⟩
        rw [hcs, hsign, hcs', hrest']
        simp [CallForm.text, CallForm.callPart, CallTarget.text]
    · -- no sign follows, so the first name is the head; the blanks behind it were trimmed twice
      obtain ⟨-, hline, gap, after, hgap, hafter, hrest⟩ := afterHead?_eq_some h
      obtain ⟨first, hfirst, hcs⟩ := Text.exists_gap rest
      have hblank : ∀ c ∈ first ++ gap, Text.isBlank c = true := by
        intro c hc
        exact (List.mem_append.mp hc).elim (hfirst c) (hgap c)
      refine ⟨⟨none, name, first ++ gap, call.body, after, hidentifier, hblank, hline, hafter⟩, ?_⟩
      rw [hcs, hrest]
      simp [CallForm.text, CallForm.callPart]

theorem isIdentifier_head {cs : List Char} {call : CallLine} (h : read? cs = some call) :
    isIdentifier call.head = true := by
  obtain ⟨f, rfl⟩ := exists_form_of_read? h
  rw [f.read?_text] at h
  cases h
  exact f.isIdentifier_head

end CallLine

/-! ## One reading -/

namespace CallForm

theorem callPart_unique {f g : CallForm} (h : f.callPart = g.callPart) :
    f.head = g.head ∧ f.gap = g.gap ∧ f.body = g.body ∧ f.after = g.after := by
  have hclose : Text.isBlank ')' = false := by decide
  obtain ⟨hhead, hgap, -, hrest⟩ := name_gap_unique h
    f.isIdentifier_head f.isBlank_gap (by decide) g.isIdentifier_head g.isBlank_gap (by decide)
  -- the parenthesis that closes the arguments is found from the back
  have hreverse : f.after.reverse ++ ')' :: f.body.reverse =
      g.after.reverse ++ ')' :: g.body.reverse := by
    simpa using congrArg List.reverse hrest
  obtain ⟨hafter, hbody⟩ := run_unique hreverse
    (by simpa using f.isBlank_after) (forall_mem_head?_cons hclose _)
    (by simpa using g.isBlank_after) (forall_mem_head?_cons hclose _)
  exact ⟨hhead, hgap, List.reverse_inj.mp (List.cons.inj hbody).2, List.reverse_inj.mp hafter⟩

theorem target_append (t : CallTarget) (rest : List Char) :
    t.text ++ rest = t.name ++ (t.before ++ '=' :: (t.behind ++ rest)) := by
  rw [CallTarget.text, List.append_assoc, List.append_assoc, List.cons_append]

theorem target_unique {t u : CallTarget} {f g : CallForm}
    (h : t.text ++ f.callPart = u.text ++ g.callPart) : t = u ∧ f.callPart = g.callPart := by
  rw [target_append, target_append] at h
  obtain ⟨hname, hbefore, -, hrest⟩ := name_gap_unique h
    t.isIdentifier_name t.isBlank_before (by decide) u.isIdentifier_name u.isBlank_before (by decide)
  obtain ⟨hbehind, hpart⟩ := run_unique hrest
    t.isBlank_behind (isBlank_head?_identifier f.isIdentifier_head _)
    u.isBlank_behind (isBlank_head?_identifier g.isIdentifier_head _)
  refine ⟨?_, hpart⟩
  cases t
  cases u
  simp_all

/-- Without a target a parenthesis comes behind the first name, and with one a sign. -/
theorem callPart_ne_target (f g : CallForm) (t : CallTarget) :
    f.callPart ≠ t.text ++ g.callPart := by
  intro h
  rw [target_append] at h
  obtain ⟨-, -, hsign, -⟩ := name_gap_unique h
    f.isIdentifier_head f.isBlank_gap (by decide) t.isIdentifier_name t.isBlank_before (by decide)
  exact absurd hsign (by decide)

/-- **A call line has one reading**: its parts are told from its text. -/
theorem text_injective : Function.Injective text := by
  intro f g h
  have heq : f.target = g.target ∧ f.callPart = g.callPart := by
    rw [text, text] at h
    cases hf : f.target with
    | none =>
      cases hg : g.target with
      | none => exact ⟨rfl, by rwa [hf, hg] at h⟩
      -- a line cannot be read both with a target and without
      | some u => exact absurd (by rwa [hf, hg] at h) (callPart_ne_target f g u)
    | some t =>
      cases hg : g.target with
      | none => exact absurd (by rwa [hf, hg, eq_comm] at h) (callPart_ne_target g f t)
      | some u =>
        rw [hf, hg] at h
        obtain ⟨htarget, hpart⟩ := target_unique h
        exact ⟨congrArg some htarget, hpart⟩
  obtain ⟨hhead, hgap, hbody, hafter⟩ := callPart_unique heq.2
  have htarget := heq.1
  cases f
  cases g
  simp_all

/-- The characters that can stand in front of the arguments: those of names, blanks, and the
sign behind a target. -/
def isFront (c : Char) : Bool := Text.isWord c || Text.isBlank c || c == '='

theorem isFront_name {name : List Char} (h : isIdentifier name = true) :
    ∀ c ∈ name, isFront c = true := by
  intro c hc
  rw [isFront, isWord_of_isIdentifier h c hc]
  rfl

theorem isFront_gap {gap : List Char} (h : ∀ c ∈ gap, Text.isBlank c = true) :
    ∀ c ∈ gap, isFront c = true := by
  intro c hc
  rw [isFront, h c hc, Bool.or_true]
  rfl

theorem isFront_target (t : CallTarget) : ∀ c ∈ t.text, isFront c = true := by
  intro c hc
  rw [CallTarget.text, List.mem_append, List.mem_append, List.mem_cons] at hc
  rcases hc with hc | hc | rfl | hc
  · exact isFront_name t.isIdentifier_name c hc
  · exact isFront_gap t.isBlank_before c hc
  · decide
  · exact isFront_gap t.isBlank_behind c hc

/-- The arguments stand in parentheses, with names, blanks and a sign in front of these and
blanks behind. -/
theorem exists_front (f : CallForm) :
    ∃ before behind, f.text = before ++ '(' :: (f.body ++ ')' :: behind) ∧
      (∀ c ∈ before, isFront c = true) ∧ ∀ c ∈ behind, Text.isBlank c = true := by
  have hpart : ∀ c ∈ f.head ++ f.gap, isFront c = true := fun c hc =>
    (List.mem_append.mp hc).elim (isFront_name f.isIdentifier_head c) (isFront_gap f.isBlank_gap c)
  rw [text]
  cases f.target with
  | none => exact ⟨f.head ++ f.gap, f.after, by simp [callPart], hpart, f.isBlank_after⟩
  | some t =>
    refine ⟨t.text ++ (f.head ++ f.gap), f.after, by simp [callPart], ?_, f.isBlank_after⟩
    exact fun c hc => (List.mem_append.mp hc).elim (isFront_target t c) (hpart c)

/-- **The arguments are what is between the first opening and the last closing parenthesis.** -/
theorem body_between_parentheses (f : CallForm) :
    ∃ before behind, f.text = before ++ '(' :: (f.body ++ ')' :: behind) ∧
      '(' ∉ before ∧ ')' ∉ behind := by
  obtain ⟨before, behind, htext, hbefore, hbehind⟩ := f.exists_front
  exact ⟨before, behind, htext, not_mem_run hbefore (by decide), not_mem_run hbehind (by decide)⟩

end CallForm

/-- **Call lines.** A line is read as a call if it is put together from the parts of one, and
only then. It is so in one way only. The call has the head among these parts, and its
arguments are the body, which is everything between the first opening parenthesis of the
line and the last closing one. -/
theorem CallLine.read?_exactly_forms :
    (∀ cs : List Char, (read? cs).isSome = true ↔ ∃ f : CallForm, f.text = cs) ∧
    Function.Injective CallForm.text ∧
    ∀ f : CallForm, read? f.text = some ⟨f.head, f.body⟩ ∧
      ∃ before behind, f.text = before ++ '(' :: (f.body ++ ')' :: behind) ∧
        '(' ∉ before ∧ ')' ∉ behind := by
  refine ⟨?_, CallForm.text_injective, fun f => ⟨f.read?_text, f.body_between_parentheses⟩⟩
  intro cs
  constructor
  · intro h
    obtain ⟨call, hcall⟩ := Option.isSome_iff_exists.mp h
    exact exists_form_of_read? hcall
  · rintro ⟨f, rfl⟩
    rw [f.read?_text]
    rfl

example : CallLine.read? "x = f (a) (b) ".toList = some ⟨"f".toList, "a) (b".toList⟩ := by
  decide +kernel

end CityScript
