/-
Which arguments give a value under a name.

The reader of arguments goes to the first equals sign and looks at what is before it. An
argument has a name when there is something before that sign, and no quote in it, and then
the name is that, without the blanks around it. A quoted text with an equals sign inside
has none, since its first quote is before the sign, and neither has a text that begins with
the sign.
-/
import CityScript.Proofs.CallGrammar
import CityScript.Script.Arguments

set_option autoImplicit false

namespace CityScript

/-! ## Names -/

/-- An argument gives a text under a name: the name is what is before the first equals sign,
which is not empty and has no quote, and the text is what is behind the sign. -/
def GivesUnder (argument : List Char) (name : String) (text : List Char) : Prop :=
  ∃ key, argument = key ++ '=' :: text ∧ '=' ∉ key ∧ key ≠ [] ∧ (∀ c ∈ key, isQuote c = false) ∧
    String.ofList (Text.trim key) = name

/-- An argument gives something under a name. -/
def GivesName (argument : List Char) (name : String) : Prop := ∃ text, GivesUnder argument name text

/-- An argument gives something under some name. -/
def HasName (argument : List Char) : Prop := ∃ name, GivesName argument name

/-! ## The reader finds the names -/

/-- **Splitting off a name** succeeds in front of the first equals sign, if there is
something and no quote. -/
theorem keywordSplit?_eq_some_iff {argument name text : List Char} :
    keywordSplit? argument = some (name, text) ↔
      ∃ key, argument = key ++ '=' :: text ∧ '=' ∉ key ∧ key ≠ [] ∧
        (∀ c ∈ key, isQuote c = false) ∧ Text.trim key = name := by
  constructor
  · intro h
    unfold keywordSplit? at h
    dsimp only at h
    split at h
    · cases h
    · next c rest hdrop =>
      split at h
      · cases h
      · next hkey =>
        cases h
        rw [not_or, List.any_eq_true, not_exists] at hkey
        -- what is left out in front of the rest is no equals sign, and the rest begins with one
        have hstop := List.head?_dropWhile_not (fun c => decide (c ≠ '=')) argument
        rw [hdrop] at hstop
        obtain rfl : c = '=' := by simpa using hstop
        refine ⟨argument.takeWhile (· ≠ '='), ?_, ?_, hkey.1, ?_, rfl⟩
        · rw [← hdrop, List.takeWhile_append_dropWhile]
        · exact fun hmem => absurd (List.all_eq_true.mp List.all_takeWhile _ hmem) (by decide)
        · intro c hc
          rw [← Bool.not_eq_true]
          exact fun hquote => hkey.2 c ⟨hc, hquote⟩
  · rintro ⟨key, rfl, hsign, hne, hquote, rfl⟩
    have hrun : ∀ c ∈ key, decide (c ≠ '=') = true := by
      intro c hc
      rw [decide_eq_true_eq]
      exact fun heq => hsign (heq ▸ hc)
    have hrest : ∀ c ∈ ('=' :: text).head?, decide (c ≠ '=') = false := by
      intro c hc
      obtain rfl : '=' = c := by simpa using hc
      decide
    have hany : ¬ (key = [] ∨ key.any isQuote = true) := by
      rw [not_or, List.any_eq_true]
      refine ⟨hne, ?_⟩
      rintro ⟨c, hc, hq⟩
      rw [hquote c hc] at hq
      cases hq
    rw [keywordSplit?, takeWhile_run hrun hrest, dropWhile_run hrun hrest]
    exact if_neg hany

theorem givesUnder_iff {argument text : List Char} {name : String} :
    GivesUnder argument name text ↔
      ∃ key, keywordSplit? argument = some (key, text) ∧ String.ofList key = name := by
  simp only [keywordSplit?_eq_some_iff]
  constructor
  · rintro ⟨key, hargument, hsign, hne, hquote, hname⟩
    exact ⟨_, ⟨key, hargument, hsign, hne, hquote, rfl⟩, hname⟩
  · rintro ⟨_, ⟨key, hargument, hsign, hne, hquote, rfl⟩, hname⟩
    exact ⟨key, hargument, hsign, hne, hquote, hname⟩

theorem GivesUnder.unique {argument text text' : List Char} {name name' : String}
    (h : GivesUnder argument name text) (h' : GivesUnder argument name' text') :
    name = name' ∧ text = text' := by
  obtain ⟨key, hkey, rfl⟩ := givesUnder_iff.mp h
  obtain ⟨key', hkey', rfl⟩ := givesUnder_iff.mp h'
  rw [hkey] at hkey'
  cases hkey'
  exact ⟨rfl, rfl⟩

theorem hasName_iff {argument : List Char} :
    HasName argument ↔ (keywordSplit? argument).isSome = true := by
  rw [Option.isSome_iff_exists]
  constructor
  · rintro ⟨name, text, h⟩
    obtain ⟨key, hkey, -⟩ := givesUnder_iff.mp h
    exact ⟨_, hkey⟩
  · rintro ⟨⟨key, text⟩, hkey⟩
    exact ⟨_, text, givesUnder_iff.mpr ⟨key, hkey, rfl⟩⟩

theorem givesName_iff {argument : List Char} {name : String} :
    GivesName argument name ↔
      (keywordSplit? argument).any (fun p => String.ofList p.1 == name) = true := by
  rw [Option.any_eq_true]
  constructor
  · rintro ⟨text, h⟩
    obtain ⟨key, hkey, rfl⟩ := givesUnder_iff.mp h
    exact ⟨_, hkey, beq_self_eq_true _⟩
  · rintro ⟨⟨key, text⟩, hkey, hname⟩
    exact ⟨text, givesUnder_iff.mpr ⟨key, hkey, beq_iff_eq.mp hname⟩⟩

instance (argument : List Char) : Decidable (HasName argument) :=
  decidable_of_iff _ hasName_iff.symm

instance (argument : List Char) (name : String) : Decidable (GivesName argument name) :=
  decidable_of_iff _ givesName_iff.symm

namespace Given

/-- **An argument is read as a value under a name** if it gives one. -/
theorem named?_read_eq_some_iff {argument : List Char} {name : String} {value : Value} :
    (read argument).named? = some (name, value) ↔
      ∃ text, GivesUnder argument name text ∧ Value.read text = value := by
  simp only [givesUnder_iff]
  rw [read]
  cases hsplit : keywordSplit? argument with
  | none => simp [named?]
  | some parts =>
    obtain ⟨key, text⟩ := parts
    simp only [named?, Option.some.injEq, Prod.mk.injEq]
    constructor
    · rintro ⟨hname, hvalue⟩
      exact ⟨text, ⟨key, ⟨rfl, rfl⟩, hname⟩, hvalue⟩
    · rintro ⟨_, ⟨_, ⟨rfl, rfl⟩, hname⟩, hvalue⟩
      exact ⟨hname, hvalue⟩

/-- **An argument without a name is read as a value by its position.** -/
theorem positional?_read (argument : List Char) :
    (read argument).positional? =
      if HasName argument then none else some (Value.read argument) := by
  rw [read]
  cases hsplit : keywordSplit? argument with
  | none =>
    have hname : ¬ HasName argument := by
      rw [hasName_iff, hsplit]
      exact Bool.false_ne_true
    rw [if_neg hname]
    rfl
  | some parts =>
    have hname : HasName argument := by
      rw [hasName_iff, hsplit]
      rfl
    rw [if_pos hname]
    rfl

theorem filterMap_positional?_read (arguments : List (List Char)) :
    (arguments.map read).filterMap positional? =
      (arguments.filter fun argument => ¬ HasName argument).map Value.read := by
  induction arguments with
  | nil => rfl
  | cons argument arguments ih =>
    rw [List.map_cons, List.filterMap_cons, positional?_read, List.filter_cons, ih]
    by_cases hname : HasName argument
    · rw [if_pos hname, if_neg (by simpa using hname)]
    · rw [if_neg hname, if_pos (by simpa using hname)]
      rfl

end Given

end CityScript
