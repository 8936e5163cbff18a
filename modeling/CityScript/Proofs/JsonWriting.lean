/-
What is written is read back.

A document can be written if its lexemes are of the format, those of its keys included. Both
writers then write a spelling of it: the one without any blanks, the other with line ends
and blanks between the tokens. As every spelling is read, a document that is written comes
back from the reader as it was.

The documents that are made here have such lexemes. A text is escaped, so nothing between
the quotes ends the string. A number is an integer or has its shortest digits laid out with
a point or a power of ten, and in either layout no zero stands in front of other digits,
since the first of the shortest digits is none.
-/
import CityScript.Json.Writer
import CityScript.Proofs.JsonReading
import CityScript.Proofs.NumberText

set_option autoImplicit false

namespace CityScript.Json

/-- A document whose lexemes are of the format. -/
inductive WellFormed : Json → Prop
  | null : WellFormed .null
  | bool (b : Bool) : WellFormed (.bool b)
  | number {lexeme : String} (h : IsNumber lexeme.toList) : WellFormed (.number lexeme)
  | string {lexeme : String} (h : IsLexeme lexeme.toList) : WellFormed (.string lexeme)
  | list {items : List Json} (h : ∀ item ∈ items, WellFormed item) : WellFormed (.list items)
  | object {members : List (String × Json)}
    (hkeys : ∀ member ∈ members, IsLexeme member.1.toList)
    (hvalues : ∀ member ∈ members, WellFormed member.2) : WellFormed (.object members)

/-! ## Entries with commas between them -/

section Entries

variable {after close : List Char}

theorem isSpaces_nil : IsSpaces [] := by
  rintro c ⟨⟩

/-- Texts of the items with a comma between them spell the items. -/
theorem spellsItems_intercalate (hafter : IsSpaces after) (hclose : IsSpaces close)
    {items : List Json} (hne : items ≠ []) {text : Json → List Char}
    (h : ∀ item ∈ items, Spells item (text item)) :
    SpellsItems items ((',' :: after).intercalate (items.map text) ++ (close ++ [']'])) := by
  induction items with
  | nil => exact absurd rfl hne
  | cons item items ih =>
    obtain ⟨hitem, hitems⟩ := List.forall_mem_cons.mp h
    cases items with
    | nil =>
      have hlast := SpellsItems.last hitem hclose
      simpa using hlast
    | cons next items =>
      have hcons := SpellsItems.cons hitem isSpaces_nil hafter (ih (List.cons_ne_nil _ _) hitems)
      simpa [List.intercalate_cons_cons] using hcons

/-- Texts of the members with a comma between them spell the members. -/
theorem spellsMembers_intercalate (hafter : IsSpaces after) (hclose : IsSpaces close)
    {members : List (String × Json)} (hne : members ≠ []) {text : String × Json → List Char}
    (h : ∀ member ∈ members, SpellsMember member (text member)) :
    SpellsMembers members
      ((',' :: after).intercalate (members.map text) ++ (close ++ ['\x7d'])) := by
  induction members with
  | nil => exact absurd rfl hne
  | cons member members ih =>
    obtain ⟨hmember, hmembers⟩ := List.forall_mem_cons.mp h
    cases members with
    | nil =>
      have hlast := SpellsMembers.last hmember hclose
      simpa using hlast
    | cons next members =>
      have hcons := SpellsMembers.cons hmember isSpaces_nil hafter
        (ih (List.cons_ne_nil _ _) hmembers)
      simpa [List.intercalate_cons_cons] using hcons

/-- A member is spelled by its key, and its value behind a colon. -/
theorem spellsMember_of_spells {key : String} {value : Json} {cs : List Char}
    (hkey : IsLexeme key.toList) (hafter : IsSpaces after) (h : Spells value cs) :
    SpellsMember (key, value) ('"' :: (key.toList ++ '"' :: ':' :: (after ++ cs))) := by
  have hmember := SpellsMember.mk hkey isSpaces_nil hafter h
  rwa [String.ofList_toList] at hmember

end Entries

/-! ## The writers -/

theorem isSpaces_lineAt (level : Nat) : IsSpaces (lineAt level).toList := by
  intro c hc
  rw [lineAt, String.toList_append, List.mem_append] at hc
  rcases hc with hc | hc
  · obtain rfl : c = '\n' := by simpa using hc
    decide
  · rw [String.toList_ofList] at hc
    rw [List.eq_of_mem_replicate hc]
    decide

theorem prettyItems_eq (level : Nat) (items : List Json) :
    prettyItems level items = items.map (prettyAt level) := by
  induction items with
  | nil => rfl
  | cons item items ih => rw [prettyItems, ih, List.map_cons]

theorem prettyMembers_eq (level : Nat) (members : List (String × Json)) :
    prettyMembers level members =
      members.map fun m => "\"" ++ m.1 ++ "\": " ++ prettyAt level m.2 := by
  induction members with
  | nil => rfl
  | cons member members ih => rw [prettyMembers, ih, List.map_cons]

theorem compactItems_eq (items : List Json) : compactItems items = items.map compact := by
  induction items with
  | nil => rfl
  | cons item items ih => rw [compactItems, ih, List.map_cons]

theorem compactMembers_eq (members : List (String × Json)) :
    compactMembers members = members.map fun m => "\"" ++ m.1 ++ "\":" ++ compact m.2 := by
  induction members with
  | nil => rfl
  | cons member members ih => rw [compactMembers, ih, List.map_cons]

/-- What stands between two brackets, if there is something. -/
theorem toList_bracket (left right : String) (level : Nat) {entries : List String}
    (hne : entries ≠ []) :
    (bracket left right level entries).toList =
      left.toList ++ ((lineAt (level + 1)).toList ++
        ((',' :: (lineAt (level + 1)).toList).intercalate (entries.map String.toList) ++
          ((lineAt level).toList ++ right.toList))) := by
  have hcomma : ",".toList = [','] := by decide
  cases entries with
  | nil => exact absurd rfl hne
  | cons entry entries =>
    rw [bracket]
    · simp only [String.toList_append, String.toList_intercalate, hcomma, List.append_assoc,
        List.singleton_append]
    · exact hne

/-- **A document on one line** is spelled. -/
theorem spells_compact {j : Json} (h : j.WellFormed) : Spells j (compact j).toList := by
  have hcomma : ",".toList = [','] := by decide
  induction h with
  | null =>
    have htext : "null".toList = ['n', 'u', 'l', 'l'] := by decide
    rw [compact, htext]
    exact .null
  | bool b =>
    have htrue : "true".toList = ['t', 'r', 'u', 'e'] := by decide
    have hfalse : "false".toList = ['f', 'a', 'l', 's', 'e'] := by decide
    rw [compact]
    cases b with
    | true =>
      rw [if_pos rfl, htrue]
      exact .true
    | false =>
      rw [if_neg Bool.false_ne_true, hfalse]
      exact .false
  | @number lexeme h =>
    have hnumber := Spells.number h
    rwa [String.ofList_toList] at hnumber
  | @string lexeme h =>
    have hstring := Spells.string h
    rw [String.ofList_toList] at hstring
    simpa [compact] using hstring
  | @list items h ih =>
    rw [compact, compactItems_eq]
    by_cases hne : items = []
    · subst hne
      have hempty := Spells.emptyList isSpaces_nil
      simpa using hempty
    · have hitems := spellsItems_intercalate isSpaces_nil isSpaces_nil hne ih
      have hspells := Spells.list isSpaces_nil hitems
      simpa [String.toList_intercalate, hcomma, Function.comp_def] using hspells
  | @object members hkeys hvalues ih =>
    rw [compact, compactMembers_eq]
    by_cases hne : members = []
    · subst hne
      have hempty := Spells.emptyObject isSpaces_nil
      simpa using hempty
    · have hmembers := spellsMembers_intercalate isSpaces_nil isSpaces_nil hne
        fun member hmember =>
          spellsMember_of_spells (hkeys member hmember) isSpaces_nil (ih member hmember)
      have hspells := Spells.object isSpaces_nil hmembers
      simpa [String.toList_intercalate, hcomma, Function.comp_def] using hspells

/-- **A document over several lines** is spelled, at every level of nesting. -/
theorem spells_prettyAt {j : Json} (h : j.WellFormed) (level : Nat) :
    Spells j (prettyAt level j).toList := by
  induction h generalizing level with
  | null => exact spells_compact .null
  | bool b => exact spells_compact (.bool b)
  | number h => exact spells_compact (.number h)
  | string h => exact spells_compact (.string h)
  | @list items h ih =>
    rw [prettyAt, prettyItems_eq]
    by_cases hne : items = []
    · subst hne
      have hempty := Spells.emptyList isSpaces_nil
      simpa [bracket] using hempty
    · have hitems := spellsItems_intercalate (isSpaces_lineAt (level + 1)) (isSpaces_lineAt level)
        hne fun item hitem => ih item hitem (level + 1)
      have hspells := Spells.list (isSpaces_lineAt (level + 1)) hitems
      rw [toList_bracket _ _ _ (by simpa using hne)]
      simpa [Function.comp_def] using hspells
  | @object members hkeys hvalues ih =>
    have hblank : IsSpaces [' '] := by
      rintro c hc
      rw [List.mem_singleton.mp hc]
      decide
    rw [prettyAt, prettyMembers_eq]
    by_cases hne : members = []
    · subst hne
      have hempty := Spells.emptyObject isSpaces_nil
      simpa [bracket] using hempty
    · have hmembers := spellsMembers_intercalate (isSpaces_lineAt (level + 1))
        (isSpaces_lineAt level) hne fun member hmember =>
          spellsMember_of_spells (hkeys member hmember) hblank (ih member hmember (level + 1))
      have hspells := Spells.object (isSpaces_lineAt (level + 1)) hmembers
      rw [toList_bracket _ _ _ (by simpa using hne)]
      simpa [Function.comp_def] using hspells

theorem isSpaces_newline : IsSpaces ['\n'] := by
  intro c hc
  rw [List.mem_singleton.mp hc]
  decide

/-- **What is written over several lines is read back**, with a line end behind it. -/
theorem read?_pretty {j : Json} (h : j.WellFormed) : read? (pretty j ++ "\n") = some j := by
  refine read?_of_spells (spells_prettyAt h 0) isSpaces_nil isSpaces_newline ?_
  rw [String.toList_append]
  rfl

/-- **So is what is written on one line.** -/
theorem read?_compact {j : Json} (h : j.WellFormed) : read? (compact j ++ "\n") = some j := by
  refine read?_of_spells (spells_compact h) isSpaces_nil isSpaces_newline ?_
  rw [String.toList_append]
  rfl

end CityScript.Json
