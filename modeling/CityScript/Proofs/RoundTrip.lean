/-
The normalized form of a call is a fixed point.

A call is normalized to a line that names every parameter. The printer of that line and
the readers of lines are separate, and quoting is where they differ: the printer escapes
inside double quotes, while the readers take what is between quotes as it is. Where there
is nothing to escape the two agree, and every value is printed as a text that spells it.
Only the sign of zero is lost, since both zeros are printed as one digit. So a normalized
call is read again as the call, and is normalized to the same line.
-/
import CityScript.Proofs.ArgumentFilling
import CityScript.Proofs.ValueText

set_option autoImplicit false

namespace CityScript

/-! ## Values that are printed as they are read -/

namespace Value

/-- A value whose text can be read back: a number that is an integer or whose text the
reader of numbers takes for it, or a text without quotes, backslashes and control
characters. Nothing and the truth values are always such. -/
def ReadsBack : Value → Prop
  | .null => True
  | .bool _ => True
  | .number n => n.toInt?.isSome = true ∨ readNumber? (renderNumber n).toList = some n
  | .text t => ∀ c ∈ t.toList, c ≠ '"' ∧ c ≠ '\\' ∧ 0x20 ≤ c.toNat

/-- Equal values, where the two zeros count as equal. -/
inductive SameUpToZero : Value → Value → Prop
  | refl (v : Value) : SameUpToZero v v
  | zero (negative negative' : Bool) :
      SameUpToZero (.number (.zero negative)) (.number (.zero negative'))

/-- The zeros have one text. -/
theorem SameUpToZero.render_eq {v w : Value} (h : SameUpToZero v w) : w.render = v.render := by
  cases h with
  | refl => rfl
  | zero negative negative' =>
    rw [render, renderNumber, Binary64.toInt?_zero, render, renderNumber, Binary64.toInt?_zero]

end Value

/-- **The text of an integer** spells it, up to the sign of zero. -/
theorem spells_renderNumber_of_toInt? {n : Binary64} {i : Int} (h : n.toInt? = some i) :
    ∃ w, Value.SameUpToZero (.number n) w ∧ Spells (Value.renderNumber n).toList w := by
  have hbound : i.natAbs < Binary64.integerBound := by
    obtain ⟨_, _, _, _, -, -, hbound, -⟩ := Binary64.eq_finite_of_toInt? h
    exact hbound
  have hrender : Value.renderNumber n = toString i := by rw [Value.renderNumber, h]
  have hspells : Spells (toString i).toList (.number (.ofInt i)) := by
    refine spells_number (fun c hc => ?_) (readNumber?_toString hbound)
    exact isBare_of_isNumberChar (isNumberChar_of_mem_toString hc)
  refine ⟨.number (.ofInt i), ?_, hrender ▸ hspells⟩
  -- an integer has one number, except that zero has two
  by_cases hi : i = 0
  · subst hi
    obtain ⟨negative, rfl⟩ := Binary64.eq_zero_of_toInt? h
    obtain ⟨negative', hzero⟩ := Binary64.eq_zero_of_toInt? (Binary64.toInt?_ofInt hbound)
    rw [hzero]
    exact .zero negative negative'
  · rw [Binary64.eq_of_toInt? (Binary64.toInt?_ofInt hbound) h hi]
    exact .refl _

/-- **A value that can be read back is spelled by its text**, up to the sign of zero. -/
theorem Value.ReadsBack.spells_render {v : Value} (h : v.ReadsBack) :
    ∃ w, Value.SameUpToZero v w ∧ Spells v.render.toList w := by
  obtain ⟨hnull, htrue, hfalse⟩ := spells_keyword
  cases v with
  | null => exact ⟨_, .refl _, hnull⟩
  | bool b =>
    cases b
    · exact ⟨_, .refl _, hfalse⟩
    · exact ⟨_, .refl _, htrue⟩
  | number n =>
    cases hint : n.toInt? with
    | some i => exact spells_renderNumber_of_toInt? hint
    | none =>
      rcases h with h | h
      · rw [hint] at h
        cases h
      · refine ⟨_, .refl _, spells_number (fun c hc => ?_) h⟩
        exact isBare_of_isNumberChar (isNumberChar_of_mem_renderNumber hc)
  | text t =>
    have hquoted : (Value.render (.text t)).toList = '"' :: (t.toList ++ ['"']) := by
      rw [render, Text.quoted, String.toList_ofList, Text.Quoted.encode_eq_self h,
        List.cons_append]
    have hclosed : '"' ∉ t.toList := fun hmem => (h _ hmem).1 rfl
    have hline : '\n' ∉ t.toList := fun hmem => absurd (h _ hmem).2.2 (by decide)
    refine ⟨_, .refl _, ?_⟩
    rw [hquoted]
    have hspells := spells_quoted (by decide) hclosed hline
    rwa [String.ofList_toList] at hspells

/-! ## Normalized calls -/

/-- Values that are equal up to the sign of zero have the same texts. -/
theorem map_render_of_forall₂ {values again : List Value}
    (h : List.Forall₂ Value.SameUpToZero values again) :
    again.map Value.render = values.map Value.render := by
  induction h with
  | nil => rfl
  | cons hsame _ ih => rw [List.map_cons, hsame.render_eq, ih, List.map_cons]

/-- A normalized call depends on the texts of its arguments only. -/
theorem Signature.renderKeywords_congr {operation : String} {parameters : List String}
    {values again : List Value} (h : again.map Value.render = values.map Value.render) :
    renderKeywords operation parameters again = renderKeywords operation parameters values := by
  have hwritten : ∀ vs : List Value,
      List.zipWith (fun parameter value => parameter ++ "=" ++ Value.render value) parameters vs =
        List.zipWith (fun parameter text => parameter ++ "=" ++ text) parameters
          (vs.map Value.render) := by
    intro vs
    rw [List.zipWith_map_right]
  rw [renderKeywords, renderKeywords, hwritten, hwritten, h]

/-- The text of a value under a name. -/
def keywordText (name : String) (v : Value) : List Char := name.toList ++ '=' :: v.render.toList

/-- A normalized call is a call line whose arguments all have a name. -/
theorem Call.toList_render (c : Call) (s : Signature) :
    (c.render s).toList = callText [] c.operation.toList
      (List.zipWith keywordText (s.parameters.map (·.name)) c.arguments) := by
  have hwritten : (List.zipWith (fun parameter value => parameter ++ "=" ++ Value.render value)
      (s.parameters.map (·.name)) c.arguments).map String.toList =
        List.zipWith keywordText (s.parameters.map (·.name)) c.arguments := by
    rw [List.map_zipWith]
    congr 1
    funext name value
    simp [keywordText]
  rw [Call.render, Signature.renderKeywords]
  simp only [String.toList_append, String.toList_intercalate, hwritten]
  simp [callText, joinTokens]

/-- Values that can be read back are spelled by their texts, up to the sign of zero. -/
theorem exists_forall₂_spells {values : List Value} (hvalues : ∀ v ∈ values, v.ReadsBack) :
    ∃ again, List.Forall₂ Value.SameUpToZero values again ∧
      List.Forall₂ (fun v w => Spells v.render.toList w) values again := by
  induction values with
  | nil => exact ⟨[], .nil, .nil⟩
  | cons v values ih =>
    obtain ⟨w, hsame, hspells⟩ := (hvalues v List.mem_cons_self).spells_render
    obtain ⟨again, hagain, hspellings⟩ := ih fun u hu => hvalues u (List.mem_cons_of_mem v hu)
    exact ⟨w :: again, .cons hsame hagain, .cons hspells hspellings⟩

/-- Values under names that are identifiers are tokens, and are read as what their texts
spell, under the same names. -/
theorem read_keywordTexts {names : List String}
    (hnames : ∀ name ∈ names, isIdentifier name.toList = true) {values again : List Value}
    (h : List.Forall₂ (fun v w => Spells v.render.toList w) values again) :
    (∀ t ∈ List.zipWith keywordText names values, IsToken t) ∧
      (List.zipWith keywordText names values).map Given.read =
        List.zipWith Given.named names again := by
  induction h generalizing names with
  | nil => simp
  | cons hspells _ ih =>
    cases names with
    | nil => simp
    | cons name names =>
      have hname := hnames name List.mem_cons_self
      obtain ⟨htokens, hread⟩ := ih fun n hn => hnames n (List.mem_cons_of_mem name hn)
      constructor
      · rw [List.zipWith_cons_cons, List.forall_mem_cons]
        exact ⟨hspells.isToken.named hname, htokens⟩
      · rw [List.zipWith_cons_cons, List.map_cons, keywordText, hspells.read_named hname, hread,
          String.ofList_toList]
        rfl

namespace Line

/-- **A normalized call is a fixed point.** Where the arguments can be read back, the
normalized form of a call is read as a call of the same operation with the same
arguments, up to the sign of zero, and has itself as its normalized form. -/
theorem read_render_call {catalog : Catalog} {number : Nat} {raw : List Char} {s : Signature}
    {c : Call} (hread : Line.read catalog number raw = .call s c)
    (hidentifiers : ∀ p ∈ s.parameters, isIdentifier p.name.toList = true)
    (hnames : (s.parameters.map (·.name)).Nodup) (hvalues : ∀ v ∈ c.arguments, v.ReadsBack)
    (number' : Nat) :
    ∃ c', Line.read catalog number' (c.render s).toList = .call s c' ∧
      c'.operation = c.operation ∧
      List.Forall₂ Value.SameUpToZero c.arguments c'.arguments ∧
      c'.render s = c.render s := by
  -- the call has an identifier for its head and a value for each parameter, so its
  -- normalized form is a call line with a token for each of them
  have hlaw := callLaw_of_read hread
  obtain ⟨again, hsame, hspells⟩ := exists_forall₂_spells hvalues
  obtain ⟨htokens, hagain⟩ := @read_keywordTexts (s.parameters.map (·.name))
    (by simpa using hidentifiers) _ _ hspells
  have hlength : again.length = s.parameters.length := hsame.length_eq ▸ hlaw.length_eq
  have hline := @read_callText [] c.operation.toList _ catalog s
    (by rw [String.ofList_toList]; exact hlaw.get?_eq) (.inl rfl) hlaw.isIdentifier htokens
    number' none
  rw [hagain, Arguments.resolve_named hnames hlength, String.ofList_toList, CommentSplit.text,
    ← Call.toList_render] at hline
  refine ⟨_, hline, rfl, hsame, ?_⟩
  rw [Call.render, Call.render]
  exact Signature.renderKeywords_congr (map_render_of_forall₂ hsame)

/-- A house whose name has every mark that a line is cut at, and whose floors are the
negative zero. -/
theorem read_render_call_house :
    let s := Catalog.building "build_house" 1
    let c : Call := ⟨"build_house",
      [.ofInt 3, .null, .number (.zero true), .text "a # b, (c]='d"],
      "h = build_house(3, floors=-0, name=\"a # b, (c]='d\")  # note", 4⟩
    Line.read Catalog.builtin 4 c.written.toList = .call s c ∧
      ∃ c', Line.read Catalog.builtin 9 (c.render s).toList = .call s c' ∧
        c'.operation = c.operation ∧
        List.Forall₂ Value.SameUpToZero c.arguments c'.arguments ∧
        c'.render s = c.render s := by
  intro s c
  have hread : Line.read Catalog.builtin 4 c.written.toList = .call s c := by decide +kernel
  have hvalues : ∀ v ∈ c.arguments, v.ReadsBack := by
    simp only [c, List.forall_mem_cons]
    refine ⟨.inl (by decide +kernel), trivial, .inl (by decide +kernel), ?_, by simp⟩
    have hall : "a # b, (c]='d".toList.all
        (fun d => d ≠ '"' ∧ d ≠ '\\' ∧ 0x20 ≤ d.toNat) = true := by
      decide
    exact fun d hd => of_decide_eq_true (List.all_eq_true.mp hall d hd)
  exact ⟨hread, read_render_call hread (by decide) (by decide) hvalues 9⟩

end Line

end CityScript
