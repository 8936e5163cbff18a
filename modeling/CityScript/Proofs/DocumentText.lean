/-
The documents of answers have lexemes of the format.

A text is escaped, so nothing between its quotes ends it. An integer is written by its
digits. Another number is written by its shortest digits, laid out with a point or with a
power of ten, and in neither layout a zero stands in front of other digits: zero is never
the coefficient of a shortest decimal but of zero itself, since the interval of a positive
number does not reach down to zero.

Whatever a command answers is put together from these, so it is read back as it was.
-/
import CityScript.CommandLine.Basic
import CityScript.Proofs.JsonWriting

set_option autoImplicit false

namespace CityScript

/-! ## Texts -/

namespace Json

/-- A text without characters that need an escape. -/
def IsPlain (s : String) : Prop :=
  s.toList.all (fun c => c != '"' && c != '\\' && decide (0x20 ≤ c.toNat)) = true

instance (s : String) : Decidable (IsPlain s) := inferInstanceAs (Decidable (_ = true))

/-- What needs no escape may stand in a string. -/
theorem isLexeme_of_isPlain {s : String} (h : IsPlain s) : IsLexeme s.toList := by
  unfold IsPlain at h
  generalize s.toList = cs at h
  induction cs with
  | nil => exact .nil
  | cons c cs ih =>
    simp only [List.all_cons, Bool.and_eq_true, bne_iff_ne, decide_eq_true_eq] at h
    obtain ⟨⟨⟨hquote, hslash⟩, hspace⟩, hrest⟩ := h
    exact .char hquote hslash hspace (ih hrest)

/-- How a character is written: as it is, by a letter behind a backslash, or by its code in
hexadecimal digits. -/
theorem escape_cases (c : Char) :
    (c ≠ '"' ∧ c ≠ '\\' ∧ 0x20 ≤ c.toNat ∧ Text.Quoted.escape c = [c]) ∨
    (∃ e, letterEscape? e = some c ∧ Text.Quoted.escape c = ['\\', e]) ∨
    ∃ x y, codeUnit? '0' '0' x y = some c.toNat ∧ c.toNat < 0x20 ∧
      Text.Quoted.escape c = ['\\', 'u', '0', '0', x, y] := by
  have hcode : ∀ n < 0x20,
      codeUnit? '0' '0' (Text.hexDigit (n / 16)) (Text.hexDigit (n % 16)) = some n := by decide
  by_cases hquote : c = '"'
  · subst hquote
    exact .inr (.inl ⟨'"', by decide, by decide⟩)
  by_cases hslash : c = '\\'
  · subst hslash
    exact .inr (.inl ⟨'\\', by decide, by decide⟩)
  by_cases hspace : 0x20 ≤ c.toNat
  · exact .inl ⟨hquote, hslash, hspace, Text.Quoted.escape_self hquote hslash hspace⟩
  -- five of the control characters have a letter
  by_cases hletter : ∃ e, letterEscape? e = some c ∧ Text.Quoted.escape c = ['\\', e]
  · exact .inr (.inl hletter)
  have hne : ∀ d : Char, (∃ e, letterEscape? e = some d ∧ Text.Quoted.escape d = ['\\', e]) →
      c.toNat ≠ d.toNat := by
    intro d hd heq
    rw [Char.toNat_inj.mp heq] at hletter
    exact hletter hd
  have h8 : c.toNat ≠ 0x08 := hne '\x08' ⟨'b', by decide, by decide⟩
  have h9 : c.toNat ≠ 0x09 := hne '\t' ⟨'t', by decide, by decide⟩
  have h10 : c.toNat ≠ 0x0A := hne '\n' ⟨'n', by decide, by decide⟩
  have h12 : c.toNat ≠ 0x0C := hne '\x0C' ⟨'f', by decide, by decide⟩
  have h13 : c.toNat ≠ 0x0D := hne '\r' ⟨'r', by decide, by decide⟩
  refine .inr (.inr ⟨_, _, hcode c.toNat (by omega), by omega, ?_⟩)
  rw [Text.Quoted.escape, if_neg hquote, if_neg hslash, if_neg hspace, if_neg h8, if_neg h9,
    if_neg h10, if_neg h12, if_neg h13]

theorem isLexeme_encode (cs : List Char) : IsLexeme (Text.Quoted.encode cs) := by
  induction cs with
  | nil => exact .nil
  | cons c cs ih =>
    rw [Text.Quoted.encode_cons]
    rcases escape_cases c with ⟨hquote, hslash, hspace, h⟩ | ⟨e, he, h⟩ | ⟨x, y, hcode, -, h⟩
    · rw [h]
      exact .char hquote hslash hspace ih
    · rw [h]
      exact .letter (Option.isSome_of_eq_some he) ih
    · rw [h]
      exact .unit (Option.isSome_of_eq_some hcode) ih

/-- **A text that is escaped is decoded again.** -/
theorem decodeText?_encode (cs : List Char) :
    decodeText? (Text.Quoted.encode cs) = some cs := by
  induction cs with
  | nil => simp [decodeText?]
  | cons c cs ih =>
    rw [Text.Quoted.encode_cons]
    rcases escape_cases c with ⟨hquote, hslash, hspace, h⟩ | ⟨e, he, h⟩ | ⟨x, y, hcode, hlow, h⟩
    · rw [h]
      simp [decodeText?, hslash, ih]
    · have hu : e ≠ 'u' := by
        rintro rfl
        cases he
      rw [h]
      simp [decodeText?, hu, he, ih]
    · -- the code of a control character is no half of a surrogate pair
      have hhigh : ¬ (0xD800 ≤ c.toNat ∧ c.toNat ≤ 0xDBFF) := by omega
      have hlower : ¬ (0xDC00 ≤ c.toNat ∧ c.toNat ≤ 0xDFFF) := by omega
      rw [h]
      simp only [List.cons_append, List.nil_append, decodeText?, hcode, if_neg hhigh,
        if_neg hlower, ih, Option.map_some, Char.ofNat_toNat]

/-- A text comes back from the string that it is written as. -/
theorem text?_ofString (s : String) : (ofString s).text? = some s := by
  rw [ofString, text?, lexemeText?, String.toList_ofList, decodeText?_encode, Option.map_some,
    String.ofList_toList]

theorem wellFormed_ofString (s : String) : (ofString s).WellFormed := by
  refine .string ?_
  rw [String.toList_ofList]
  exact isLexeme_encode s.toList

/-! ## Integers -/

theorem isDigits_singleton {d : Char} (hd : d.isDigit = true) : IsDigits [d] :=
  ⟨List.cons_ne_nil _ _, fun c hc => by rwa [List.mem_singleton.mp hc]⟩

theorem isWhole_singleton {d : Char} (hd : d.isDigit = true) : IsWhole [d] :=
  ⟨isDigits_singleton hd, fun h => by rw [Option.some.inj h]⟩

theorem isDigits_digitsOf (n : Nat) : IsDigits (Layout.digitsOf n) :=
  ⟨Nat.toDigits_ne_nil, fun _ => isDigit_of_mem_digitsOf⟩

theorem isWhole_digitsOf (n : Nat) : IsWhole (Layout.digitsOf n) :=
  ⟨isDigits_digitsOf n, toDigits_eq_zero_of_head? n⟩

theorem isUnsigned_digitsOf (n : Nat) : IsUnsigned (Layout.digitsOf n) := by
  simpa using IsUnsigned.mk (isWhole_digitsOf n) .none .none

theorem isNumber_toString (n : Int) : IsNumber (toString n).toList := by
  rw [toList_toString_int]
  split
  · exact .negative (isUnsigned_digitsOf n.natAbs)
  · exact .positive (isUnsigned_digitsOf n.natAbs)

theorem wellFormed_ofInt (n : Int) : (ofInt n).WellFormed := .number (isNumber_toString n)

theorem wellFormed_ofNat (n : Nat) : (ofNat n).WellFormed := by
  refine .number ?_
  have htext : (toString n).toList = Layout.digitsOf n := Nat.toList_repr
  rw [htext]
  exact .positive (isUnsigned_digitsOf n)

end Json

/-! ## Shortest digits -/

/-- The first digit of a number is no zero, unless it is zero. -/
theorem head?_digitsOf_ne {n : Nat} (hn : n ≠ 0) : (Layout.digitsOf n).head? ≠ some '0' := by
  intro h
  have hzero := toDigits_eq_zero_of_head? n h
  apply hn
  rw [← Nat.ofDigitChars_ten_toDigits (n := n), hzero]
  rfl

namespace Decimal

theorem coefficient_dropZeros_ne {d : Decimal} (hd : d.coefficient ≠ 0) (fuel : Nat) :
    (d.dropZeros fuel).coefficient ≠ 0 := by
  induction fuel generalizing d with
  | zero => exact hd
  | succ fuel ih =>
    rw [dropZeros]
    split
    · refine ih ?_
      dsimp only
      omega
    · exact hd

end Decimal

namespace ReadBack

/-- Zero does not read back as a positive number. -/
theorem contains_zero {r : ReadBack} (hlow : 0 < r.low) {finer : Nat} (hfiner : 0 < finer) :
    r.contains finer 0 = false := by
  have hpos : 0 < r.low * finer := Nat.mul_pos hlow hfiner
  unfold contains
  split
  · simp; omega
  · simp

theorem coefficient_onGrid?_ne {r : ReadBack} (hlow : 0 < r.low) {tie : Tie} {place : Int}
    {d : Decimal} (h : r.onGrid? tie place = some d) : d.coefficient ≠ 0 := by
  have hfiner : 0 < Nat.pow 10 (-place).toNat := Nat.pow_pos (by decide)
  have hbelow : ∀ below step : Nat,
      r.contains (Nat.pow 10 (-place).toNat) (below * step) = true → below ≠ 0 := by
    rintro below step hfits rfl
    rw [Nat.zero_mul, contains_zero hlow hfiner] at hfits
    cases hfits
  have hchoice : ∀ (lower : Bool) (below : Nat), below ≠ 0 →
      (if lower then below else below + 1) ≠ 0 := by
    intro lower below hne
    split
    · exact hne
    · exact Nat.succ_ne_zero below
  unfold onGrid? at h
  generalize unitsPerOne * Nat.pow 10 place.toNat = step at h
  dsimp only at h
  -- the lower neighbour reads back where it is taken, and the upper one is a successor
  split at h
  · next hboth =>
    rw [← Option.some.inj h]
    exact hchoice _ _ (hbelow _ _ hboth.1)
  · split at h
    · next hfits =>
      rw [← Option.some.inj h]
      exact hbelow _ _ hfits
    · split at h
      · rw [← Option.some.inj h]
        exact Nat.succ_ne_zero _
      · exact absurd h (Option.some_ne_none d).symm

/-- **The shortest decimal of a positive number** is zero only as nothing at all. -/
theorem shortest_ne {r : ReadBack} (hlow : 0 < r.low) (tie : Tie) :
    (r.shortest tie).coefficient ≠ 0 ∨ r.shortest tie = ⟨0, 0⟩ := by
  unfold shortest
  dsimp only
  cases hfound : (List.range 17).findSome? fun (extra : Nat) =>
      r.onGrid? tie (r.leadingPlace - extra) with
  | none => exact .inr rfl
  | some d =>
    obtain ⟨extra, -, hd⟩ := List.exists_of_findSome?_eq_some hfound
    exact .inl (Decimal.coefficient_dropZeros_ne (coefficient_onGrid?_ne hlow hd) 20)

end ReadBack

/-- **A shortest decimal** has a coefficient, or is zero without an exponent. -/
theorem shortestDecimal_ne (tie : Tie) (significand scale : Nat) :
    (shortestDecimal tie significand scale).coefficient ≠ 0 ∨
      shortestDecimal tie significand scale = ⟨0, 0⟩ := by
  unfold shortestDecimal
  split
  · exact .inr rfl
  · next hpos =>
    refine ReadBack.shortest_ne ?_ tie
    -- half the distance to the neighbour is less than the number
    have hgap : 0 < Nat.pow 2 scale := Nat.pow_pos (by decide)
    have hvalue : 4 * Nat.pow 2 scale ≤ 4 * significand * Nat.pow 2 scale :=
      Nat.mul_le_mul_right _ (by omega)
    unfold ReadBack.of
    dsimp only
    split <;> omega

/-! ## Layouts -/

namespace Layout

/-- Zeros at the end of digits are digits. -/
theorem isWhole_append_zeros {digits : List Char} (hdigits : Json.IsDigits digits)
    (hfirst : digits.head? ≠ some '0') (n : Nat) :
    Json.IsWhole (digits ++ List.replicate n '0') := by
  obtain ⟨d, rest, rfl⟩ := List.exists_cons_of_ne_nil hdigits.1
  refine ⟨⟨List.cons_ne_nil _ _, ?_⟩, fun h => absurd h hfirst⟩
  intro c hc
  rcases List.mem_append.mp hc with hc | hc
  · exact hdigits.2 c hc
  · rw [List.eq_of_mem_replicate hc]
    decide

/-- Digits with a point are a number. -/
theorem isUnsigned_writePositional {digits : List Char} (hdigits : Json.IsDigits digits)
    (hfirst : digits.head? ≠ some '0') (exponent : Int) :
    Json.IsUnsigned (writePositional ['.', '0'] digits exponent) := by
  have hzero : Json.IsFraction ['.', '0'] := .digits (Json.isDigits_singleton rfl)
  unfold writePositional
  split
  · have hwhole := isWhole_append_zeros hdigits hfirst exponent.toNat
    simpa using Json.IsUnsigned.mk hwhole hzero .none
  · next hneg =>
    dsimp only
    split
    · next hplaces =>
      -- the point stands among the digits, with some on both sides
      have hfront : Json.IsWhole (digits.take (digits.length - (-exponent).toNat)) := by
        have hsome := List.head?_take (l := digits) (i := digits.length - (-exponent).toNat)
        rw [if_neg (by omega)] at hsome
        refine ⟨⟨?_, fun c hc => hdigits.2 c (List.mem_of_mem_take hc)⟩, ?_⟩
        · rw [ne_eq, List.take_eq_nil_iff, not_or]
          exact ⟨by omega, hdigits.1⟩
        · intro h
          exact absurd (hsome.symm.trans h) hfirst
      have hback : Json.IsDigits (digits.drop (digits.length - (-exponent).toNat)) := by
        refine ⟨?_, fun c hc => hdigits.2 c (List.mem_of_mem_drop hc)⟩
        rw [ne_eq, List.drop_eq_nil_iff]
        omega
      simpa using Json.IsUnsigned.mk hfront (.digits hback) .none
    · have hall : Json.IsDigits
          (List.replicate ((-exponent).toNat - digits.length) '0' ++ digits) := by
        refine ⟨List.append_ne_nil_of_right_ne_nil _ hdigits.1, ?_⟩
        intro c hc
        rcases List.mem_append.mp hc with hc | hc
        · rw [List.eq_of_mem_replicate hc]
          decide
        · exact hdigits.2 c hc
      have hwhole : Json.IsWhole ['0'] := Json.isWhole_singleton rfl
      simpa using Json.IsUnsigned.mk hwhole (.digits hall) .none

/-- Digits with a power of ten are a number. -/
theorem isUnsigned_writeScientific {digits : List Char} (hdigits : Json.IsDigits digits)
    (place : Int) : Json.IsUnsigned (writeScientific digits place) := by
  have hsign : ∀ sign : Char, sign = '-' ∨ sign = '+' →
      Json.IsPower ('e' :: sign :: digitsOf place.natAbs) :=
    fun sign h => .signed (.inl rfl) h.symm (Json.isDigits_digitsOf _)
  have hpower := hsign (if place < 0 then '-' else '+') (by split <;> simp)
  have hone : ∀ d ∈ digits, Json.IsWhole [d] :=
    fun d hd => Json.isWhole_singleton (hdigits.2 d hd)
  unfold writeScientific
  match digits with
  | [] => exact absurd rfl hdigits.1
  | [d] => simpa using Json.IsUnsigned.mk (hone d (by simp)) .none hpower
  | first :: second :: rest =>
    have hrest : Json.IsDigits (second :: rest) :=
      ⟨List.cons_ne_nil _ _, fun c hc => hdigits.2 c (List.mem_cons_of_mem _ hc)⟩
    simpa using Json.IsUnsigned.mk (hone first (by simp)) (.digits hrest) hpower

theorem isUnsigned_writeDecimal {d : Decimal} (hd : d.coefficient ≠ 0 ∨ d = ⟨0, 0⟩) :
    Json.IsUnsigned (document.writeDecimal d) := by
  rcases hd with hd | rfl
  · have hdigits := Json.isDigits_digitsOf d.coefficient
    unfold writeDecimal
    dsimp only
    split
    · exact isUnsigned_writePositional hdigits (head?_digitsOf_ne hd) d.exponent
    · exact isUnsigned_writeScientific hdigits _
  · -- zero is written with a point
    have hzero : document.writeDecimal ⟨0, 0⟩ = ['0', '.', '0'] := by decide
    have hwhole : Json.IsWhole ['0'] := Json.isWhole_singleton rfl
    have hfraction : Json.IsFraction ['.', '0'] := .digits (Json.isDigits_singleton rfl)
    rw [hzero]
    exact .mk hwhole hfraction .none

/-- **A number in a document** is one of the format. -/
theorem isNumber_writeFinite (negative : Bool) (significand scale : Nat) :
    Json.IsNumber (document.writeFinite negative significand scale) := by
  have hdecimal :=
    isUnsigned_writeDecimal (shortestDecimal_ne document.tie significand scale)
  unfold writeFinite
  dsimp only
  split
  · exact .negative hdecimal
  · exact .positive hdecimal

end Layout

/-! ## Documents -/

namespace Json

theorem WellFormed.noMembers : (Json.object []).WellFormed :=
  .object (fun _ h => nomatch h) fun _ h => nomatch h

/-- One more member in front, under a key that needs no escape. -/
theorem WellFormed.member {key : String} {value : Json} {members : List (String × Json)}
    (hkey : IsPlain key) (hvalue : value.WellFormed) (h : (Json.object members).WellFormed) :
    (Json.object ((key, value) :: members)).WellFormed := by
  cases h with
  | object hkeys hvalues =>
    exact .object (List.forall_mem_cons.mpr ⟨isLexeme_of_isPlain hkey, hkeys⟩)
      (List.forall_mem_cons.mpr ⟨hvalue, hvalues⟩)

theorem wellFormed_list_map {α : Type} {f : α → Json} (hf : ∀ a, (f a).WellFormed)
    (items : List α) : (Json.list (items.map f)).WellFormed := by
  refine .list fun item hitem => ?_
  obtain ⟨a, -, rfl⟩ := List.mem_map.mp hitem
  exact hf a

end Json

open Json

theorem Value.wellFormed_toJson (v : Value) : v.toJson.WellFormed := by
  cases v with
  | null => exact .null
  | bool b => exact .bool b
  | text s => exact wellFormed_ofString s
  | number n =>
    rw [Value.toJson, Value.numberToJson]
    split
    · exact wellFormed_ofInt _
    · cases n with
      | nan => exact .null
      | infinite negative => exact .null
      | finite negative significand scale canonical =>
        refine .number ?_
        rw [String.toList_ofList]
        exact Layout.isNumber_writeFinite negative significand scale

theorem Diagnostic.wellFormed_toJson (d : Diagnostic) : d.toJson.WellFormed :=
  .member (by decide) (wellFormed_ofString _) <|
  .member (by decide) (wellFormed_ofNat d.line) <|
  .member (by decide) (wellFormed_ofString d.message) .noMembers

theorem Outcome.wellFormed_toJson (o : Outcome) : o.toJson.WellFormed := by
  cases o with
  | placed p =>
    exact .member (by decide) (wellFormed_ofInt p.cell.col) <|
      .member (by decide) (wellFormed_ofInt p.cell.row) <|
      .member (by decide) (wellFormed_ofString p.kind.name) .noMembers
  | cleared removed => exact .member (by decide) (wellFormed_ofNat removed) .noMembers

theorem CallResult.wellFormed_toJson (r : CallResult) : r.toJson.WellFormed := by
  have harguments := wellFormed_list_map Value.wellFormed_toJson r.call.arguments
  -- a result has either an error or, at the end, a value
  have hcommon : ∀ ending, (Json.object ending).WellFormed → (Json.object <|
      [("line", .ofNat r.call.line), ("ok", .bool r.isOk),
        ("operation", .ofString r.call.operation),
        ("original", .ofString (Text.trimmed r.call.written))] ++ ending).WellFormed :=
    fun _ hending =>
      .member (by decide) (wellFormed_ofNat _) <| .member (by decide) (.bool _) <|
      .member (by decide) (wellFormed_ofString _) <|
      .member (by decide) (wellFormed_ofString _) hending
  unfold CallResult.toJson
  cases r.outcome with
  | ok outcome =>
    exact .member (by decide) harguments <|
      hcommon _ (.member (by decide) outcome.wellFormed_toJson .noMembers)
  | error e =>
    exact .member (by decide) harguments <|
      .member (by decide) (wellFormed_ofString e.message) (hcommon _ .noMembers)

/-- **A report is a document of the format**, with or without a map. -/
theorem Report.wellFormed_members (r : Report) (map : Option String) :
    (Json.object (r.members map)).WellFormed := by
  have hdiagnostics := wellFormed_list_map Diagnostic.wellFormed_toJson r.diagnostics
  have hrest : (Json.object [("normalized_code", .list (r.normalized.map Json.ofString)),
      ("results", .list (r.results.map CallResult.toJson)),
      ("success_count", .ofNat r.successes)]).WellFormed :=
    .member (by decide) (wellFormed_list_map wellFormed_ofString r.normalized) <|
    .member (by decide) (wellFormed_list_map CallResult.wellFormed_toJson r.results) <|
    .member (by decide) (wellFormed_ofNat r.successes) .noMembers
  cases map with
  | none => exact .member (by decide) hdiagnostics hrest
  | some text =>
    exact .member (by decide) hdiagnostics <|
      .member (by decide) (wellFormed_ofString text) hrest

/-- The list of operations is a document too. -/
theorem Catalog.wellFormed_operations (c : Catalog) :
    (Json.list (c.toList.map Answer.operationToJson)).WellFormed := by
  refine wellFormed_list_map (fun s => ?_) c.toList
  have hparameter : ∀ p : Parameter, (Json.object
      [("default", p.default.toJson), ("name", .ofString p.name)]).WellFormed := fun p =>
    .member (by decide) p.default.wellFormed_toJson <|
    .member (by decide) (wellFormed_ofString p.name) .noMembers
  exact .member (by decide) (wellFormed_ofString s.name) <|
    .member (by decide) (wellFormed_list_map hparameter s.parameters) .noMembers

/-! ## Answers -/

namespace Answer

theorem unlines_singleton (text : String) : unlines [text] = text ++ "\n" := by
  rw [unlines, List.map_singleton, String.join_cons, String.join_nil, String.append_empty]

/-- **A document that is answered is read back** from the line or lines it is written on. -/
theorem read?_unlines_pretty {j : Json} (h : j.WellFormed) :
    Json.read? (unlines [j.pretty]) = some j := by
  rw [unlines_singleton]
  exact read?_pretty h

/-- So is the list of operations. -/
theorem read?_ofCatalog (c : Catalog) :
    Json.read? (ofCatalog c).json.stdout = some (.list (c.toList.map operationToJson)) :=
  read?_unlines_pretty c.wellFormed_operations

/-- The error of a command that cannot begin is read back with its very message. -/
theorem read?_ofError (e : LoadError) :
    Json.read? (ofError e).json.stderr = some (.object [("error", .ofString e.message)]) := by
  rw [ofError, unlines_singleton]
  exact read?_compact (.member (by decide) (wellFormed_ofString e.message) .noMembers)

end Answer

end CityScript
