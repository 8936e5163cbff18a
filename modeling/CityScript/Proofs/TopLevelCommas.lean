/-
Where the text of arguments is cut, and what comes out.

The scanner cuts a text as it goes, with an open quote and a depth that each character
changes. What it does is here told of the whole text. A place in a text is at the top level
when the text before it leaves no quote open and, quoted text apart, has as many opening as
closing brackets. The arguments are what stands between the commas at such places. Put
together with commas again the pieces are the text, so nothing is lost but blanks.

In the other direction, a text that ends at the top level and has no comma there is one
piece, whatever comes after it. For the scan has come back to where it began, and what
follows is cut as if it stood alone.
-/
import CityScript.Script.Arguments

set_option autoImplicit false

namespace CityScript

/-! ## The top level -/

/-- The characters of a text outside quotes, the quotes left out. A quote may be open. -/
def unquoted : Option Char → List Char → List Char
  | _, [] => []
  | some q, c :: rest => unquoted (if c = q then none else some q) rest
  | none, c :: rest => if isQuote c then unquoted (some c) rest else c :: unquoted none rest

/-- How many more brackets are opened in a text than closed. Round and square ones count
alike. -/
def bracketBalance (cs : List Char) : Int :=
  (cs.count '(' + cs.count '[' : Int) - (cs.count ')' + cs.count ']')

/-- Whether a text ends outside quotes and brackets. -/
def endsTopLevel (before : List Char) : Bool :=
  quoteScan none before = none ∧ bracketBalance (unquoted none before) = 0

/-- The places of the commas of a text that stand outside quotes and brackets. -/
def topLevelCommas (cs : List Char) : List Nat :=
  (List.range cs.length).filter fun i => cs[i]? = some ',' ∧ endsTopLevel (cs.take i)

/-- The pieces of a text between some places, the characters at these places left out. -/
def Text.between (cs : List Char) (places : List Nat) : List (List Char) :=
  List.zipWith (fun first last => (cs.take last).drop first)
    (0 :: places.map (· + 1)) (places ++ [cs.length])

theorem bracketBalance_cons (c : Char) (cs : List Char) :
    bracketBalance (c :: cs) = ArgumentScan.depthChange c + bracketBalance cs := by
  rw [bracketBalance, bracketBalance, ArgumentScan.depthChange]
  simp only [List.count_cons, beq_iff_eq]
  by_cases hopen : c = '(' ∨ c = '['
  · rw [if_pos hopen]
    rcases hopen with rfl | rfl
    · simp
      omega
    · simp
      omega
  · rw [if_neg hopen]
    rw [not_or] at hopen
    by_cases hclose : c = ')' ∨ c = ']'
    · rw [if_pos hclose]
      rcases hclose with rfl | rfl
      · simp
        omega
      · simp
        omega
    · rw [if_neg hclose]
      rw [not_or] at hclose
      simp [hopen, hclose]

namespace ArgumentScan

/-- **The state of a scan** is told by the quotes and the brackets of the text. -/
theorem run_eq (s : ArgumentScan) (cs : List Char) :
    s.run cs = ⟨quoteScan s.opened cs, s.depth + bracketBalance (unquoted s.opened cs)⟩ := by
  induction cs generalizing s with
  | nil => simp [run, unquoted, bracketBalance]
  | cons c cs ih =>
    have hrun : s.run (c :: cs) = (s.step c).run cs := rfl
    rw [hrun, ih, quoteScan_cons]
    obtain ⟨opened, depth⟩ := s
    cases opened with
    -- within quotes the depth stays as it is
    | some q => rfl
    | none =>
      by_cases hquote : isQuote c = true
      · -- a quote is no bracket, and what it encloses does not count
        have hdepth : depthChange c = 0 := by
          rcases isQuote_iff.mp hquote with rfl | rfl <;> rfl
        simp only [step, quoteStep, unquoted, hquote, hdepth, if_true, Int.add_zero]
      · simp only [step, quoteStep, unquoted, hquote, if_true, if_false, Bool.false_eq_true,
          bracketBalance_cons, Int.add_assoc]

theorem cuts_run_start (before : List Char) (c : Char) :
    (start.run before).cuts c = true ↔ c = ',' ∧ endsTopLevel before = true := by
  rw [run_eq, cuts, endsTopLevel]
  simp [start, and_assoc]

theorem run_start_eq_start_iff (cs : List Char) :
    start.run cs = start ↔ endsTopLevel cs = true := by
  rw [run_eq, endsTopLevel, decide_eq_true_eq, start, mk.injEq, Int.zero_add]

/-! ## The pieces -/

/-- The places of the characters at which a scan cuts. -/
def cutPlaces (s : ArgumentScan) (cs : List Char) : List Nat :=
  (List.range cs.length).filter fun i => cs[i]?.any (s.run (cs.take i)).cuts

theorem cutPlaces_start (cs : List Char) : start.cutPlaces cs = topLevelCommas cs := by
  refine List.filter_congr ?_
  intro i _
  rw [Bool.eq_iff_iff, Option.any_eq_true, decide_eq_true_eq]
  constructor
  · rintro ⟨c, hc, hcut⟩
    obtain ⟨rfl, htop⟩ := (cuts_run_start _ _).mp hcut
    exact ⟨hc, htop⟩
  · rintro ⟨hc, htop⟩
    exact ⟨',', hc, (cuts_run_start _ _).mpr ⟨rfl, htop⟩⟩

theorem cutPlaces_cons (s : ArgumentScan) (c : Char) (cs : List Char) :
    s.cutPlaces (c :: cs) =
      (if s.cuts c then [0] else []) ++ ((s.step c).cutPlaces cs).map (· + 1) := by
  rw [cutPlaces, cutPlaces, List.length_cons, List.range_succ_eq_map, List.filter_cons,
    List.filter_map]
  -- the first character is met in the state `s`, and the others in the state after it
  have hfirst : (c :: cs)[0]?.any (s.run ((c :: cs).take 0)).cuts = s.cuts c := rfl
  have hrest : (fun i => (c :: cs)[i]?.any (s.run ((c :: cs).take i)).cuts) ∘ Nat.succ =
      fun i => cs[i]?.any ((s.step c).run (cs.take i)).cuts := rfl
  rw [hfirst, hrest]
  by_cases hcut : s.cuts c = true
  · rw [if_pos hcut, if_pos hcut]
    rfl
  · rw [if_neg hcut, if_neg hcut]
    rfl

end ArgumentScan

namespace Text

theorem zipWith_slice_cons (c : Char) (cs : List Char) (firsts lasts : List Nat) :
    List.zipWith (fun first last => ((c :: cs).take last).drop first) (firsts.map (· + 1))
        (lasts.map (· + 1)) =
      List.zipWith (fun first last => (cs.take last).drop first) firsts lasts := by
  rw [List.zipWith_map]
  rfl

theorem between_cons_zero (c : Char) (cs : List Char) (places : List Nat) :
    between (c :: cs) (0 :: places.map (· + 1)) = [] :: between cs places := by
  have hlasts : places.map (· + 1) ++ [(c :: cs).length] = (places ++ [cs.length]).map (· + 1) := by
    simp
  rw [between, List.cons_append, hlasts, List.zipWith_cons_cons, zipWith_slice_cons]
  rfl

theorem between_cons (c : Char) (cs : List Char) (places : List Nat) :
    between (c :: cs) (places.map (· + 1)) = extendFirst c (between cs places) := by
  cases places with
  -- without a cut all of the text is one piece
  | nil => simp [between]
  | cons place places =>
    have hlasts : places.map (· + 1) ++ [(c :: cs).length] =
        (places ++ [cs.length]).map (· + 1) := by
      simp
    rw [between, List.map_cons, List.cons_append, hlasts, List.map_cons, List.zipWith_cons_cons]
    -- only the first piece begins before the character
    exact congrArg (List.cons _) (zipWith_slice_cons c cs ((place :: places).map (· + 1)) _)

end Text

theorem Text.intercalate_extendFirst (between : List Char) (c : Char)
    (pieces : List (List Char)) :
    between.intercalate (extendFirst c pieces) = c :: between.intercalate pieces := by
  match pieces with
  | [] => simp
  | [piece] => simp
  | piece :: next :: more =>
    rw [extendFirst_cons, List.intercalate_cons_cons, List.intercalate_cons_cons]
    rfl

namespace ArgumentScan

/-- **The pieces** are what stands between the places where the scan cuts. -/
theorem pieces_eq_between (s : ArgumentScan) (cs : List Char) :
    s.pieces cs = Text.between cs (s.cutPlaces cs) := by
  induction cs generalizing s with
  | nil => rfl
  | cons c cs ih =>
    rw [pieces, cutPlaces_cons, ih]
    by_cases hcut : s.cuts c = true
    · rw [if_pos hcut, if_pos hcut]
      exact (Text.between_cons_zero c cs _).symm
    · rw [if_neg hcut, if_neg hcut]
      exact (Text.between_cons c cs _).symm

/-- **Nothing is lost**: the pieces with commas between them are the text. -/
theorem intercalate_pieces (s : ArgumentScan) (cs : List Char) :
    [','].intercalate (s.pieces cs) = cs := by
  induction cs generalizing s with
  | nil => rfl
  | cons c cs ih =>
    have hrest := ih (s.step c)
    rw [pieces]
    by_cases hcut : s.cuts c = true
    · have hc : c = ',' := by
        rw [cuts, Bool.and_eq_true, Bool.and_eq_true, beq_iff_eq] at hcut
        exact hcut.1.1
      obtain ⟨piece, more, hpieces⟩ := List.exists_cons_of_ne_nil (pieces_ne_nil (s.step c) cs)
      rw [if_pos hcut, hpieces, List.intercalate_cons_cons, ← hpieces, hrest, hc]
      rfl
    · rw [if_neg hcut, Text.intercalate_extendFirst, hrest]

/-! ## One piece -/

/-- Where a scan does not cut, a text goes to the first of the pieces after it. -/
theorem pieces_append {s : ArgumentScan} {cs : List Char} (h : s.cutPlaces cs = [])
    (rest : List Char) :
    s.pieces (cs ++ rest) = cs.foldr Text.extendFirst ((s.run cs).pieces rest) := by
  induction cs generalizing s with
  | nil => rfl
  | cons c cs ih =>
    rw [cutPlaces_cons, List.append_eq_nil_iff, List.map_eq_nil_iff] at h
    obtain ⟨hfirst, hrest⟩ := h
    have hcut : ¬ s.cuts c = true := by
      intro hcut
      rw [if_pos hcut] at hfirst
      cases hfirst
    rw [List.cons_append, pieces, if_neg hcut, ih hrest]
    rfl

end ArgumentScan

/-- A text that is one argument: it has no blanks at its ends, it ends outside quotes and
brackets, and no comma of it is there. -/
structure IsPiece (cs : List Char) : Prop where
  trim_eq : Text.trim cs = cs
  endsTopLevel : endsTopLevel cs = true
  topLevelCommas : topLevelCommas cs = []

instance (cs : List Char) : Decidable (IsPiece cs) :=
  decidable_of_iff
    (Text.trim cs = cs ∧ CityScript.endsTopLevel cs = true ∧ CityScript.topLevelCommas cs = [])
    ⟨fun h => ⟨h.1, h.2.1, h.2.2⟩, fun h => ⟨h.trim_eq, h.endsTopLevel, h.topLevelCommas⟩⟩

/-- A piece in front is the first of the pieces, blanks apart. -/
theorem IsPiece.pieces_append {cs : List Char} (h : IsPiece cs) (rest : List Char) :
    ArgumentScan.start.pieces (cs ++ rest) =
      cs.foldr Text.extendFirst (ArgumentScan.start.pieces rest) := by
  have hrun : ArgumentScan.start.run cs = ArgumentScan.start :=
    (ArgumentScan.run_start_eq_start_iff cs).mpr h.endsTopLevel
  have hcuts : ArgumentScan.start.cutPlaces cs = [] := by
    rw [ArgumentScan.cutPlaces_start, h.topLevelCommas]
  rw [ArgumentScan.pieces_append hcuts, hrun]

/-- Arguments as a call lists them. -/
def joinTokens (tokens : List (List Char)) : List Char := [',', ' '].intercalate tokens

theorem joinTokens_cons (token : List Char) (tokens : List (List Char)) :
    joinTokens (token :: tokens) =
      token ++ (if tokens = [] then [] else ',' :: ' ' :: joinTokens tokens) := by
  cases tokens with
  | nil => simp [joinTokens]
  | cons next tokens =>
    rw [joinTokens, List.intercalate_cons_cons, if_neg (by simp), List.append_assoc]
    rfl

theorem Text.foldr_extendFirst_cons (cs piece : List Char) (more : List (List Char)) :
    cs.foldr Text.extendFirst (piece :: more) = (cs ++ piece) :: more := by
  induction cs with
  | nil => rfl
  | cons c cs ih => rw [List.foldr_cons, ih]; rfl

theorem Text.map_trim_extendFirst {c : Char} (hc : Text.isBlank c = true)
    {pieces : List (List Char)} (h : pieces ≠ []) :
    (Text.extendFirst c pieces).map Text.trim = pieces.map Text.trim := by
  cases pieces with
  | nil => exact absurd rfl h
  | cons piece more =>
    have htrim : Text.trim (c :: piece) = Text.trim piece := by
      rw [Text.trim, Text.trimStart, List.dropWhile_cons_of_pos hc]
      rfl
    rw [Text.extendFirst_cons, List.map_cons, htrim, List.map_cons]

theorem map_trim_pieces_joinTokens {token : List Char} {tokens : List (List Char)}
    (h : ∀ t ∈ token :: tokens, IsPiece t) :
    (ArgumentScan.start.pieces (joinTokens (token :: tokens))).map Text.trim =
      token :: tokens := by
  induction tokens generalizing token with
  | nil =>
    have htoken := h token List.mem_cons_self
    rw [joinTokens_cons, if_pos rfl, htoken.pieces_append, ArgumentScan.pieces,
      Text.foldr_extendFirst_cons, List.append_nil, List.map_singleton, htoken.trim_eq]
  | cons next tokens ih =>
    have htoken := h token List.mem_cons_self
    have hrest := ih fun t ht => h t (List.mem_cons_of_mem token ht)
    -- the comma cuts, and the blank after it goes to the argument behind it
    have hcomma : ArgumentScan.start.pieces (',' :: ' ' :: joinTokens (next :: tokens)) =
        [] :: Text.extendFirst ' ' (ArgumentScan.start.pieces (joinTokens (next :: tokens))) := rfl
    rw [joinTokens_cons, if_neg (by simp), htoken.pieces_append, hcomma,
      Text.foldr_extendFirst_cons, List.append_nil, List.map_cons, htoken.trim_eq,
      Text.map_trim_extendFirst (by decide) (ArgumentScan.pieces_ne_nil _ _), hrest]

/-- **A list of arguments is cut into these arguments**, unless the last of them is empty. -/
theorem splitArguments_joinTokens {tokens : List (List Char)} (h : ∀ t ∈ tokens, IsPiece t)
    (hlast : ∀ t, tokens.getLast? = some t → t ≠ []) :
    splitArguments (joinTokens tokens) = tokens := by
  cases tokens with
  | nil => rfl
  | cons token tokens =>
    have hkept : ((token :: tokens).getLast?.any List.isEmpty) = false := by
      rw [List.getLast?_eq_some_getLast (List.cons_ne_nil _ _), Option.any_some,
        List.isEmpty_eq_false_iff]
      exact hlast _ (List.getLast?_eq_some_getLast (List.cons_ne_nil _ _))
    rw [splitArguments, map_trim_pieces_joinTokens h, dropLastIf, hkept]
    rfl

theorem dropLastIf_map {α β : Type} {p : β → Bool} {q : α → Bool} {f : α → β}
    (h : ∀ x, p (f x) = q x) (xs : List α) :
    dropLastIf p (xs.map f) = (dropLastIf q xs).map f := by
  have hlast : (xs.map f).getLast?.any p = xs.getLast?.any q := by
    rw [List.getLast?_map]
    cases xs.getLast? with
    | none => rfl
    | some x => exact h x
  rw [dropLastIf, dropLastIf, hlast]
  by_cases hq : xs.getLast?.any q = true
  · rw [if_pos hq, if_pos hq, List.map_dropLast]
  · rw [if_neg hq, if_neg hq]

/-- **Arguments are cut exactly at the commas of the top level.** The arguments in a text
are the pieces between these commas, trimmed, without the last of them if it is blank, and
the pieces with commas between them are the text. In the other direction, arguments that
are pieces of their own, the last one not empty, come out of the text that lists them. -/
theorem splitArguments_cuts_topLevelCommas :
    (∀ cs : List Char,
      let pieces := Text.between cs (topLevelCommas cs)
      splitArguments cs =
        (dropLastIf (fun piece => piece.all Text.isBlank) pieces).map Text.trim ∧
      [','].intercalate pieces = cs) ∧
    ∀ tokens : List (List Char), (∀ t ∈ tokens, IsPiece t) →
      (∀ t, tokens.getLast? = some t → t ≠ []) → splitArguments (joinTokens tokens) = tokens := by
  refine ⟨?_, fun tokens => splitArguments_joinTokens⟩
  intro cs pieces
  have hpieces : ArgumentScan.start.pieces cs = pieces := by
    rw [ArgumentScan.pieces_eq_between, ArgumentScan.cutPlaces_start]
  refine ⟨?_, ?_⟩
  · rw [splitArguments, hpieces]
    refine dropLastIf_map (fun piece => ?_) pieces
    rw [Bool.eq_iff_iff, List.isEmpty_iff, Text.trim_eq_nil_iff, List.all_eq_true]
  · rw [← hpieces, ArgumentScan.intercalate_pieces]

/-- An empty argument in the middle, a nested one, and one with a comma and a lone bracket in
quotes. -/
theorem splitArguments_cuts_nested :
    let tokens := ["1", "", "(a, [b, c])", "k='x, )'"].map String.toList
    (∀ t ∈ tokens, IsPiece t) ∧ (∀ t, tokens.getLast? = some t → t ≠ []) ∧
    splitArguments "1, , (a, [b, c]), k='x, )'".toList = tokens := by
  intro tokens
  have htokens : ∀ t ∈ tokens, IsPiece t := by decide +kernel
  have hlast : ∀ t, tokens.getLast? = some t → t ≠ [] := by
    rintro t ht rfl
    cases ht
  have hjoin : "1, , (a, [b, c]), k='x, )'".toList = joinTokens tokens := by decide +kernel
  refine ⟨htokens, hlast, ?_⟩
  rw [hjoin]
  exact splitArguments_cuts_topLevelCommas.2 tokens htokens hlast

end CityScript
