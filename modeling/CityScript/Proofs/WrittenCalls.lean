/-
Calls as a script writes them.

A written call is an operation with literals for arguments, some of them under a name,
with a target in front or a comment behind or without. Its line goes through five
readers: for the comment, for the parts of the call, for the commas, for the names and
for the values. Each has its own view of quotes, brackets and equals signs. They agree
on every written call, and what reaches the parameters is what was written. In
particular a quoted text arrives as the characters between its quotes.
-/
import CityScript.Proofs.ArgumentFilling
import CityScript.Proofs.ValueText

set_option autoImplicit false

namespace CityScript

/-! ## Literals -/

/-- The sign in front of an integer, if there is one. -/
inductive Sign where
  | none
  | plus
  | minus
  deriving DecidableEq

namespace Sign

def text : Sign → List Char
  | .none => []
  | .plus => ['+']
  | .minus => ['-']

def isNegative : Sign → Bool
  | .minus => true
  | _ => false

/-- The sign of an integer is split off again. -/
theorem splitSign_append (sign : Sign) {digits : List Char} (hne : digits ≠ [])
    (hdigits : ∀ c ∈ digits, c.isDigit = true) :
    splitSign (sign.text ++ digits) = (sign.isNegative, digits) := by
  cases sign with
  | none => exact splitSign_of_isDigit hne hdigits
  | plus => rfl
  | minus => rfl

end Sign

/-- A literal: a keyword, a decimal integer that numbers have, or a text between two
quotes of a kind that does not occur in it. -/
inductive Literal where
  | null
  | bool (b : Bool)
  | integer (sign : Sign) (digits : List Char) (ne_nil : digits ≠ [])
      (digit : ∀ c ∈ digits, c.isDigit = true)
      (bound : natOfDigits digits < Binary64.integerBound)
  | quoted (quote : Char) (text : List Char) (isQuote : isQuote quote = true)
      (closed : quote ∉ text) (line : '\n' ∉ text)

namespace Literal

/-- A literal as a script writes it. -/
def text : Literal → List Char
  | .null => "None".toList
  | .bool true => "True".toList
  | .bool false => "False".toList
  | .integer sign digits _ _ _ => sign.text ++ digits
  | .quoted quote text _ _ _ => quote :: (text ++ [quote])

/-- What a literal stands for. -/
def value : Literal → Value
  | .null => .null
  | .bool b => .bool b
  | .integer sign digits _ _ _ => .number (.ofRatio sign.isNegative (natOfDigits digits) 1)
  | .quoted _ text _ _ _ => .text (String.ofList text)

/-- **A literal spells what it stands for.** -/
theorem spells (l : Literal) : Spells l.text l.value := by
  obtain ⟨hnull, htrue, hfalse⟩ := spells_keyword
  cases l with
  | null => exact hnull
  | bool b =>
    cases b
    · exact hfalse
    · exact htrue
  | integer sign digits ne_nil digit bound =>
    refine spells_number (fun c hc => ?_)
      (readNumber?_of_splitSign (sign.splitSign_append ne_nil digit) ne_nil digit bound)
    rcases List.mem_append.mp hc with hc | hc
    · have hsign : sign.text.all isBare = true := by cases sign <;> decide
      exact List.all_eq_true.mp hsign c hc
    · exact isBare_of_isNumberChar (isNumberChar_of_isDigit (digit c hc))
  | quoted quote text isQuote closed line => exact spells_quoted isQuote closed line

end Literal

/-! ## Written calls -/

/-- A name for a parameter or a target. -/
structure Identifier where
  text : List Char
  isIdentifier : isIdentifier text = true

/-- A literal for an argument, by its position or under a name. -/
structure WrittenArgument where
  name : Option Identifier
  literal : Literal

namespace WrittenArgument

/-- An argument as a script writes it. -/
def text (a : WrittenArgument) : List Char :=
  match a.name with
  | none => a.literal.text
  | some name => name.text ++ '=' :: a.literal.text

/-- What an argument gives. -/
def given (a : WrittenArgument) : Given :=
  match a.name with
  | none => .positional a.literal.value
  | some name => .named (String.ofList name.text) a.literal.value

/-- An argument is one, and is read as what it gives. -/
theorem read_text (a : WrittenArgument) : IsToken a.text ∧ Given.read a.text = a.given := by
  rw [text, given]
  cases a.name with
  | none => exact ⟨a.literal.spells.isToken, a.literal.spells.read_eq⟩
  | some name =>
    exact ⟨a.literal.spells.isToken.named name.isIdentifier,
      a.literal.spells.read_named name.isIdentifier⟩

end WrittenArgument

/-- A call without its operation: a target and a comment if there are any, and the
arguments in the order in which they are written. -/
structure WrittenCall where
  target : Option Identifier
  arguments : List WrittenArgument
  comment : Option (List Char)

namespace WrittenCall

/-- The target with its equals sign. -/
def targetText (w : WrittenCall) : List Char :=
  match w.target with
  | none => []
  | some name => name.text ++ [' ', '=', ' ']

/-- The call as a line of a script. -/
def line (w : WrittenCall) (operation : String) : List Char :=
  CommentSplit.text
    ⟨callText w.targetText operation.toList (w.arguments.map (·.text)), w.comment⟩

/-- The values by position, in order. -/
def positional (w : WrittenCall) : List Value :=
  (w.arguments.map (·.given)).filterMap Given.positional?

/-- The values under names, in order. -/
def named (w : WrittenCall) : List (String × Value) :=
  (w.arguments.map (·.given)).filterMap Given.named?

theorem isTarget_targetText (w : WrittenCall) : CallLine.IsTarget w.targetText := by
  rw [targetText]
  cases w.target with
  | none => exact .inl rfl
  | some name =>
    have hblank : ∀ c ∈ [' '], Text.isBlank c = true := List.all_eq_true.mp (by decide)
    exact .inr ⟨name.text, [' '], [' '], name.isIdentifier, hblank, hblank, rfl⟩

end WrittenCall

namespace Line

/-- **What is written arrives.** A written call of an operation in the catalog is read as
a call of it. Its arguments are the defaults, with the values by position written over
them in order and then the values under names, where the last one of a name counts. -/
theorem read_writtenCall {catalog : Catalog} {s : Signature} (hs : catalog.get? s.name = some s)
    (hname : isIdentifier s.name.toList = true) (hnames : (s.parameters.map (·.name)).Nodup)
    (number : Nat) (w : WrittenCall) :
    Line.read catalog number (w.line s.name) =
      .call s ⟨s.name, s.fill w.positional w.named,
        Text.trimmed (String.ofList (w.line s.name)), number⟩ := by
  -- the line is put together from tokens, and each token is read as what it gives
  have htokens : ∀ t ∈ w.arguments.map (·.text), IsToken t := by
    intro t ht
    obtain ⟨a, -, rfl⟩ := List.mem_map.mp ht
    exact a.read_text.1
  have hgiven : (w.arguments.map (·.text)).map Given.read = w.arguments.map (·.given) := by
    rw [List.map_map]
    exact List.map_congr_left fun a _ => a.read_text.2
  have hread := @Line.read_callText w.targetText s.name.toList _ catalog s
    (by rwa [String.ofList_toList]) w.isTarget_targetText hname htokens number w.comment
  rw [hgiven, Arguments.resolve_ofList hnames, String.ofList_toList] at hread
  rw [Text.trimmed, String.toList_ofList]
  exact hread

/-- A house with a target and a comment, two values for its name, and one for a parameter
that houses do not have. -/
theorem read_writtenCall_house :
    let s := Catalog.building "build_house" 1
    let w : WrittenCall := ⟨some ⟨"h".toList, by decide⟩,
      [⟨none, .integer .minus "07".toList (by decide) (List.all_eq_true.mp (by decide)) (by decide)⟩,
        ⟨some ⟨"name".toList, by decide⟩, .null⟩,
        ⟨some ⟨"colour".toList, by decide⟩, .bool true⟩,
        ⟨some ⟨"name".toList, by decide⟩,
          .quoted '"' "it's (#1], a=b".toList (by decide) (by decide) (by decide)⟩],
      some " 'note".toList⟩
    let line := "h = build_house(-07, name=None, colour=True, name=\"it's (#1], a=b\")# 'note"
    Catalog.builtin.get? s.name = some s ∧ isIdentifier s.name.toList = true ∧
      (s.parameters.map (·.name)).Nodup ∧ w.line s.name = line.toList ∧
      Line.read Catalog.builtin 1 line.toList =
        .call s ⟨s.name, [.ofInt (-7), .null, .ofInt 1, .text "it's (#1], a=b"], line, 1⟩ := by
  intro s w line
  have hs : Catalog.builtin.get? s.name = some s := by decide +kernel
  have hname : isIdentifier s.name.toList = true := by decide
  have hnames : (s.parameters.map (·.name)).Nodup := by decide
  have hline : w.line s.name = line.toList := by decide +kernel
  have hread := read_writtenCall hs hname hnames 1 w
  have hfill : s.fill w.positional w.named =
      [.ofInt (-7), .null, .ofInt 1, .text "it's (#1], a=b"] := by
    decide +kernel
  have htrimmed : Text.trimmed (String.ofList line.toList) = line := by decide +kernel
  rw [hfill, hline, htrimmed] at hread
  exact ⟨hs, hname, hnames, hline, hread⟩

end Line

end CityScript
