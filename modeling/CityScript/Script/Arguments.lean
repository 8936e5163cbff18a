/-
The arguments of a call: how their text is cut into pieces, which pieces give a
parameter by name, and how they fill the parameters of a signature.
-/
import Std.Data.TreeMap.Lemmas
import CityScript.Script.Quote
import CityScript.Script.Signature
import CityScript.Text.Pieces

set_option autoImplicit false

namespace CityScript

/-! ## Cutting at commas -/

/-- The state of a scan over argument text: the open quote, and how deep the scan
is in brackets. Stray closing brackets make the depth negative. -/
structure ArgumentScan where
  opened : Option Char
  depth : Int
  deriving DecidableEq, Repr

namespace ArgumentScan

/-- Outside quotes and brackets. -/
def start : ArgumentScan := ⟨none, 0⟩

/-- How an unquoted character changes the depth. -/
def depthChange (c : Char) : Int :=
  if c = '(' ∨ c = '[' then 1 else if c = ')' ∨ c = ']' then -1 else 0

/-- The state after one more character. -/
def step (s : ArgumentScan) (c : Char) : ArgumentScan :=
  ⟨quoteStep s.opened c, if s.opened = none then s.depth + depthChange c else s.depth⟩

/-- The state after a text. -/
def run (s : ArgumentScan) (cs : List Char) : ArgumentScan := cs.foldl step s

/-- Whether a character separates two arguments: a comma outside quotes and brackets. -/
def cuts (s : ArgumentScan) (c : Char) : Bool :=
  c == ',' && s.opened.isNone && s.depth == 0

/-- The pieces between the separating commas, blanks included. There is always
at least one. -/
def pieces : ArgumentScan → List Char → List (List Char)
  | _, [] => [[]]
  | s, c :: rest =>
    if s.cuts c then [] :: pieces (s.step c) rest
    else Text.extendFirst c (pieces (s.step c) rest)

theorem pieces_ne_nil (s : ArgumentScan) (cs : List Char) : s.pieces cs ≠ [] := by
  fun_cases pieces s cs <;> simp

end ArgumentScan

/-- Drops the last element of a list if it satisfies a condition. -/
def dropLastIf {α : Type} (p : α → Bool) (xs : List α) : List α :=
  if xs.getLast?.any p then xs.dropLast else xs

/-- The arguments in a text, without the blanks around them. A blank last piece is
no argument, so a blank text has none. -/
def splitArguments (cs : List Char) : List (List Char) :=
  dropLastIf List.isEmpty ((ArgumentScan.start.pieces cs).map Text.trim)

/-! ## Arguments by name -/

/-- Splits an argument into a parameter name and a value text. It has them when
it has an equals sign after its first character and no quote before that sign. -/
def keywordSplit? (argument : List Char) : Option (List Char × List Char) :=
  let key := argument.takeWhile (· ≠ '=')
  match argument.dropWhile (· ≠ '=') with
  | [] => none
  | _ :: value => if key = [] ∨ key.any isQuote then none else some (Text.trim key, value)

/-- An argument as a call gives it: a value alone, or a value for a named parameter. -/
inductive Given where
  | positional (value : Value)
  | named (name : String) (value : Value)
  deriving DecidableEq, Inhabited

namespace Given

/-- Reads one argument. -/
def read (argument : List Char) : Given :=
  match keywordSplit? argument with
  | some (key, value) => .named (String.ofList key) (Value.read value)
  | none => .positional (Value.read argument)

/-- The value of an argument without a name. -/
def positional? : Given → Option Value
  | .positional value => some value
  | .named _ _ => none

/-- The name and the value of an argument with a name. -/
def named? : Given → Option (String × Value)
  | .positional _ => none
  | .named name value => some (name, value)

end Given

/-- The arguments of a call: values by position, and values by name. -/
structure Arguments where
  positional : List Value
  keyword : Std.TreeMap String Value

namespace Arguments

/-- Values by name; of several with one name the last one counts. -/
def keywordsOf (named : List (String × Value)) : Std.TreeMap String Value :=
  named.foldl (fun keyword (name, value) => keyword.insert name value) ∅

/-- **The last value counts.** A name has the value that was given to it last. -/
theorem getElem?_keywordsOf (named : List (String × Value)) (name : String) :
    (keywordsOf named)[name]? = named.reverse.lookup name := by
  suffices h : ∀ keyword : Std.TreeMap String Value,
      (named.foldl (fun keyword (p : String × Value) => keyword.insert p.1 p.2) keyword)[name]? =
        (named.reverse.lookup name).or keyword[name]? by
    simpa [keywordsOf] using h ∅
  induction named with
  | nil => simp
  | cons p named ih =>
    intro keyword
    rw [List.foldl_cons, ih, List.reverse_cons, List.lookup_append, Option.or_assoc,
      Std.TreeMap.getElem?_insert]
    obtain ⟨key, value⟩ := p
    by_cases hk : key = name
    · subst hk
      simp
    · have hne : (name == key) = false := by simpa using Ne.symm hk
      simp [hk, List.lookup_cons, hne]

/-- The arguments that a call gives one after the other. -/
def ofList (given : List Given) : Arguments :=
  ⟨given.filterMap Given.positional?, keywordsOf (given.filterMap Given.named?)⟩

instance : Inhabited Arguments := ⟨ofList []⟩

/-- Reads the arguments in a text. -/
def read (cs : List Char) : Arguments := ofList ((splitArguments cs).map Given.read)

/-! ## Filling the parameters -/

/-- The value for the parameter at a position: the one given by its name if the
parameter is the first of that name, else the one given at this position, else
its default. -/
def valueAt (arguments : Arguments) (s : Signature) (i : Nat) (p : Parameter) : Value :=
  let named := if s.index? p.name = some i then arguments.keyword[p.name]? else none
  (named <|> arguments.positional[i]?).getD p.default

/-- The values for all parameters of a signature. Surplus values and names that
no parameter has are dropped. -/
def resolve (arguments : Arguments) (s : Signature) : List Value :=
  s.parameters.mapIdx (arguments.valueAt s)

@[simp] theorem length_resolve (arguments : Arguments) (s : Signature) :
    (arguments.resolve s).length = s.parameters.length := by
  simp [resolve]

/-- Every parameter has its own value. -/
theorem getElem?_resolve (arguments : Arguments) (s : Signature) (i : Nat) :
    (arguments.resolve s)[i]? = s.parameters[i]?.map (arguments.valueAt s i) := by
  simp [resolve]

end Arguments

end CityScript
