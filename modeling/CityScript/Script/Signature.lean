/-
Signatures of operations: a name, and the parameters with their defaults.
-/
import CityScript.Script.Value

set_option autoImplicit false

namespace CityScript

/-! ## Signatures -/

/-- A parameter of an operation and the value it has when a call does not give one. -/
structure Parameter where
  name : String
  default : Value
  deriving DecidableEq, Inhabited

/-- What a call of an operation may give. -/
structure Signature where
  name : String
  parameters : List Parameter
  deriving DecidableEq, Inhabited

namespace Signature

/-- The defaults, in the order of the parameters. -/
def defaults (s : Signature) : List Value := s.parameters.map (·.default)

/-- Where a parameter stands; of several parameters of one name, the first. -/
def index? (s : Signature) (parameter : String) : Option Nat :=
  s.parameters.findIdx? (·.name == parameter)

@[simp] theorem length_defaults (s : Signature) : s.defaults.length = s.parameters.length := by
  simp [defaults]

/-! ## Writing -/

/-- A name with values given by keyword, separated by commas. -/
def renderKeywords (operation : String) (parameters : List String) (values : List Value) :
    String :=
  let written := List.zipWith (fun parameter value => parameter ++ "=" ++ value.render)
    parameters values
  operation ++ "(" ++ String.intercalate ", " written ++ ")"

/-- The signature as a call that spells out every default. -/
def describe (s : Signature) : String :=
  renderKeywords s.name (s.parameters.map (·.name)) s.defaults

/-- The signature as a document: names and defaults in two lists. -/
def toJson (s : Signature) : Json :=
  .object [
    ("name", .ofString s.name),
    ("parameters", .list (s.parameters.map fun p => .ofString p.name)),
    ("defaults", .list (s.defaults.map Value.toJson))]

end Signature

end CityScript
