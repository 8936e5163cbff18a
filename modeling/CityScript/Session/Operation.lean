/-
What operations do: how the arguments of a call become an order to the world.

The arguments are checked first, in the order of the parameters, and without a
look at the world. The order that they make is carried out afterwards.
-/
import CityScript.Script.Value
import CityScript.Session.Settings
import CityScript.World.Basic

set_option autoImplicit false

namespace CityScript

/-! ## Errors -/

/-- Why an argument cannot be used. -/
inductive ArgumentError where
  | invalid (parameter expected got : String)
  | missing (parameter : String)
  | outOfRange (parameter value : String)
  deriving DecidableEq, Repr, Inhabited

/-- The problem in words. -/
def ArgumentError.message : ArgumentError → String
  | .invalid parameter expected got =>
    "invalid argument '" ++ parameter ++ "': expected " ++ expected ++ ", got " ++ got
  | .missing parameter => "missing argument '" ++ parameter ++ "'"
  | .outOfRange parameter value =>
    "argument '" ++ parameter ++ "' out of range: " ++ value

/-- The error for a value of a wrong type. -/
def ArgumentError.wrongType (parameter expected : String) (value : Value) : ArgumentError :=
  .invalid parameter expected value.typeName

/-! ## Single arguments -/

namespace Argument

/-- The argument at a position; past the end there is nothing. -/
def get (arguments : List Value) (i : Nat) : Value := arguments[i]?.getD .null

/-- The integers that a coordinate may be: those of 32 bits. -/
def isCoordinate (n : Int) : Bool := minInt32 ≤ n && n ≤ maxInt32

/-- A coordinate, or nothing. -/
def coordinate (parameter : String) : Value → Except ArgumentError (Option Int)
  | .null => .ok none
  | .number n =>
    match n.toInt?.filter isCoordinate with
    | some i => .ok (some i)
    | none => .error (.outOfRange parameter n.plainText)
  | value => .error (.wrongType parameter "integer or None" value)

/-- A coordinate that has to be given. -/
def requiredCoordinate (parameter : String) (value : Value) : Except ArgumentError Int :=
  match coordinate parameter value with
  | .error e => .error e
  | .ok none => .error (.missing parameter)
  | .ok (some i) => .ok i

/-- A floor count, brought into the bounds of its kind. -/
def floors (low high : Nat) : Value → Except ArgumentError Nat
  | .number n =>
    match n.toInt? with
    | some i => .ok (max (low : Int) (min i (high : Int))).toNat
    | none => .error (.outOfRange "floors" n.plainText)
  | value => .error (.wrongType "floors" "integer" value)

/-- A name; an empty text is no name. -/
def name : Value → Except ArgumentError (Option String)
  | .null => .ok none
  | .text s => .ok (if s = "" then none else some s)
  | value => .error (.wrongType "name" "str" value)

/-- The direction of a road, horizontal unless it is given. -/
def direction : Value → Except ArgumentError Direction
  | .null => .ok .horizontal
  | .text s =>
    match Direction.ofText? s with
    | some d => .ok d
    | none => .error (.invalid "direction" "'h' or 'v'" ("'" ++ s ++ "'"))
  | value => .error (.wrongType "direction" "str" value)

end Argument

/-! ## Orders -/

/-- What a call asks of the world, its arguments checked. -/
inductive Order where
  | placeNear (kind : Kind) (row col : Option Int) (details : Details)
  | placeAt (kind : Kind) (cell : Cell) (details : Details)
  | clear
  deriving DecidableEq, Repr, Inhabited

/-- Carries out an order: what came of it, and the world after it. -/
def Order.run (w : World) : Order → Except PlacementError Outcome × World
  | .placeNear kind row col details =>
    let (result, w) := w.placeNear kind row col details
    (result.map .placed, w)
  | .placeAt kind cell details =>
    let (result, w) := w.placeAt kind cell details
    (result.map .placed, w)
  | .clear =>
    let (removed, w) := w.clear
    (.ok (.cleared removed), w)

/-! ## Operations -/

/-- The details that a kind has after its row and column. -/
inductive DetailForm where
  | plain
  | named
  | floored (low high : Nat)
  deriving DecidableEq, Repr, Inhabited

/-- Reads the details of a form from the arguments after the column. -/
def DetailForm.read (arguments : List Value) : DetailForm → Except ArgumentError Details
  | .plain => .ok {}
  | .named => do
    let name ← Argument.name (Argument.get arguments 2)
    return { name }
  | .floored low high => do
    let floors ← Argument.floors low high (Argument.get arguments 2)
    let name ← Argument.name (Argument.get arguments 3)
    return { name, floors := some floors }

/-- The form of the details of the kinds that are placed near a position. Houses
have one floor at least, apartments two to ten. -/
def Kind.detailForm : Kind → DetailForm
  | .house => .floored 1 maxWord32
  | .apartment => .floored 2 10
  | .powerTower => .plain
  | _ => .named

/-- What a name of an operation can stand for. -/
inductive Operation where
  | build (kind : Kind)
  | clear
  deriving DecidableEq, Repr, Inhabited

namespace Operation

/-- The order to build near a position. -/
def orderNear (kind : Kind) (arguments : List Value) : Except ArgumentError Order := do
  let row ← Argument.coordinate "row" (Argument.get arguments 0)
  let col ← Argument.coordinate "col" (Argument.get arguments 1)
  let details ← kind.detailForm.read arguments
  return .placeNear kind row col details

/-- The order to build a road, which goes exactly where it is asked for. -/
def orderRoad (arguments : List Value) : Except ArgumentError Order := do
  let row ← Argument.requiredCoordinate "row" (Argument.get arguments 0)
  let col ← Argument.requiredCoordinate "col" (Argument.get arguments 1)
  let direction ← Argument.direction (Argument.get arguments 2)
  return .placeAt .road ⟨row, col⟩ { direction := some direction }

/-- The order that a call with the given arguments makes. Arguments past the last
parameter do not matter. -/
def order (arguments : List Value) : Operation → Except ArgumentError Order
  | .build .road => orderRoad arguments
  | .build kind => orderNear kind arguments
  | .clear => .ok .clear

/-- The name that an operation has in a city script. -/
def name : Operation → String
  | .build kind => "build_" ++ kind.name
  | .clear => "clear_all"

/-- All operations. -/
def all : List Operation := Kind.all.map .build ++ [.clear]

theorem mem_all (operation : Operation) : operation ∈ all := by
  cases operation with
  | clear => decide
  | build kind => cases kind <;> decide

end Operation

end CityScript
