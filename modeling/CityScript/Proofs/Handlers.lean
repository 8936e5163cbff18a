/-
Operations as handlers.

An operation makes an order of its arguments, and the order is carried out afterwards. A
handler does both in one go: it is a computation on the world that stops at its first
error, with one step for each argument and a last one that places or clears. The handlers
below are written out step by step, and each is its operation (`run_handler`).

One lemma carries all of them. A check does not see the world, so a handler that begins
with a check and an order that begins with the same check agree if they agree after it
(`run_check_bind`).
-/
import CityScript.Session.Execution

set_option autoImplicit false

namespace CityScript

/-- A computation on the world that stops at its first error. What has become of the world
until then stays. -/
abbrev Handler (α : Type) := ExceptT CallError (StateM World) α

namespace Handler

/-! ## Steps -/

/-- A check of an argument. -/
def check {α : Type} (result : Except ArgumentError α) : Handler α :=
  ExceptT.mk fun w => (result.mapError .argument, w)

/-- Places an object near a position. -/
def placeNear (kind : Kind) (row col : Option Int) (details : Details) : Handler Outcome :=
  ExceptT.mk fun w =>
    let (result, w) := w.placeNear kind row col details
    ((result.map Outcome.placed).mapError .placement, w)

/-- Places an object on a cell. -/
def placeAt (kind : Kind) (cell : Cell) (details : Details) : Handler Outcome :=
  ExceptT.mk fun w =>
    let (result, w) := w.placeAt kind cell details
    ((result.map Outcome.placed).mapError .placement, w)

/-- Takes everything off the map. -/
def clear : Handler Outcome :=
  ExceptT.mk fun w =>
    let (removed, w) := w.clear
    (.ok (.cleared removed), w)

section Arguments

variable (arguments : List Value)

/-- The coordinate at an index of the arguments. -/
def coordinate (i : Nat) (parameter : String) : Handler (Option Int) :=
  check (Argument.coordinate parameter (Argument.get arguments i))

def requiredCoordinate (i : Nat) (parameter : String) : Handler Int :=
  check (Argument.requiredCoordinate parameter (Argument.get arguments i))

def floors (i low high : Nat) : Handler Nat :=
  check (Argument.floors low high (Argument.get arguments i))

def name (i : Nat) : Handler (Option String) := check (Argument.name (Argument.get arguments i))

def direction (i : Nat) : Handler Direction :=
  check (Argument.direction (Argument.get arguments i))

/-! ## Handlers -/

/-- Builds a landmark: a row, a column and a name. -/
def buildNamed (kind : Kind) : Handler Outcome := do
  let row ← coordinate arguments 0 "row"
  let col ← coordinate arguments 1 "col"
  let name ← name arguments 2
  placeNear kind row col { name }

/-- Builds a house or an apartment: the floors stand before the name. -/
def buildFloored (kind : Kind) (low high : Nat) : Handler Outcome := do
  let row ← coordinate arguments 0 "row"
  let col ← coordinate arguments 1 "col"
  let floors ← floors arguments 2 low high
  let name ← name arguments 3
  placeNear kind row col { floors := some floors, name }

def buildPowerTower : Handler Outcome := do
  let row ← coordinate arguments 0 "row"
  let col ← coordinate arguments 1 "col"
  placeNear .powerTower row col {}

/-- Builds a road, which goes exactly where it is asked for. -/
def buildRoad : Handler Outcome := do
  let row ← requiredCoordinate arguments 0 "row"
  let col ← requiredCoordinate arguments 1 "col"
  let direction ← direction arguments 2
  placeAt .road ⟨row, col⟩ { direction := some direction }

end Arguments

end Handler

/-- The handler of an operation. -/
def Operation.handler (arguments : List Value) : Operation → Handler Outcome
  | .build .house => Handler.buildFloored arguments .house 1 maxWord32
  | .build .apartment => Handler.buildFloored arguments .apartment 2 10
  | .build .powerTower => Handler.buildPowerTower arguments
  | .build .road => Handler.buildRoad arguments
  | .build kind => Handler.buildNamed arguments kind
  | .clear => Handler.clear

/-! ## Orders and handlers -/

/-- Carries out the order that the checks of the arguments have made, if they have. -/
def Operation.carryOut (order : Except ArgumentError Order) (w : World) :
    Except CallError Outcome × World :=
  match order with
  | .error e => (.error (.argument e), w)
  | .ok order =>
    let (result, w) := order.run w
    (result.mapError .placement, w)

namespace Handler

variable {w : World}

/-- **The same check first.** A handler and an order that begin with it agree if they agree
on everything that passes. -/
theorem run_check_bind {α : Type} {result : Except ArgumentError α} {f : α → Handler Outcome}
    {order : α → Except ArgumentError Order}
    (h : ∀ a, (f a).run w = Operation.carryOut (order a) w) :
    (check result >>= f).run w = Operation.carryOut (result >>= order) w := by
  cases result with
  | error e => rfl
  | ok a => exact h a

variable (arguments : List Value)

theorem run_buildNamed {kind : Kind} (hform : kind.detailForm = .named) :
    (buildNamed arguments kind).run w =
      Operation.carryOut (Operation.orderNear kind arguments) w := by
  unfold buildNamed Operation.orderNear
  rw [hform, DetailForm.read]
  simp only [bind_assoc, pure_bind]
  apply run_check_bind
  intro row
  apply run_check_bind
  intro col
  apply run_check_bind
  intro name
  rfl

theorem run_buildFloored {kind : Kind} {low high : Nat}
    (hform : kind.detailForm = .floored low high) :
    (buildFloored arguments kind low high).run w =
      Operation.carryOut (Operation.orderNear kind arguments) w := by
  unfold buildFloored Operation.orderNear
  rw [hform, DetailForm.read]
  simp only [bind_assoc, pure_bind]
  apply run_check_bind
  intro row
  apply run_check_bind
  intro col
  apply run_check_bind
  intro floors
  apply run_check_bind
  intro name
  rfl

theorem run_buildPowerTower :
    (buildPowerTower arguments).run w =
      Operation.carryOut (Operation.orderNear .powerTower arguments) w := by
  apply run_check_bind
  intro row
  apply run_check_bind
  intro col
  rfl

theorem run_buildRoad :
    (buildRoad arguments).run w = Operation.carryOut (Operation.orderRoad arguments) w := by
  apply run_check_bind
  intro row
  apply run_check_bind
  intro col
  apply run_check_bind
  intro direction
  rfl

end Handler

/-- **A handler is its operation**: for all arguments it has the same outcome in every world,
and leaves the same world. -/
theorem Operation.run_handler (operation : Operation) (arguments : List Value) (w : World) :
    (operation.handler arguments).run w = operation.run arguments w := by
  have hrun : operation.run arguments w = carryOut (operation.order arguments) w := rfl
  rw [hrun]
  cases operation with
  | clear => rfl
  | build kind =>
    cases kind with
    | house => exact Handler.run_buildFloored arguments rfl
    | apartment => exact Handler.run_buildFloored arguments rfl
    | powerTower => exact Handler.run_buildPowerTower arguments
    | road => exact Handler.run_buildRoad arguments
    | _ => exact Handler.run_buildNamed arguments rfl

end CityScript
