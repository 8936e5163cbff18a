/-
The log: events that are written to the error stream besides the answer.

Every event has a level, and only those of a least level are shown. A program that is told
to be verbose shows events for debugging, and otherwise only warnings and errors. An event
is written with the time and with details, so its text is left to whoever shows it.
-/
import CityScript.CommandLine.Basic

set_option autoImplicit false

namespace CityScript

/-! ## Events -/

/-- How much an event matters. -/
inductive LogLevel where
  | trace
  | debug
  | info
  | warn
  | error
  deriving DecidableEq, Repr, Inhabited

/-- The place of a level among the levels. -/
def LogLevel.rank : LogLevel → Nat
  | .trace => 0
  | .debug => 1
  | .info => 2
  | .warn => 3
  | .error => 4

/-- An event, with its message. -/
structure LogEvent where
  level : LogLevel
  message : String
  deriving DecidableEq, Repr, Inhabited

/-- The least level that is shown. -/
def LogLevel.threshold (verbose : Bool) : LogLevel := if verbose then .debug else .warn

/-- Whether an event is shown from a level on. -/
def LogEvent.isShown (threshold : LogLevel) (e : LogEvent) : Bool :=
  threshold.rank ≤ e.level.rank

/-! ## What is logged -/

/-- A line that is rejected is logged. -/
def Line.events : Line → List LogEvent
  | .rejected ⟨_, .malformed _⟩ => [⟨.debug, "line does not match call shape"⟩]
  | .rejected ⟨_, .unknownOperation _⟩ => [⟨.debug, "unknown operation"⟩]
  | _ => []

/-- A search is logged, on a grid that has cells; a position that can be taken needs none. -/
def World.searchEvents (w : World) (row col : Option Int) : List LogEvent :=
  let center := w.centerFor row col
  if row.isSome ∧ col.isSome ∧ w.grid.isFree center then []
  else if w.grid.mask.size = 0 then []
  else if (w.grid.findFreeInWords? center w.searchRadius).isSome then
    [⟨.trace, "free cell found"⟩]
  else [⟨.trace, "no free cell in search radius"⟩]

def Order.events (w : World) : Order → List LogEvent
  | .placeNear _ row col _ => w.searchEvents row col
  | .placeAt .. => []
  | .clear => [⟨.debug, "occupancy reset"⟩]

def Operation.events (operation : Operation) (arguments : List Value) (w : World) :
    List LogEvent :=
  match operation.order arguments with
  | .error _ => []
  | .ok order => order.events w

/-- A call is logged before its operation, if it has one, and after it. -/
def Registry.stepEvents (registry : Registry) (w : World) (call : Call) : List LogEvent :=
  let before := match registry.get? call.operation with
    | none => []
    | some operation => ⟨.debug, "dispatching call"⟩ :: operation.events call.arguments w
  let ending := if (registry.step w call).1.isOk then "call succeeded" else "call failed"
  before ++ [⟨.debug, ending⟩]

/-- The calls one after the other, and then the whole batch. -/
def Registry.events (registry : Registry) (w : World) : List Call → List LogEvent
  | [] => [⟨.info, "batch executed"⟩]
  | call :: rest => registry.stepEvents w call ++ registry.events (registry.step w call).2 rest

def Program.events (catalog : Catalog) (source : String) : List LogEvent :=
  (readLines catalog source).flatMap Line.events

def Session.events (s : Session) (source : String) : List LogEvent :=
  Program.events s.catalog source ++
    s.registry.events s.world (Program.read s.catalog source).calls

/-- What an invocation logs. Nothing is logged before everything is loaded. -/
def Invocation.events (i : Inputs) (invocation : Invocation) : List LogEvent :=
  match invocation.command with
  | .run script options =>
    match i.session invocation.config options, i.script script with
    | .ok session, .ok source => ⟨.debug, "starting session"⟩ :: session.events source
    | _, _ => []
  | .check script =>
    match i.script script with
    | .ok source => Program.events .builtin source
    | .error _ => []
  | .ops => []

/-! ## What is written -/

/-- All that an invocation writes: the log comes before the answer. -/
def Invocation.written (i : Inputs) (render : LogEvent → String) (invocation : Invocation) :
    Streams :=
  let shown := (invocation.events i).filter (·.isShown (.threshold invocation.verbose))
  let streams := invocation.streams i
  { streams with stderr := String.join (shown.map render) ++ streams.stderr }

end CityScript
