/-
Sessions: a catalog, a registry and a world that several scripts share.

A script is read against the catalog, its calls are run on the world, and the
report keeps everything that came of it. What one script places is there for the
next, until it is cleared.
-/
import CityScript.Script.Program
import CityScript.Session.Execution
import CityScript.World.Map

set_option autoImplicit false

namespace CityScript

/-! ## Reports -/

/-- What came of one script, with the count of the calls that succeeded. -/
structure Report where
  normalized : List String
  diagnostics : List Diagnostic
  results : List CallResult
  successes : Nat
  successes_eq : successes = successCount results

namespace Report

/-- The report on a program after its run. -/
def ofTally (program : Program) (t : Tally) : Report :=
  ⟨program.normalized, program.diagnostics, t.results.toList, t.successes, t.successes_eq⟩

/-- How many calls failed. -/
def failures (r : Report) : Nat := r.results.length - r.successes

/-- Whether every line was understood and every call succeeded. -/
def isClean (r : Report) : Bool := r.diagnostics.isEmpty && r.failures == 0

end Report

/-! ## Sessions -/

/-- The new world of a mask. What the settings leave open follows from the size of
the mask, whatever grid size the settings have. -/
def World.new (mask : Mask) (settings : Settings) : World :=
  let settings := { settings with gridSize := mask.size }
  .ofMask mask settings.radius settings.center

/-- A catalog, a registry and a world. -/
structure Session where
  catalog : Catalog
  registry : Registry
  world : World

namespace Session

/-- A new session on a mask, with the operations that build a city. -/
def ofMask (mask : Mask) (settings : Settings) : Session :=
  ⟨.builtin, .builtin, .new mask settings⟩

/-- A new session on a grid of land only. -/
def ofSettings (settings : Settings) : Session := ofMask (.allLand settings.gridSize) settings

instance : Inhabited Session := ⟨ofSettings {}⟩

/-- Runs a script. -/
def run (s : Session) (source : String) : Report × Session :=
  let program := Program.read s.catalog source
  let (tally, world) := s.registry.executeOnto .empty s.world program.calls
  (.ofTally program tally, { s with world })

@[simp] theorem normalized_run (s : Session) (source : String) :
    (s.run source).1.normalized = (Program.read s.catalog source).normalized := rfl

@[simp] theorem diagnostics_run (s : Session) (source : String) :
    (s.run source).1.diagnostics = (Program.read s.catalog source).diagnostics := rfl

@[simp] theorem results_run (s : Session) (source : String) :
    (s.run source).1.results =
      (s.registry.execute s.world (Program.read s.catalog source).calls).1 :=
  (s.registry.executeOnto_eq .empty s.world _).1

/-- The counter of a run is the number of its results that are successes. -/
@[simp] theorem successes_run (s : Session) (source : String) :
    (s.run source).1.successes =
      successCount (s.registry.execute s.world (Program.read s.catalog source).calls).1 := by
  rw [Report.successes_eq, results_run]

/-- A script changes nothing of a session but its world. -/
@[simp] theorem run_snd (s : Session) (source : String) :
    (s.run source).2 =
      { s with
        world := (s.registry.execute s.world (Program.read s.catalog source).calls).2 } :=
  congrArg (Session.mk s.catalog s.registry) (s.registry.executeOnto_eq .empty s.world _).2

/-- Takes everything off the map; also says how much that was. -/
def reset (s : Session) : Nat × Session :=
  let (removed, world) := s.world.clear
  (removed, { s with world })

/-- The map of the session's world. -/
def map (s : Session) : String := s.world.map

end Session

/-- The report of a script in a session of its own. -/
def runScript (source : String) (settings : Settings) : Report :=
  ((Session.ofSettings settings).run source).1

end CityScript
