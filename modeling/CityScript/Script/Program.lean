/-
Programs: a whole script, read line by line against a catalog.
-/
import CityScript.Script.Line
import CityScript.Text.Lines

set_option autoImplicit false

namespace CityScript

/-- The lines of a script, read in order and numbered from one. -/
def readLines (catalog : Catalog) (source : String) : List Line :=
  (Text.lines source.toList).mapIdx fun i raw => Line.read catalog (i + 1) raw

/-- A script made ready: its calls, the normalized form of each line, and the
problems found, each in the order of the lines. -/
structure Program where
  calls : List Call
  normalized : List String
  diagnostics : List Diagnostic
  deriving DecidableEq, Inhabited

namespace Program

/-- The program that some lines make up. -/
def ofLines (lines : List Line) : Program :=
  ⟨lines.filterMap Line.call?, lines.map Line.render, lines.filterMap Line.diagnostic?⟩

/-- Reads a script. -/
def read (catalog : Catalog) (source : String) : Program := ofLines (readLines catalog source)

/-- The program of some lines and then others is that of the first, continued by
that of the others. -/
theorem ofLines_append (a b : List Line) :
    ofLines (a ++ b) =
      ⟨(ofLines a).calls ++ (ofLines b).calls, (ofLines a).normalized ++ (ofLines b).normalized,
        (ofLines a).diagnostics ++ (ofLines b).diagnostics⟩ := by
  simp [ofLines]

@[simp] theorem length_normalized_ofLines (lines : List Line) :
    (ofLines lines).normalized.length = lines.length := by
  simp [ofLines]

end Program

end CityScript
