/-
The map of a world, as text: a line for each row and a character for each cell.
-/
import Std.Data.TreeMap.Lemmas
import CityScript.World.Basic

set_option autoImplicit false

namespace CityScript.World

/-- The glyphs of the objects on the map, by cell. Of two objects on one cell the
later one shows. -/
def glyphs (w : World) : Std.TreeMap Cell Char :=
  w.placed.foldl (fun glyphs o => glyphs.insert o.cell o.kind.glyph) ∅

/-- What the map shows at a cell: an object, or else land or water. -/
def glyphAt (w : World) (glyphs : Std.TreeMap Cell Char) (c : Cell) : Char :=
  glyphs[c]?.getD (if w.grid.mask.isLand c then '.' else '~')

/-- The characters of the map, row by row. -/
def mapRows (w : World) : List (List Char) :=
  let glyphs := w.glyphs
  let indices := List.range w.grid.mask.size
  indices.map fun row => indices.map fun col => w.glyphAt glyphs ⟨(row : Nat), (col : Nat)⟩

/-- The map as text, with a line feed between two rows. -/
def map (w : World) : String := String.intercalate "\n" (w.mapRows.map String.ofList)

end CityScript.World
