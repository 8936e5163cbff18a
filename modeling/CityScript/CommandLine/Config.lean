/-
Configuration files.

A configuration is a TOML document with two tables, one about the grid and one
about placement. Every key may be missing, and no other keys are allowed. Either
table may also be given as an array of all its values in order.
-/
import CityScript.CommandLine.Files
import CityScript.Session.Settings
import CityScript.Toml.Reader

set_option autoImplicit false

namespace CityScript

/-- What a configuration file sets. -/
structure Config where
  gridSize : Option Nat := none
  mask : Option String := none
  searchRadius : Option Nat := none
  defaultCenter : Option Cell := none
  deriving DecidableEq, Repr, Inhabited

namespace Config

/-! ## Single values -/

/-- Sets the grid size. -/
def setGridSize? (c : Config) (value : Toml) : Option Config :=
  (value.natUpTo? maxWord64).map fun n => { c with gridSize := n }

/-- Sets the path of the mask file. -/
def setMask? (c : Config) (value : Toml) : Option Config :=
  value.text?.map fun path => { c with mask := path }

/-- Sets the search radius. -/
def setSearchRadius? (c : Config) (value : Toml) : Option Config :=
  (value.natUpTo? maxWord32).map fun n => { c with searchRadius := n }

/-- Sets the default centre, given by a row and a column. What follows them in the
array does not matter. -/
def setDefaultCenter? (c : Config) : Toml → Option Config
  | .array (.integer row :: .integer col :: _) => some { c with defaultCenter := some ⟨row, col⟩ }
  | _ => none

/-! ## Tables -/

/-- A key and the way its value is set. -/
abbrev Field := String × (Config → Toml → Option Config)

/-- The keys of the table about the grid. -/
def gridFields : List Field := [("size", setGridSize?), ("mask", setMask?)]

/-- The keys of the table about placement. -/
def placementFields : List Field :=
  [("search_radius", setSearchRadius?), ("default_center", setDefaultCenter?)]

/-- Sets the values of a table by their keys. -/
def setEntries? (fields : List Field) (c : Config) : List (String × Toml) → Option Config
  | [] => some c
  | (key, value) :: rest => do
    let set ← fields.lookup key
    setEntries? fields (← set c value) rest

/-- Sets the values of an array by their order. All must be there, and further ones
do not matter. -/
def setItems? (c : Config) : List Field → List Toml → Option Config
  | [], _ => some c
  | _ :: _, [] => none
  | (_, set) :: fields, value :: rest => do setItems? (← set c value) fields rest

/-- Sets the values of a table that is given in either form. -/
def setTable? (fields : List Field) (c : Config) : Toml → Option Config
  | .table entries => setEntries? fields c entries
  | .array items => setItems? c fields items
  | _ => none

/-- The configuration in the entries of a document. -/
def ofEntries? (entries : List (String × Toml)) : Option Config :=
  setEntries? [("grid", setTable? gridFields), ("placement", setTable? placementFields)] {} entries

/-- Reads a configuration from the text of a document. -/
def ofText? (text : String) : Option Config := (Toml.read? text).bind ofEntries?

/-- Takes the path of the mask file from the folder of the configuration file. -/
def rebase (c : Config) (path : String) : Config :=
  { c with mask := c.mask.map (Path.join (Path.parent path)) }

end Config

end CityScript
