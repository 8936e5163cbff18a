/-
Catalogs: the operations that a script may call, each found by its name.

Every entry stands under the name of its own signature, and the signatures are
listed in the order of their names.
-/
import Std.Data.TreeMap.Lemmas
import CityScript.Script.Signature

set_option autoImplicit false

namespace CityScript

/-! ## Catalogs -/

/-- A set of signatures with different names. -/
structure Catalog where
  entries : Std.TreeMap String Signature
  name_eq : ∀ (name : String) (s : Signature), entries[name]? = some s → s.name = name

namespace Catalog

/-- The catalog without operations. -/
def empty : Catalog := ⟨∅, by simp⟩

instance : Inhabited Catalog := ⟨empty⟩

/-- The signature of an operation. -/
def get? (c : Catalog) (name : String) : Option Signature := c.entries[name]?

/-- Adds a signature; one of the same name is replaced. -/
def insert (c : Catalog) (s : Signature) : Catalog where
  entries := c.entries.insert s.name s
  name_eq name t h := by
    rw [Std.TreeMap.getElem?_insert] at h
    split at h
    · next heq => cases h; simpa using heq
    · exact c.name_eq name t h

/-- Adds signatures in order. -/
def insertMany (c : Catalog) (signatures : List Signature) : Catalog :=
  signatures.foldl insert c

/-- The catalog of some signatures; of several with one name the last one counts. -/
def ofList (signatures : List Signature) : Catalog := empty.insertMany signatures

/-- Whether an operation is in the catalog. -/
def contains (c : Catalog) (name : String) : Bool := (c.get? name).isSome

/-- The signatures in the order of their names. -/
def toList (c : Catalog) : List Signature := c.entries.values

/-- How many operations there are. -/
def size (c : Catalog) : Nat := c.entries.size

/-! ## Lookup -/

@[simp] theorem get?_empty (name : String) : empty.get? name = none := by
  simp [get?, empty]

theorem get?_insert (c : Catalog) (s : Signature) (name : String) :
    (c.insert s).get? name = if s.name = name then some s else c.get? name := by
  simp [get?, insert, Std.TreeMap.getElem?_insert]

/-! ## The city operations -/

/-- A place that is searched for around a row and a column. -/
def placeParameters : List Parameter := [⟨"row", .null⟩, ⟨"col", .null⟩]

/-- The signature of a landmark: a place and a name. -/
def landmark (name : String) : Signature :=
  ⟨name, placeParameters ++ [⟨"name", .text ""⟩]⟩

/-- The signature of a building with floors: a place, a floor count and a name. -/
def building (name : String) (floors : Int) : Signature :=
  ⟨name, placeParameters ++ [⟨"floors", .ofInt floors⟩, ⟨"name", .text ""⟩]⟩

/-- The operations that build a city. -/
def builtin : Catalog := ofList [
  building "build_house" 1,
  landmark "build_park",
  landmark "build_pool",
  landmark "build_library",
  landmark "build_school",
  landmark "build_hospital",
  landmark "build_shop",
  landmark "build_fountain",
  ⟨"build_road", [⟨"row", .ofInt 20⟩, ⟨"col", .ofInt 20⟩, ⟨"direction", .text "h"⟩]⟩,
  ⟨"build_power_tower", placeParameters⟩,
  building "build_apartment" 4,
  ⟨"clear_all", []⟩]

end Catalog

end CityScript
