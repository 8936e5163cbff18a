/-
Registries: which operation each name in a script stands for.
-/
import Std.Data.TreeMap.Lemmas
import CityScript.Session.Operation

set_option autoImplicit false

namespace CityScript

/-- Names and the operations that they stand for. -/
structure Registry where
  entries : Std.TreeMap String Operation

namespace Registry

/-- The registry without names. -/
def empty : Registry := ⟨∅⟩

instance : Inhabited Registry := ⟨empty⟩

/-- The operation of a name. -/
def get? (r : Registry) (name : String) : Option Operation := r.entries[name]?

/-- Binds a name; an earlier binding of it is replaced. -/
def bind (r : Registry) (name : String) (operation : Operation) : Registry :=
  ⟨r.entries.insert name operation⟩

/-- Whether a name is bound. -/
def contains (r : Registry) (name : String) : Bool := (r.get? name).isSome

/-- How many names are bound. -/
def size (r : Registry) : Nat := r.entries.size

@[simp] theorem get?_empty (name : String) : empty.get? name = none := by
  simp [get?, empty]

/-- Every operation under its own name. -/
def builtin : Registry :=
  Operation.all.foldl (fun r operation => r.bind operation.name operation) empty

/-- Every operation is bound to its own name. -/
theorem get?_builtin (operation : Operation) : builtin.get? operation.name = some operation := by
  have hall : ∀ o ∈ Operation.all, builtin.get? o.name = some o := by decide +kernel
  exact hall operation operation.mem_all

end Registry

end CityScript
