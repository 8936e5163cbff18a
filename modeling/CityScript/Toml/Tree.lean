/-
Building the tables of a TOML document.

Tables come about in three ways: by a header, as a step on the way to a table
below them, or by a key with points. A table that a header has made is closed to
keys with points from elsewhere and cannot be made again; one that was only a
step may still get a header of its own; and the values of a table written in
braces are final.
-/
import CityScript.Toml.Basic

set_option autoImplicit false

namespace CityScript.Toml

/-! ## Trees -/

/-- How a table has come about. -/
inductive TableForm where
  | header
  | step
  | dotted
  deriving DecidableEq, Repr, Inhabited

/-- A table under construction holds values, tables, and lists of tables. -/
inductive Node where
  | value (v : Toml)
  | table (form : TableForm) (entries : List (String × Node))
  | tables (items : List (List (String × Node)))
  deriving Inhabited

/-- The entries of a table under construction. -/
abbrev Entries := List (String × Node)

/-- Replaces the entry of a key, or adds it at the end. -/
def putEntry (key : String) (node : Node) : Entries → Entries
  | [] => [(key, node)]
  | (k, n) :: rest => if k = key then (k, node) :: rest else (k, n) :: putEntry key node rest

/-- Changes the table at a path. Tables that are missing on the way are made with
the given form, a list of tables is entered at its last one, and `dotted` paths
do not enter tables with a header. -/
def changeAt (missing : TableForm) (dotted : Bool)
    (change : TableForm → Entries → Option Entries) :
    List String → TableForm → Entries → Option Entries
  | [], form, entries => change form entries
  | key :: path, _, entries =>
    match entries.lookup key with
    | none => do
      let inner ← changeAt missing dotted change path missing []
      return putEntry key (.table missing inner) entries
    | some (.value _) => none
    | some (.tables items) =>
      match items.getLast? with
      | none => none
      | some last => do
        let inner ← changeAt missing dotted change path .header last
        return putEntry key (.tables (items.dropLast ++ [inner])) entries
    | some (.table form inner) =>
      if dotted ∧ form = .header then none
      else do
        let inner ← changeAt missing dotted change path form inner
        return putEntry key (.table form inner) entries

/-! ## Changes -/

/-- Adds a value under a key with points to a table. The last key must be new, and
the table right above it must be the table itself or made by such keys only. -/
def addValue (path : List String) (key : String) (v : Toml) (entries : Entries) :
    Option Entries :=
  changeAt .dotted true
    (fun form entries =>
      if (path ≠ [] ∧ form ≠ .dotted) ∨ (entries.lookup key).isSome then none
      else some (putEntry key (.value v) entries))
    path .header entries

/-- Opens the table of a header. -/
def openTable (path : List String) (key : String) (root : Entries) : Option Entries :=
  changeAt .step false
    (fun _ entries =>
      match entries.lookup key with
      | none => some (putEntry key (.table .header []) entries)
      | some (.table .step inner) => some (putEntry key (.table .header inner) entries)
      | some _ => none)
    path .header root

/-- Opens one more table in the list of a header. -/
def openTables (path : List String) (key : String) (root : Entries) : Option Entries :=
  changeAt .step false
    (fun _ entries =>
      match entries.lookup key with
      | none => some (putEntry key (.tables [[]]) entries)
      | some (.tables items) => some (putEntry key (.tables (items ++ [[]])) entries)
      | some _ => none)
    path .header root

/-- Adds a value to the table of a header. -/
def addValueUnder (header path : List String) (key : String) (v : Toml) (root : Entries) :
    Option Entries :=
  changeAt .step false (fun _ entries => addValue path key v entries) header .header root

/-! ## Finished documents -/

mutual

/-- A finished entry. -/
def Node.finish : Node → Toml
  | .value v => v
  | .table _ entries => .table (finishEntries entries)
  | .tables items => .array (finishTables items)

/-- The finished entries of a table. -/
def finishEntries : List (String × Node) → List (String × Toml)
  | [] => []
  | (key, node) :: rest => (key, node.finish) :: finishEntries rest

/-- The finished tables of a list. -/
def finishTables : List (List (String × Node)) → List Toml
  | [] => []
  | entries :: rest => .table (finishEntries entries) :: finishTables rest

end

end CityScript.Toml
