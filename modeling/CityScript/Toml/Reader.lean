/-
Reading TOML documents: values, key and value pairs, headers, and the document
as a whole, line by line.
-/
import CityScript.Toml.Lexical
import CityScript.Toml.Tree

set_option autoImplicit false

namespace CityScript.Toml

/-! ## Values -/

/-- The parts of a key before the last one, and the last one. -/
def splitKey? (parts : List String) : Option (List String × String) :=
  parts.getLast?.map fun last => (parts.dropLast, last)

/-- A key as its leading parts and its last one. -/
def readSplitKey? (cs : List Char) : Option ((List String × String) × List Char) := do
  let (parts, rest) ← readKey? depthLimit cs
  return (← splitKey? parts, rest)

/-- A string as a value. -/
def stringValue? (cs : List Char) : Option (Toml × List Char) :=
  (readString? cs).map fun (text, after) => (.string (String.ofList text), after)

mutual

/-- A value, inside so many further arrays and tables at most. -/
def readValue? (depth : Nat) : Nat → List Char → Option (Toml × List Char)
  | 0, _ => none
  | fuel + 1, cs =>
    match cs with
    | '[' :: rest =>
      match depth with
      | 0 => none
      | depth + 1 => (readItems? depth fuel rest).map fun (items, after) => (.array items, after)
    | '\x7b' :: rest =>
      match depth with
      | 0 => none
      | depth + 1 =>
        match skipSpace rest with
        | '\x7d' :: after => some (.table [], after)
        | rest => do
          let (entries, after) ← readPairs? depth fuel [] rest
          return (.table (finishEntries entries), after)
    | 't' :: 'r' :: 'u' :: 'e' :: rest => some (.boolean, rest)
    | 'f' :: 'a' :: 'l' :: 's' :: 'e' :: rest => some (.boolean, rest)
    | '"' :: _ => stringValue? cs
    | '\x27' :: _ => stringValue? cs
    | cs => readNumber? cs

/-- The items of an array up to its closing bracket, which a comma may precede. -/
def readItems? (depth : Nat) : Nat → List Char → Option (List Toml × List Char)
  | 0, _ => none
  | fuel + 1, cs =>
    match skipFiller false cs with
    | ']' :: after => some ([], after)
    | rest =>
      match readValue? depth fuel rest with
      | none => none
      | some (item, rest) =>
        match skipFiller false rest with
        | ',' :: rest =>
          (readItems? depth fuel rest).map fun (items, after) => (item :: items, after)
        | ']' :: after => some ([item], after)
        | _ => none

/-- The pairs of a table in braces up to its closing brace; there is at least one. -/
def readPairs? (depth : Nat) : Nat → Entries → List Char → Option (Entries × List Char)
  | 0, _, _ => none
  | fuel + 1, entries, cs =>
    match readSplitKey? cs with
    | some ((path, key), '=' :: rest) =>
      match readValue? depth fuel (skipSpace rest) with
      | none => none
      | some (v, rest) =>
        match addValue path key v entries, skipSpace rest with
        | some entries, ',' :: rest => readPairs? depth fuel entries rest
        | some entries, '\x7d' :: after => some (entries, after)
        | _, _ => none
    | _ => none

end

/-! ## Documents -/

/-- The key of a header up to its closing brackets. -/
def readHeader? (close : List Char) (cs : List Char) :
    Option ((List String × String) × List Char) := do
  let (key, rest) ← readSplitKey? cs
  if close.isPrefixOf rest then
    return (key, ← lineEnd? (rest.drop close.length))
  else none

/-- Reads a document line by line: the path of the last header, what the document
holds so far, and the text that is left. -/
def readLines? : Nat → List String → Entries → List Char → Option Entries
  | 0, _, _, _ => none
  | fuel + 1, header, root, cs =>
    match skipSpace cs with
    | [] => some root
    | '#' :: rest => do readLines? fuel header root (← lineEnd? ('#' :: rest))
    | '\n' :: rest => readLines? fuel header root rest
    | '\r' :: rest => do readLines? fuel header root (← newline? ('\r' :: rest))
    | '[' :: '[' :: rest => do
      let ((path, key), rest) ← readHeader? [']', ']'] rest
      readLines? fuel (path ++ [key]) (← openTables path key root) rest
    | '[' :: rest => do
      let ((path, key), rest) ← readHeader? [']'] rest
      readLines? fuel (path ++ [key]) (← openTable path key root) rest
    | rest =>
      match readSplitKey? rest with
      | some ((path, key), '=' :: rest) => do
        let (v, rest) ← readValue? depthLimit (rest.length + 1) (skipSpace rest)
        readLines? fuel header (← addValueUnder header path key v root) (← lineEnd? rest)
      | _ => none

/-- Reads a text as a document, all of it or not at all. A byte order mark in front
does not count. -/
def read? (text : String) : Option (List (String × Toml)) :=
  let cs := match text.toList with
    | '\uFEFF' :: rest => rest
    | cs => cs
  (readLines? (cs.length + 1) [] [] cs).map finishEntries

end CityScript.Toml
