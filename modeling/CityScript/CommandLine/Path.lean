/-
Paths of files, taken apart at the slashes.

Empty parts and single points do not change where a path leads, so they are
passed over when the last part of a path or the folder above it is asked for.
-/
import CityScript.Text.Pieces

set_option autoImplicit false

namespace CityScript.Path

/-! ## Parts -/

/-- The parts of a path between its slashes. There is always at least one. -/
def splitSlashes : List Char → List (List Char)
  | [] => [[]]
  | '/' :: rest => [] :: splitSlashes rest
  | c :: rest => Text.extendFirst c (splitSlashes rest)

/-- The parts of a path, as texts. -/
def parts (path : String) : List String := (splitSlashes path.toList).map String.ofList

/-- Whether a part leads nowhere. -/
def isIdle (part : String) : Bool := part == "" || part == "."

/-- Drops idle parts at the end, but keeps the first part. -/
def dropIdleEnd (parts : List String) : List String :=
  match parts with
  | [] => []
  | first :: rest => first :: (rest.reverse.dropWhile isIdle).reverse

/-- Whether a path starts at the root. -/
def isAbsolute (path : String) : Bool := path.toList.head? == some '/'

/-- Parts put together again. A single empty part is the root. -/
def ofParts : List String → String
  | [] => ""
  | [""] => "/"
  | parts => String.intercalate "/" parts

/-! ## Views -/

/-- Whether a path is a single dash, which stands for the standard input. -/
def isDash (path : String) : Bool := dropIdleEnd (parts path) == ["-"]

/-- The folder that a file is in. -/
def parent (path : String) : String := ofParts (dropIdleEnd (dropIdleEnd (parts path)).dropLast)

/-- A path taken from a folder. An absolute path stays as it is. -/
def join (folder path : String) : String :=
  if isAbsolute path ∨ folder = "" then path
  else if folder.toList.getLast? = some '/' then folder ++ path
  else folder ++ "/" ++ path

/-- What follows the last point in the name of a file. A name that begins with its
only point has no extension. -/
def extension? (path : String) : Option String :=
  match (dropIdleEnd (parts path)).getLast? with
  | none => none
  | some name =>
    let name := name.toList.reverse
    match name.dropWhile (· ≠ '.') with
    | '.' :: stem =>
      if stem = [] ∨ stem = ['.'] ∧ name = ['.', '.'] then none
      else some (String.ofList (name.takeWhile (· ≠ '.')).reverse)
    | _ => none

/-- Whether the name of a file has the extension of JSON documents, in any case. -/
def isJson (path : String) : Bool :=
  (extension? path).any fun extension => extension.toList.map Char.toLower == ['j', 's', 'o', 'n']

end CityScript.Path
