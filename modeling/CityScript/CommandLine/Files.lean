/-
Reading files.

Commands see files as a function from paths to texts. A file tree held in memory
is one such function; it follows paths part by part as a file system does.
-/
import CityScript.CommandLine.Path

set_option autoImplicit false

namespace CityScript

/-! ## Reading -/

/-- Why a file cannot be read. -/
inductive ReadError where
  | notFound
  | isFolder
  | notFolder
  | nameTooLong
  | nameHasNul
  | noPermission
  | notText
  | other (text : String)
  deriving DecidableEq, Repr, Inhabited

/-- The problem in words. -/
def ReadError.message : ReadError → String
  | .notFound => "No such file or directory (os error 2)"
  | .isFolder => "Is a directory (os error 21)"
  | .notFolder => "Not a directory (os error 20)"
  | .nameTooLong => "File name too long (os error 36)"
  | .nameHasNul => "file name contained an unexpected NUL byte"
  | .noPermission => "Permission denied (os error 13)"
  | .notText => "stream did not contain valid UTF-8"
  | .other text => text

/-- The texts of files by path. -/
abbrev Files := String → Except ReadError String

/-- The text that bytes encode. -/
def decodeText (bytes : ByteArray) : Except ReadError String :=
  match String.fromUTF8? bytes with
  | some text => .ok text
  | none => .error .notText

/-! ## File trees in memory

A place is given by the names on the way to it from the root. -/

/-- Files and folders by their places, and the folder that paths start from. Of
several files at one place the first is the one that is there. -/
structure FileTree where
  files : List (List String × ByteArray)
  folders : List (List String)
  working : List String

namespace FileTree

/-- The place that one part of a path leads to. Above the root is the root. -/
def step (place : List String) (part : String) : List String :=
  if Path.isIdle part then place else if part = ".." then place.dropLast else place ++ [part]

/-- The places that the parts of a path pass, the first one included. -/
def placesAlong (place : List String) : List String → List (List String)
  | [] => [place]
  | part :: rest => place :: placesAlong (step place part) rest

/-- The place where a path starts. -/
def start (t : FileTree) (path : String) : List String :=
  if Path.isAbsolute path then [] else t.working

/-- The folders that every system has below its root. -/
def systemFolders : List String :=
  ["bin", "boot", "dev", "etc", "home", "lib", "media", "mnt", "opt", "proc", "root", "run", "sbin",
    "srv", "sys", "tmp", "usr", "var"]

/-- An empty folder to work in, on a system without any files. -/
def ofWorking (working : List String) : FileTree where
  files := []
  folders := placesAlong [] working ++ systemFolders.map ([·])
  working := working

/-- The place that a path leads to. -/
def place (t : FileTree) (path : String) : List String :=
  (Path.parts path).foldl step (t.start path)

/-- The places on the way to the last part of a path. -/
def placesBefore (t : FileTree) (path : String) : List (List String) :=
  placesAlong (t.start path) (Path.parts path).dropLast

/-- Writes a file, and makes the folders on the way to it. A file that is there
already is replaced. -/
def write (t : FileTree) (path : String) (bytes : ByteArray) : FileTree :=
  { t with
    files := (t.place path, bytes) :: t.files
    folders := t.placesBefore path ++ t.folders }

/-- Writes files in order. -/
def writeMany (t : FileTree) (files : List (String × ByteArray)) : FileTree :=
  files.foldl (fun t (path, bytes) => t.write path bytes) t

/-- The devices that can be read as files: the empty one and the standard input. -/
def devices (stdin : ByteArray) : List (String × ByteArray) :=
  [("/dev/null", .empty), ("/dev/stdin", stdin)]

/-- Follows the parts of a path from a folder. Every part has to lead to a folder
but the last one, which leads to the file. -/
def follow (t : FileTree) (place : List String) : List String → Except ReadError ByteArray
  | [] => .error .isFolder
  | part :: rest =>
    let next := step place part
    if Path.isIdle part ∨ part = ".." then t.follow next rest
    else if 255 < part.utf8ByteSize then .error .nameTooLong
    else
      match t.files.lookup next with
      | some bytes => if rest = [] then .ok bytes else .error .notFolder
      | none => if next ∈ t.folders then t.follow next rest else .error .notFound

/-- Reads the file at a path. -/
def read (t : FileTree) : Files := fun path =>
  if '\x00' ∈ path.toList then .error .nameHasNul
  else if path = "" then .error .notFound
  else if 4096 ≤ path.utf8ByteSize then .error .nameTooLong
  else (t.follow (t.start path) (Path.parts path)).bind decodeText

end FileTree

end CityScript
