/-
JSON documents.

A document keeps its numbers and strings as they are written and its objects as
lists of members, repeated keys included. What a lexeme means is decided by
whoever reads it: a number may be asked for as an integer, and a string as a
text, which fails when an escape in it names half of a surrogate pair.
-/
import CityScript.Text.Quoted
import CityScript.Number.Numeral

set_option autoImplicit false

namespace CityScript

/-- A JSON document. Strings and keys are kept as written between their quotes. -/
inductive Json where
  | null
  | bool (value : Bool)
  | number (lexeme : String)
  | string (lexeme : String)
  | list (items : List Json)
  | object (members : List (String × Json))
  deriving Inhabited

namespace Json

/-! ## Building documents -/

/-- A text as a JSON string. -/
def ofString (s : String) : Json :=
  .string (String.ofList (Text.Quoted.encode s.toList))

/-- An integer as a JSON number. -/
def ofInt (n : Int) : Json := .number (toString n)

/-- A natural number as a JSON number. -/
def ofNat (n : Nat) : Json := .number (toString n)

/-- An optional part, null when it is absent. -/
def ofOption {α : Type} (f : α → Json) : Option α → Json
  | none => .null
  | some a => f a

/-! ## Taking documents apart -/

/-- The code point of four hexadecimal digits. -/
def codeUnit? (a b c d : Char) : Option Nat := do
  let a ← Text.hexValue? a
  let b ← Text.hexValue? b
  let c ← Text.hexValue? c
  let d ← Text.hexValue? d
  return ((a * 16 + b) * 16 + c) * 16 + d

/-- The character that follows a backslash in an escape of one letter. -/
def letterEscape? : Char → Option Char
  | '"' => some '"'
  | '\\' => some '\\'
  | '/' => some '/'
  | 'b' => some '\x08'
  | 'f' => some '\x0C'
  | 'n' => some '\n'
  | 'r' => some '\r'
  | 't' => some '\t'
  | _ => none

/-- The text of a string lexeme. An escaped pair of surrogates is one character,
and half a pair is none. -/
def decodeText? : List Char → Option (List Char)
  | [] => some []
  | '\\' :: 'u' :: a :: b :: c :: d :: rest =>
    match codeUnit? a b c d with
    | none => none
    | some high =>
      if 0xD800 ≤ high ∧ high ≤ 0xDBFF then
        match rest with
        | '\\' :: 'u' :: a :: b :: c :: d :: rest =>
          match codeUnit? a b c d with
          | none => none
          | some low =>
            if 0xDC00 ≤ low ∧ low ≤ 0xDFFF then
              (decodeText? rest).map
                (Char.ofNat (0x10000 + (high - 0xD800) * 0x400 + (low - 0xDC00)) :: ·)
            else none
        | _ => none
      else if 0xDC00 ≤ high ∧ high ≤ 0xDFFF then none
      else (decodeText? rest).map (Char.ofNat high :: ·)
  | '\\' :: e :: rest =>
    match letterEscape? e with
    | none => none
    | some c => (decodeText? rest).map (c :: ·)
  | c :: rest => (decodeText? rest).map (c :: ·)

/-- The text that a lexeme between quotes stands for. -/
def lexemeText? (lexeme : String) : Option String :=
  (decodeText? lexeme.toList).map String.ofList

/-- The text of a string. -/
def text? : Json → Option String
  | .string lexeme => lexemeText? lexeme
  | _ => none

/-- The integer that a number lexeme is. A fraction, a power of ten and a minus
before a zero make it another kind of number. -/
def int? : Json → Option Int
  | .number lexeme => if lexeme = "-0" then none else readInt? lexeme.toList
  | _ => none

/-- The truth value of a document. -/
def bool? : Json → Option Bool
  | .bool b => some b
  | _ => none

/-- The items of a list. -/
def items? : Json → Option (List Json)
  | .list items => some items
  | _ => none

/-- The first member of an object whose key is written in this way. -/
def member? (key : String) : Json → Option Json
  | .object members => (members.find? (·.1 == key)).map (·.2)
  | _ => none

end Json

end CityScript
