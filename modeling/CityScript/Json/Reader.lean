/-
Reading JSON documents.

The reader follows the grammar exactly: no leading zeros, no trailing commas, no
control characters inside strings, only the four blanks of the format between
tokens, and nothing but blanks after the document. Nesting is not limited.

Every step of the reader consumes a character before it reads a nested document,
so the length of the text is enough fuel.
-/
import CityScript.Json.Basic

set_option autoImplicit false

namespace CityScript.Json

/-! ## Tokens -/

/-- The blanks of the format. -/
def isSpace (c : Char) : Bool :=
  c == ' ' || c == '\n' || c == '\t' || c == '\r'

/-- Drops blanks in front. -/
def skipSpace (cs : List Char) : List Char :=
  cs.dropWhile isSpace

/-- The lexeme of a string up to its closing quote, and what follows. The opening
quote is already read. -/
def readLexeme? : List Char → Option (List Char × List Char)
  | [] => none
  | '"' :: rest => some ([], rest)
  | '\\' :: 'u' :: a :: b :: c :: d :: rest =>
    if (codeUnit? a b c d).isSome then
      (readLexeme? rest).map fun (body, after) => ('\\' :: 'u' :: a :: b :: c :: d :: body, after)
    else none
  | '\\' :: e :: rest =>
    if (letterEscape? e).isSome then
      (readLexeme? rest).map fun (body, after) => ('\\' :: e :: body, after)
    else none
  | c :: rest =>
    if c.toNat < 0x20 ∨ c = '\\' then none
    else (readLexeme? rest).map fun (body, after) => (c :: body, after)

/-- A run of at least one digit, and what follows. -/
def readDigits? (cs : List Char) : Option (List Char × List Char) :=
  match cs.takeWhile Char.isDigit with
  | [] => none
  | digits => some (digits, cs.dropWhile Char.isDigit)

/-- The whole part of a number: a zero alone, or digits that do not begin with one. -/
def readWhole? (cs : List Char) : Option (List Char × List Char) :=
  match readDigits? cs with
  | some ('0' :: _ :: _, _) => none
  | found => found

/-- The fraction of a number with its point, empty when there is none. -/
def readFraction? : List Char → Option (List Char × List Char)
  | '.' :: rest => (readDigits? rest).map fun (digits, after) => ('.' :: digits, after)
  | cs => some ([], cs)

/-- The power of ten of a number with its letter, empty when there is none. -/
def readPower? : List Char → Option (List Char × List Char)
  | 'e' :: rest => afterLetter 'e' rest
  | 'E' :: rest => afterLetter 'E' rest
  | cs => some ([], cs)
where
  /-- The sign and the digits after the letter. -/
  afterLetter (letter : Char) : List Char → Option (List Char × List Char)
    | '+' :: rest => (readDigits? rest).map fun (digits, after) => (letter :: '+' :: digits, after)
    | '-' :: rest => (readDigits? rest).map fun (digits, after) => (letter :: '-' :: digits, after)
    | rest => (readDigits? rest).map fun (digits, after) => (letter :: digits, after)

/-- The lexeme of a number, and what follows. -/
def readNumberLexeme? (cs : List Char) : Option (List Char × List Char) := do
  let (sign, cs) := match cs with
    | '-' :: rest => (['-'], rest)
    | cs => ([], cs)
  let (whole, cs) ← readWhole? cs
  let (fraction, cs) ← readFraction? cs
  let (power, cs) ← readPower? cs
  return (sign ++ whole ++ fraction ++ power, cs)

/-! ## Documents -/

mutual

/-- A document at the start of a text without blanks in front, and what follows it. -/
def readValue? : Nat → List Char → Option (Json × List Char)
  | 0, _ => none
  | fuel + 1, cs =>
    match cs with
    | 'n' :: 'u' :: 'l' :: 'l' :: rest => some (.null, rest)
    | 't' :: 'r' :: 'u' :: 'e' :: rest => some (.bool true, rest)
    | 'f' :: 'a' :: 'l' :: 's' :: 'e' :: rest => some (.bool false, rest)
    | '"' :: rest =>
      (readLexeme? rest).map fun (body, after) => (.string (String.ofList body), after)
    | '[' :: rest =>
      match skipSpace rest with
      | ']' :: after => some (.list [], after)
      | rest => (readItems? fuel rest).map fun (items, after) => (.list items, after)
    | '\x7b' :: rest =>
      match skipSpace rest with
      | '\x7d' :: after => some (.object [], after)
      | rest => (readMembers? fuel rest).map fun (members, after) => (.object members, after)
    | cs =>
      (readNumberLexeme? cs).map fun (lexeme, after) => (.number (String.ofList lexeme), after)

/-- The items of a list up to its closing bracket; there is at least one. -/
def readItems? : Nat → List Char → Option (List Json × List Char)
  | 0, _ => none
  | fuel + 1, cs =>
    match readValue? fuel cs with
    | none => none
    | some (item, rest) =>
      match skipSpace rest with
      | ']' :: after => some ([item], after)
      | ',' :: rest =>
        (readItems? fuel (skipSpace rest)).map fun (items, after) => (item :: items, after)
      | _ => none

/-- The members of an object up to its closing brace; there is at least one. -/
def readMembers? : Nat → List Char → Option (List (String × Json) × List Char)
  | 0, _ => none
  | fuel + 1, cs =>
    match cs with
    | '"' :: rest =>
      match readLexeme? rest with
      | none => none
      | some (key, rest) =>
        match skipSpace rest with
        | ':' :: rest =>
          match readValue? fuel (skipSpace rest) with
          | none => none
          | some (value, rest) =>
            match skipSpace rest with
            | '\x7d' :: after => some ([(String.ofList key, value)], after)
            | ',' :: rest =>
              (readMembers? fuel (skipSpace rest)).map fun (members, after) =>
                ((String.ofList key, value) :: members, after)
            | _ => none
        | _ => none
    | _ => none

end

/-- Reads a text as one document, all of it or not at all. -/
def read? (text : String) : Option Json :=
  let cs := text.toList
  match readValue? (cs.length + 1) (skipSpace cs) with
  | some (document, rest) => if skipSpace rest = [] then some document else none
  | none => none

end CityScript.Json
