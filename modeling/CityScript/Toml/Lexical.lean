/-
The tokens of TOML: blanks and comments, keys, strings, numbers and dates.

Every reader takes the characters from where it stands and gives what it has
read together with the characters that follow, or nothing if the text is not
well formed there.
-/
import CityScript.Json.Basic
import CityScript.Number.Word
import CityScript.Toml.Basic

set_option autoImplicit false

namespace CityScript.Toml

/-! ## Blanks, line ends and comments -/

/-- Blanks within a line. -/
def isSpace (c : Char) : Bool := c == ' ' || c == '\t'

/-- Drops blanks within the line. -/
def skipSpace (cs : List Char) : List Char := cs.dropWhile isSpace

/-- What follows a line end: a line feed, or a carriage return and a line feed. -/
def newline? : List Char → Option (List Char)
  | '\n' :: rest => some rest
  | '\r' :: '\n' :: rest => some rest
  | _ => none

/-- What may stand in a comment: all but control characters other than the tab. -/
def isCommentChar (c : Char) : Bool := c == '\t' || (0x20 ≤ c.toNat && c.toNat != 0x7F)

/-- Drops a comment up to the end of its line. -/
def skipComment : List Char → List Char
  | '#' :: rest => rest.dropWhile isCommentChar
  | cs => cs

/-- What follows the end of a line, which may hold blanks and a comment before it.
The end of the text ends a line too. -/
def lineEnd? (cs : List Char) : Option (List Char) :=
  match skipComment (skipSpace cs) with
  | [] => some []
  | rest => newline? rest

/-- Drops blanks and line ends. -/
def skipBlankLines : List Char → List Char
  | '\n' :: rest => skipBlankLines rest
  | '\r' :: '\n' :: rest => skipBlankLines rest
  | c :: rest => if isSpace c then skipBlankLines rest else c :: rest
  | [] => []

/-- Drops blanks, line ends and comments; true stands for the inside of a comment. -/
def skipFiller : Bool → List Char → List Char
  | _, '\n' :: rest => skipFiller false rest
  | _, '\r' :: '\n' :: rest => skipFiller false rest
  | true, c :: rest => if isCommentChar c then skipFiller true rest else c :: rest
  | false, c :: rest =>
    if isSpace c then skipFiller false rest
    else if c = '#' then skipFiller true rest
    else c :: rest
  | _, [] => []

/-! ## Strings -/

/-- The character of a code point in hexadecimal digits, if it is one. -/
def charOfHex? (digits : List Char) : Option Char := do
  let code ← digits.foldlM (fun n d => (Text.hexValue? d).map (16 * n + ·)) 0
  if code < 0xD800 ∨ (0xDFFF < code ∧ code < 0x110000) then some (Char.ofNat code) else none

/-- The character that an escape stands for. The backslash is already read. -/
def readEscape? : List Char → Option (Char × List Char)
  | 'b' :: rest => some ('\x08', rest)
  | 't' :: rest => some ('\t', rest)
  | 'n' :: rest => some ('\n', rest)
  | 'f' :: rest => some ('\x0C', rest)
  | 'r' :: rest => some ('\r', rest)
  | '"' :: rest => some ('"', rest)
  | '\\' :: rest => some ('\\', rest)
  | 'u' :: rest => ofDigits? 4 rest
  | 'U' :: rest => ofDigits? 8 rest
  | _ => none
where
  /-- The character of so many hexadecimal digits. -/
  ofDigits? (count : Nat) (cs : List Char) : Option (Char × List Char) :=
    if cs.length < count then none
    else (charOfHex? (cs.take count)).map fun c => (c, cs.drop count)

/-- What may stand in a string on one line besides its own quote and, where there
are escapes, the backslash. -/
def isStringChar (c : Char) : Bool := isCommentChar c

/-- A string with escapes on one line. The opening quote is already read. -/
def readBasic? : Nat → List Char → Option (List Char × List Char)
  | 0, _ => none
  | _, [] => none
  | _, '"' :: rest => some ([], rest)
  | fuel + 1, '\\' :: rest => do
    let (c, rest) ← readEscape? rest
    let (text, after) ← readBasic? fuel rest
    return (c :: text, after)
  | fuel + 1, c :: rest =>
    if isStringChar c then (readBasic? fuel rest).map fun (text, after) => (c :: text, after)
    else none

/-- A string without escapes on one line. The opening quote is already read. -/
def readLiteral? : List Char → Option (List Char × List Char)
  | [] => none
  | '\x27' :: rest => some ([], rest)
  | c :: rest =>
    if isStringChar c then (readLiteral? rest).map fun (text, after) => (c :: text, after)
    else none

/-- What follows the quotes that close a string over several lines, together with
how many quotes before them belong to the string, two at most. -/
def closing? (quote : Char) (cs : List Char) : Option (List Char × List Char) :=
  let count := (cs.takeWhile (· = quote)).length
  if count < 3 then none
  else
    let extra := min (count - 3) 2
    some (List.replicate extra quote, cs.drop (extra + 3))

/-- A string over several lines, with escapes or without. The opening quotes are
already read. A carriage return before a line feed is dropped, and a backslash
at the end of a line drops the line end and all blanks after it. -/
def readMultiline? (quote : Char) (escapes : Bool) : Nat → List Char →
    Option (List Char × List Char)
  | 0, _ => none
  | fuel + 1, cs =>
    match closing? quote cs with
    | some found => some found
    | none =>
      match cs with
      | [] => none
      | '\n' :: rest => (readMultiline? quote escapes fuel rest).map (push '\n')
      | '\r' :: '\n' :: rest => (readMultiline? quote escapes fuel rest).map (push '\n')
      | c :: rest =>
        if escapes ∧ c = '\\' then
          match newline? (skipSpace rest) with
          | some rest => readMultiline? quote escapes fuel (skipBlankLines rest)
          | none => do
            let (c, rest) ← readEscape? rest
            (readMultiline? quote escapes fuel rest).map (push c)
        else if isStringChar c then (readMultiline? quote escapes fuel rest).map (push c)
        else none
where
  /-- Puts a character in front of the text of a string. -/
  push (c : Char) (found : List Char × List Char) : List Char × List Char :=
    (c :: found.1, found.2)

/-- Drops the line end right after the opening quotes of a string over several lines. -/
def skipFirstNewline (cs : List Char) : List Char := (newline? cs).getD cs

/-- A string of any of the four forms. -/
def readString? : List Char → Option (List Char × List Char)
  | '"' :: '"' :: '"' :: rest =>
    readMultiline? '"' true (rest.length + 1) (skipFirstNewline rest)
  | '\x27' :: '\x27' :: '\x27' :: rest =>
    readMultiline? '\x27' false (rest.length + 1) (skipFirstNewline rest)
  | '"' :: rest => readBasic? (rest.length + 1) rest
  | '\x27' :: rest => readLiteral? rest
  | _ => none

/-! ## Keys -/

/-- What a key without quotes is made of. -/
def isBareKeyChar (c : Char) : Bool := c.isAlphanum || c == '_' || c == '-'

/-- One part of a key. -/
def readKeyPart? : List Char → Option (List Char × List Char)
  | '"' :: rest => readBasic? (rest.length + 1) rest
  | '\x27' :: rest => readLiteral? rest
  | cs =>
    match cs.takeWhile isBareKeyChar with
    | [] => none
    | part => some (part, cs.dropWhile isBareKeyChar)

/-- The greatest number of parts of a key, and of values inside one another. -/
def depthLimit : Nat := 79

/-- A key: parts joined by points, with blanks around each part. -/
def readKey? : Nat → List Char → Option (List String × List Char)
  | 0, _ => none
  | fuel + 1, cs => do
    let (part, rest) ← readKeyPart? (skipSpace cs)
    let part := String.ofList part
    match skipSpace rest with
    | '.' :: rest =>
      let (parts, after) ← readKey? fuel rest
      return (part :: parts, after)
    | after => return ([part], after)

/-! ## Numbers -/

/-- The rest of a run of digits, in which single underscores may stand between two
digits. -/
def readDigitRun? (isDigit : Char → Bool) : List Char → Option (List Char × List Char)
  | '_' :: d :: rest =>
    if isDigit d then (readDigitRun? isDigit rest).map fun (digits, after) => (d :: digits, after)
    else none
  | ['_'] => none
  | d :: rest =>
    if isDigit d then (readDigitRun? isDigit rest).map fun (digits, after) => (d :: digits, after)
    else some ([], d :: rest)
  | [] => some ([], [])

/-- A run of digits that is not empty. -/
def readDigits? (isDigit : Char → Bool) : List Char → Option (List Char × List Char)
  | [] => none
  | d :: rest =>
    if isDigit d then (readDigitRun? isDigit rest).map fun (digits, after) => (d :: digits, after)
    else none

/-- An integer in another base than ten. -/
def readInBase? (base : Nat) (cs : List Char) : Option (Toml × List Char) := do
  let isDigit (c : Char) : Bool := (Text.hexValue? c).any (· < base)
  let (digits, rest) ← readDigits? isDigit cs
  let n : Nat := digits.foldl (fun n d => base * n + (Text.hexValue? d).getD 0) 0
  if n ≤ maxInt64 then some (.integer n, rest) else none

/-- The whole part of a decimal number. A zero in front stands alone. -/
def readWhole? : List Char → Option (List Char × List Char)
  | '0' :: rest => some (['0'], rest)
  | cs => readDigits? Char.isDigit cs

/-- The fraction of a decimal number with its point, if there is one. -/
def readFraction? : List Char → Option (List Char × List Char)
  | '.' :: rest =>
    (readDigits? Char.isDigit rest).map fun (digits, after) => ('.' :: digits, after)
  | rest => some ([], rest)

/-- The sign of a power of ten, if there is one. -/
def splitPowerSign : List Char → List Char × List Char
  | '+' :: rest => (['+'], rest)
  | '-' :: rest => (['-'], rest)
  | rest => ([], rest)

/-- The power of ten of a decimal number, if there is one. -/
def readPower? : List Char → Option (List Char × List Char)
  | c :: rest =>
    if c = 'e' ∨ c = 'E' then
      let (sign, digits) := splitPowerSign rest
      (readDigits? Char.isDigit digits).map fun (digits, after) => ('e' :: sign ++ digits, after)
    else some ([], c :: rest)
  | [] => some ([], [])

/-- The number that the parts of a decimal one stand for. Integers fit 64 bits; what
has a fraction or a power of ten must not overflow upwards. -/
def decimalValue? (negative : Bool) (whole fraction power : List Char) : Option Toml :=
  if fraction = [] ∧ power = [] then
    let n : Int := if negative then -(natOfDigits whole : Int) else natOfDigits whole
    if minInt64 ≤ n ∧ n ≤ maxInt64 then some (.integer n) else none
  else
    (Numeral.read? (whole ++ fraction ++ power)).bind fun numeral =>
      if numeral.toBinary64.isFinite ∨ negative then some .float else none

/-- A decimal number after its sign. -/
def readDecimal? (negative : Bool) (cs : List Char) : Option (Toml × List Char) := do
  let (whole, rest) ← readWhole? cs
  let (fraction, rest) ← readFraction? rest
  let (power, rest) ← readPower? rest
  (decimalValue? negative whole fraction power).map fun value => (value, rest)

/-- A number other than an integer in another base than ten. -/
def readSigned? (cs : List Char) : Option (Toml × List Char) :=
  let (negative, rest) := splitSign cs
  match rest with
  | 'i' :: 'n' :: 'f' :: rest => some (.float, rest)
  | 'n' :: 'a' :: 'n' :: rest => some (.float, rest)
  | rest => readDecimal? negative rest

/-! ## Dates and times -/

/-- A number of exactly so many digits, within bounds. -/
def readField? (count low high : Nat) (cs : List Char) : Option (Nat × List Char) :=
  let digits := cs.take count
  let n := natOfDigits digits
  if digits.length = count ∧ digits.all Char.isDigit ∧ low ≤ n ∧ n ≤ high then
    some (n, cs.drop count)
  else none

/-- What follows a given character. -/
def after? (c : Char) : List Char → Option (List Char)
  | d :: rest => if d = c then some rest else none
  | [] => none

/-- How many days a month has. -/
def daysInMonth (year month : Nat) : Nat :=
  if month = 2 then
    if year % 4 = 0 ∧ (year % 100 ≠ 0 ∨ year % 400 = 0) then 29 else 28
  else if month = 4 ∨ month = 6 ∨ month = 9 ∨ month = 11 then 30
  else 31

/-- What follows a time of day. -/
def afterTime? (cs : List Char) : Option (List Char) := do
  let (_, rest) ← readField? 2 0 23 cs
  let (_, rest) ← readField? 2 0 59 (← after? ':' rest)
  let (_, rest) ← readField? 2 0 60 (← after? ':' rest)
  match rest with
  | '.' :: rest =>
    if rest.takeWhile Char.isDigit = [] then none else some (rest.dropWhile Char.isDigit)
  | rest => some rest

/-- What follows the distance to universal time, which may be missing. -/
def afterOffset? : List Char → Option (List Char)
  | 'Z' :: rest => some rest
  | 'z' :: rest => some rest
  | c :: rest =>
    if c = '+' ∨ c = '-' then do
      let (_, rest) ← readField? 2 0 23 rest
      let (_, rest) ← readField? 2 0 59 (← after? ':' rest)
      some rest
    else some (c :: rest)
  | [] => some []

/-- What follows a date, with the time after it if there is one. -/
def afterDate? (cs : List Char) : Option (List Char) := do
  let (year, rest) ← readField? 4 0 9999 cs
  let (month, rest) ← readField? 2 1 12 (← after? '-' rest)
  let (_, rest) ← readField? 2 1 (daysInMonth year month) (← after? '-' rest)
  match rest with
  | c :: hour :: time =>
    if (c = 'T' ∨ c = 't' ∨ c = ' ') ∧ hour.isDigit then
      afterOffset? (← afterTime? (hour :: time))
    else some rest
  | rest => some rest

/-- Whether a text begins with so many digits and then a given character. -/
def startsField (count : Nat) (c : Char) (cs : List Char) : Bool :=
  (cs.take count).length == count && (cs.take count).all Char.isDigit && cs[count]? == some c

/-- A number, a date or a time. -/
def readNumber? (cs : List Char) : Option (Toml × List Char) :=
  if startsField 4 '-' cs then (afterDate? cs).map fun rest => (.date, rest)
  else if startsField 2 ':' cs then (afterTime? cs).map fun rest => (.date, rest)
  else match cs with
    | '0' :: 'x' :: rest => readInBase? 16 rest
    | '0' :: 'o' :: rest => readInBase? 8 rest
    | '0' :: 'b' :: rest => readInBase? 2 rest
    | cs => readSigned? cs

end CityScript.Toml
