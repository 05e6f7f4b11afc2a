import MarkdownWriter.Text.Character
import MarkdownWriter.Toml.Basic

/-!
# Reading TOML

The reader covers tables, dotted and quoted keys, strings of all four kinds, booleans, integers,
floats, arrays, inline tables and comments. Dates and arrays of tables are refused.

Each reader takes the rest of the text and gives what it read with what is left. A repetition stops
unless the text gets shorter, and values that contain values are read with a bound on how deep they
can nest.
-/

namespace MarkdownWriter.Toml

open Text

/-- Reads something at the front of a text and gives it with the rest. -/
abbrev Reader (α : Type) := List Char → Option (α × List Char)

/-! ## Space -/

/-- The rest of a text after spaces and tabs. -/
def skipSpaces (text : List Char) : List Char :=
  text.dropWhile fun c => c == ' ' || c == '\t'

/-- Whether a character can stand in a comment or a literal string. -/
def isTextual (c : Char) : Bool :=
  c == '\t' || !isControl c

/-- The rest of a text after a comment, if one stands there. -/
def skipComment : List Char → List Char
  | '#' :: text => text.dropWhile isTextual
  | text => text

/-- The rest of a text after a line ending. -/
def readLineEnding : List Char → Option (List Char)
  | '\r' :: '\n' :: text => some text
  | '\n' :: text => some text
  | _ => none

/-- The rest of a text after the end of a line, before which only spaces and a comment may stand. -/
def readLineEnd (text : List Char) : Option (List Char) :=
  match skipComment (skipSpaces text) with
  | [] => some []
  | rest => readLineEnding rest

/-- The rest of a text after blank lines, comments and spaces. -/
def skipLines (text : List Char) : List Char :=
  match readLineEnding (skipComment (skipSpaces text)) with
  | some rest => if rest.length < text.length then skipLines rest else rest
  | none => skipComment (skipSpaces text)
termination_by text.length

/-! ## Strings -/

/-- The character with a hexadecimal number, if there is one. -/
def scalar (digits : List Char) : Option Char :=
  if digits.all isHexDigit then
    let n := numeralValue 16 digits
    if n.isValidChar then some (Char.ofNat n) else none
  else none

/-- The character a letter after a backslash stands for. -/
def shortEscape (c : Char) : Option Char :=
  [('b', '\x08'), ('t', '\t'), ('n', '\n'), ('f', '\x0c'), ('r', '\r'), ('"', '"'),
    ('\\', '\\')].lookup c

/-- A string up to its closing quote. -/
def readBasic : Reader (List Char)
  | [] => none
  | '"' :: text => some ([], text)
  | '\\' :: 'u' :: a :: b :: c :: d :: text => do
      let char ← scalar [a, b, c, d]
      let (rest, text) ← readBasic text
      return (char :: rest, text)
  | '\\' :: 'U' :: a :: b :: c :: d :: e :: f :: g :: h :: text => do
      let char ← scalar [a, b, c, d, e, f, g, h]
      let (rest, text) ← readBasic text
      return (char :: rest, text)
  | '\\' :: c :: text => do
      let char ← shortEscape c
      let (rest, text) ← readBasic text
      return (char :: rest, text)
  | c :: text => do
      if isTextual c then
        let (rest, text) ← readBasic text
        return (c :: rest, text)
      else none

/-- A literal string up to its closing quote. -/
def readLiteral (text : List Char) : Option (List Char × List Char) :=
  match text.dropWhile fun c => isTextual c && c != '\'' with
  | '\'' :: rest => some (text.takeWhile fun c => isTextual c && c != '\'', rest)
  | _ => none

/-- A text without the line ending it begins with, if it does. -/
def skipFirstLineEnding (text : List Char) : List Char :=
  (readLineEnding text).getD text

/-- Where a string that spans lines ends: at three quotes, before which up to two more belong to the
string. -/
def readClosing (quote : Char) (text : List Char) : Option (List Char × List Char) :=
  let count := (text.takeWhile (· == quote)).length
  if 3 ≤ count then
    let own := min (count - 3) 2
    some (List.replicate own quote, text.drop (own + 3))
  else none

/-- A string that spans lines, up to its closing quotes. A backslash at the end of a line removes
the blanks and line endings up to the next text (`skipping`). -/
def readMultiBasic (skipping : Bool) : Reader (List Char)
  | [] => none
  | c :: text =>
      if skipping && (c == ' ' || c == '\t' || c == '\n' || c == '\r') then readMultiBasic true text
      else if c == '"' then
        match readClosing '"' (c :: text) with
        | some closing => some closing
        | none => (readMultiBasic false text).map fun (rest, text) => (c :: rest, text)
      else if c == '\\' then
        match text with
        | 'u' :: h :: i :: j :: k :: text => do
            let char ← scalar [h, i, j, k]
            let (rest, text) ← readMultiBasic false text
            return (char :: rest, text)
        | 'U' :: h :: i :: j :: k :: l :: m :: n :: o :: text => do
            let char ← scalar [h, i, j, k, l, m, n, o]
            let (rest, text) ← readMultiBasic false text
            return (char :: rest, text)
        | d :: text =>
            if d == ' ' || d == '\t' || d == '\n' || d == '\r' then
              match readLineEnding (skipSpaces (d :: text)) with
              | some _ => readMultiBasic true text
              | none => none
            else do
              let char ← shortEscape d
              let (rest, text) ← readMultiBasic false text
              return (char :: rest, text)
        | [] => none
      else if isTextual c || c == '\n' || (c == '\r' && text.head? == some '\n') then
        (readMultiBasic false text).map fun (rest, text) => (c :: rest, text)
      else none

/-- A literal string that spans lines, up to its closing quotes. -/
def readMultiLiteral : Reader (List Char)
  | [] => none
  | c :: text =>
      if c == '\'' then
        match readClosing '\'' (c :: text) with
        | some closing => some closing
        | none => (readMultiLiteral text).map fun (rest, text) => (c :: rest, text)
      else if isTextual c || c == '\n' || (c == '\r' && text.head? == some '\n') then
        (readMultiLiteral text).map fun (rest, text) => (c :: rest, text)
      else none

/-- A string of any kind. -/
def readString : Reader (List Char)
  | '"' :: '"' :: '"' :: text => readMultiBasic false (skipFirstLineEnding text)
  | '"' :: text => readBasic text
  | '\'' :: '\'' :: '\'' :: text => readMultiLiteral (skipFirstLineEnding text)
  | '\'' :: text => readLiteral text
  | _ => none

/-! ## Keys -/

/-- Whether a character can stand in a bare key. -/
def isBareKey (c : Char) : Bool :=
  isLetter c || isDigit c || c == '_' || c == '-'

/-- A single key. -/
def readKey : Reader String
  | '"' :: text => (readBasic text).map fun (key, rest) => (String.ofList key, rest)
  | '\'' :: text => (readLiteral text).map fun (key, rest) => (String.ofList key, rest)
  | text =>
      let key := text.takeWhile isBareKey
      if key.isEmpty then none else some (String.ofList key, text.dropWhile isBareKey)

/-- A key with dots between its parts. -/
def readPath (text : List Char) : Option (List String × List Char) :=
  match readKey text with
  | none => none
  | some (key, rest) =>
      match skipSpaces rest with
      | '.' :: more =>
          let more := skipSpaces more
          if more.length < text.length then
            (readPath more).map fun (path, rest) => (key :: path, rest)
          else none
      | _ => some ([key], rest)
termination_by text.length

/-! ## Numbers -/

/-- The digits of a numeral with single underscores between them, without those. -/
def plainDigits (accepts : Char → Bool) (text : List Char) : Option (List Char) :=
  let digits := text.filter (· != '_')
  let apart := text.head? != some '_' && text.getLast? != some '_' &&
    !(text.zip (text.drop 1)).contains ('_', '_')
  if apart && !digits.isEmpty && digits.all accepts then some digits else none

/-- A decimal numeral without sign; it does not begin with a zero it could do without. -/
def decimalDigits (text : List Char) : Option (List Char) := do
  let digits ← plainDigits isDigit text
  if digits.head? == some '0' && digits.length != 1 then none else some digits

/-- Whether an integer fits into 64 bits. -/
def inRange (n : Int) : Bool :=
  -0x8000000000000000 ≤ n && n < 0x8000000000000000

/-- The sign of a number, if it has one, and what follows. -/
def splitSign : List Char → Int × List Char
  | '-' :: text => (-1, text)
  | '+' :: text => (1, text)
  | text => (1, text)

/-- An integer. -/
def integerOf (text : List Char) : Option Int :=
  let value : Option Int :=
    match text with
    | '0' :: 'x' :: digits =>
        (plainDigits isHexDigit digits).map fun ds => (numeralValue 16 ds : Int)
    | '0' :: 'o' :: digits =>
        (plainDigits (fun c => '0' ≤ c && c ≤ '7') digits).map fun ds => (numeralValue 8 ds : Int)
    | '0' :: 'b' :: digits =>
        (plainDigits (fun c => c == '0' || c == '1') digits).map fun ds => (numeralValue 2 ds : Int)
    | _ =>
        (decimalDigits (splitSign text).2).map fun ds =>
          (splitSign text).1 * (numeralValue 10 ds : Int)
  value.filter inRange

/-- Whether a text is the exponent of a float. -/
def isExponent (text : List Char) : Bool :=
  (plainDigits isDigit (splitSign text).2).isSome

/-- Whether a text is a float. -/
def isFloat (text : List Char) : Bool :=
  let unsigned := (splitSign text).2
  let isExponentMark (c : Char) : Bool := c == 'e' || c == 'E'
  let mantissa := unsigned.takeWhile (!isExponentMark ·)
  let exponent := unsigned.dropWhile (!isExponentMark ·)
  let whole := mantissa.takeWhile (· != '.')
  let fraction := mantissa.dropWhile (· != '.')
  unsigned == "inf".toList || unsigned == "nan".toList ||
    ((decimalDigits whole).isSome && (fraction.isEmpty ||
      (plainDigits isDigit (fraction.drop 1)).isSome) &&
      (exponent.isEmpty || isExponent (exponent.drop 1)) && !(fraction.isEmpty && exponent.isEmpty))

/-- A boolean or a number. -/
def readWord (text : List Char) : Option (Value × List Char) :=
  let isWordChar (c : Char) : Bool :=
    isLetter c || isDigit c || ['+', '-', '.', '_', ':'].contains c
  let word := text.takeWhile isWordChar
  let rest := text.dropWhile isWordChar
  if word == "true".toList then some (.boolean true, rest)
  else if word == "false".toList then some (.boolean false, rest)
  else
    match integerOf word with
    | some n => some (.integer n, rest)
    | none => if isFloat word then some (.float (String.ofList word), rest) else none

/-! ## Values -/

mutual

/-- A value in which values nest less deep than `fuel`. -/
def readValue : Nat → Reader Value
  | 0, _ => none
  | fuel + 1, text =>
      match text with
      | '[' :: rest => (readItems fuel rest).map fun (items, rest) => (.array items, rest)
      | '\x7b' :: rest => do
          let (pairs, rest) ← readPairs fuel true rest
          let entries ← pairs.foldlM (fun entries (path, value) =>
            Entries.assign value path entries) []
          return (.table .inline entries, rest)
      | _ =>
          match readString text with
          | some (value, rest) => some (.string (String.ofList value), rest)
          | none =>
              if text.head? == some '"' || text.head? == some '\'' then none else readWord text

/-- The items of an array up to its closing bracket. -/
def readItems : Nat → Reader (List Value)
  | 0, _ => none
  | fuel + 1, text =>
      match skipLines text with
      | ']' :: rest => some ([], rest)
      | text => do
          let (item, rest) ← readValue fuel text
          match skipLines rest with
          | ',' :: rest =>
              let (items, rest) ← readItems fuel rest
              return (item :: items, rest)
          | ']' :: rest => return ([item], rest)
          | _ => none

/-- The assignments of an inline table up to its closing brace. Only the first (`first`) may be
missing. -/
def readPairs : Nat → Bool → Reader (List (List String × Value))
  | 0, _, _ => none
  | fuel + 1, first, text =>
      match skipSpaces text with
      | '\x7d' :: rest => if first then some ([], rest) else none
      | text => do
          let (path, rest) ← readPath text
          match skipSpaces rest with
          | '=' :: rest =>
              let (value, rest) ← readValue fuel (skipSpaces rest)
              match skipSpaces rest with
              | ',' :: rest =>
                  let (pairs, rest) ← readPairs fuel false rest
                  return ((path, value) :: pairs, rest)
              | '\x7d' :: rest => return ([(path, value)], rest)
              | _ => none
          | _ => none

end

/-! ## Documents -/

/-- A header without its opening bracket. -/
def readHeader (text : List Char) : Option (Statement × List Char) := do
  let (path, rest) ← readPath (skipSpaces text)
  match skipSpaces rest with
  | ']' :: rest => return (.header path, rest)
  | _ => none

/-- An assignment. -/
def readAssignment (text : List Char) : Option (Statement × List Char) := do
  let (path, rest) ← readPath text
  match skipSpaces rest with
  | '=' :: rest =>
      let (value, rest) ← readValue (2 * text.length) (skipSpaces rest)
      return (.assign path value, rest)
  | _ => none

/-- A statement, which ends with its line. -/
def readStatement (text : List Char) : Option (Statement × List Char) := do
  let (statement, rest) ← match text with
    | '[' :: rest => readHeader rest
    | _ => readAssignment text
  return (statement, ← readLineEnd rest)

/-- The statements of a text. -/
def readStatements (text : List Char) : Option (List Statement) :=
  match skipLines text with
  | [] => some []
  | start =>
      match readStatement start with
      | none => none
      | some (statement, rest) =>
          if rest.length < text.length then (readStatements rest).map (statement :: ·) else none
termination_by text.length

/-- The document a text holds. -/
def read (text : List Char) : Option Entries := do
  Entries.ofStatements (← readStatements text)

end MarkdownWriter.Toml
