import MarkdownWriter.Unicode.Classes

/-!
# Values as text

Messages that show a value of the library write it in one notation: a record as its name with its
fields in braces, a variant with its contents in parentheses, a list in brackets, an optional value
as `Some(…)` or `None`, and texts quoted.

Between its quotes a text has every character that could not be read there written as an escape:
`\0`, `\t`, `\r`, `\n`, the quote and the backslash after a backslash, and all that has no shape of
its own by its code point in hexadecimal.
-/

namespace MarkdownWriter.Text

/-! ## Quoted texts -/

/-- The digits of a number in lower-case hexadecimal. -/
def hexadecimal (n : Nat) : List Char :=
  Nat.toDigits 16 n

/-- A character as it stands between two `quote`s. -/
def quotedChar (quote : Char) (c : Char) : List Char :=
  if c == '\x00' then ['\\', '0']
  else if c == '\t' then ['\\', 't']
  else if c == '\r' then ['\\', 'r']
  else if c == '\n' then ['\\', 'n']
  else if c == quote || c == '\\' then ['\\', c]
  else if Unicode.isGraphemeExtender c || !Unicode.isPrintable c then
    ['\\', 'u', '\x7b'] ++ hexadecimal c.toNat ++ ['\x7d']
  else [c]

/-- A text between double quotes. -/
def quoted (text : List Char) : List Char :=
  '"' :: text.flatMap (quotedChar '"') ++ ['"']

/-- A single character between apostrophes. -/
def quotedLetter (c : Char) : List Char :=
  '\'' :: quotedChar '\'' c ++ ['\'']

/-! ## Records -/

/-- Texts with `separator` between them. -/
def joined (separator : List Char) : List (List Char) → List Char
  | [] => []
  | [item] => item
  | item :: items => item ++ separator ++ joined separator items

/-- A list: `[a, b]`. -/
def listing (items : List (List Char)) : List Char :=
  '[' :: joined [',', ' '] items ++ [']']

/-- A name with something in parentheses: `Some(a)`. -/
def tagged (name : String) (content : List Char) : List Char :=
  name.toList ++ '(' :: content ++ [')']

/-- An optional value: `Some(a)` or `None`. -/
def maybe (item : Option (List Char)) : List Char :=
  match item with
  | some content => tagged "Some" content
  | none => "None".toList

/-- A truth value. -/
def flag (b : Bool) : List Char :=
  if b then "true".toList else "false".toList

/-- A number in decimal. -/
def decimal (n : Nat) : List Char :=
  Nat.toDigits 10 n

/-- A record: its name, and its fields, each with its name, between braces. -/
def record (name : String) (fields : List (String × List Char)) : List Char :=
  name.toList ++ [' ', '\x7b', ' '] ++
    joined [',', ' '] (fields.map fun (field, content) => field.toList ++ [':', ' '] ++ content) ++
      [' ', '\x7d']

/-- A variant that holds one record of the same name. -/
def variant (name : String) (fields : List (String × List Char)) : List Char :=
  tagged name (record name fields)

/-- A quoted string. -/
def quotedString (s : String) : List Char :=
  quoted s.toList

/-- An optional quoted string. -/
def maybeString (s : Option String) : List Char :=
  maybe (s.map quotedString)

end MarkdownWriter.Text
