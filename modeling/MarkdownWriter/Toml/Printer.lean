import MarkdownWriter.Text.Record
import MarkdownWriter.Toml.Reader

/-!
# Writing TOML

Strings are written in the simplest of the four kinds that can hold them: between quotes if nothing
in them has to be escaped, else between apostrophes, else over several lines, and only then with
escapes.
-/

namespace MarkdownWriter.Toml

open Text

/-! ## Strings -/

/-- Whether a string holds a control character that only an escape can write. -/
def needsCode (text : List Char) : Bool :=
  text.any fun c => isControl c && c != '\t' && c != '\n'

/-- The code point of a character in four hexadecimal digits. -/
def fourDigits (c : Char) : List Char :=
  let digits := (hexadecimal c.toNat).map Char.toUpper
  List.replicate (4 - digits.length) '0' ++ digits

/-- A character between quotes; over several lines, a line feed stands for itself. -/
def basicChar (multiline : Bool) (c : Char) : List Char :=
  if c == '\n' && multiline then [c]
  else
    match [('\x08', 'b'), ('\t', 't'), ('\n', 'n'), ('\x0c', 'f'), ('\r', 'r'), ('"', '"'),
      ('\\', '\\')].lookup c with
    | some letter => ['\\', letter]
    | none => if isControl c then '\\' :: 'u' :: fourDigits c else [c]

/-- A string between quotes. -/
def basicString (text : List Char) : List Char :=
  '"' :: text.flatMap (basicChar false) ++ ['"']

/-- A string between apostrophes. -/
def literalString (text : List Char) : List Char :=
  '\'' :: text ++ ['\'']

/-- A string over several lines, between three quotes. -/
def multilineString (text : List Char) : List Char :=
  ['"', '"', '"', '\n'] ++ text.flatMap (basicChar true) ++ ['"', '"', '"']

/-- A string. -/
def writeString (text : List Char) : List Char :=
  let coded := needsCode text
  let spansLines := text.contains '\n'
  if !coded && !spansLines && !text.contains '"' && !text.contains '\\' then basicString text
  else if !coded && !spansLines && !text.contains '\'' then literalString text
  else if spansLines then multilineString text
  else basicString text

/-! ## Documents -/

/-- A key, in quotes if it has to be. -/
def writeKey (key : String) : List Char :=
  if key.isEmpty || !key.toList.all isBareKey then basicString key.toList else key.toList

mutual

/-- A value, on one line unless a string in it spans lines. -/
def writeValue : Value → List Char
  | .string text => writeString text.toList
  | .boolean b => flag b
  | .integer n => (if n < 0 then ['-'] else []) ++ decimal n.natAbs
  | .float text => text.toList
  | .array items => '[' :: joined [',', ' '] (writeItems items) ++ [']']
  | .table _ entries => ['\x7b', ' '] ++ joined [',', ' '] (writeEntries entries) ++ [' ', '\x7d']

/-- The items of an array. -/
def writeItems : List Value → List (List Char)
  | [] => []
  | item :: items => writeValue item :: writeItems items

/-- The assignments of a table. -/
def writeEntries : List (String × Value) → List (List Char)
  | [] => []
  | (key, value) :: entries =>
      (writeKey key ++ [' ', '=', ' '] ++ writeValue value) :: writeEntries entries

end

/-- A table under a header, one assignment after the other. -/
def writeTable (name : String) (entries : Entries) : List Char :=
  '[' :: writeKey name ++ [']', '\n'] ++ (writeEntries entries).flatMap (· ++ ['\n'])

end MarkdownWriter.Toml
