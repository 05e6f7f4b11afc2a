/-!
# Characters, words and runs

The ASCII classes are the ones Markdown's syntax is defined with. Blank characters are those of
Unicode's `White_Space` property, which labels and info strings are trimmed by.

Fences have to be told apart from what they enclose, so their length depends on the maximal runs of
the fence character in the contents: a block fence outgrows the longest run (`longestRun`), the
fence of a code span is the shortest length no run has (`shortestMissingRun`).
-/

namespace MarkdownWriter.Text

/-! ## Classes -/

/-- The 32 ASCII punctuation characters, the only ones a backslash escapes. -/
def isPunctuation (c : Char) : Bool :=
  ('!' ≤ c && c ≤ '/') || (':' ≤ c && c ≤ '@') || ('[' ≤ c && c ≤ '\x60') || ('\x7b' ≤ c && c ≤ '~')

/-- The ASCII letters. -/
def isLetter (c : Char) : Bool :=
  ('a' ≤ c && c ≤ 'z') || ('A' ≤ c && c ≤ 'Z')

/-- The ASCII digits. -/
def isDigit (c : Char) : Bool :=
  '0' ≤ c && c ≤ '9'

/-- The digits of hexadecimal numerals, in either case. -/
def isHexDigit (c : Char) : Bool :=
  isDigit c || ('a' ≤ c && c ≤ 'f') || ('A' ≤ c && c ≤ 'F')

/-- The ASCII control characters. -/
def isControl (c : Char) : Bool :=
  c < ' ' || c == '\x7f'

/-- The value of a hexadecimal digit; 0 for any other character. -/
def digitValue (c : Char) : Nat :=
  if isDigit c then c.toNat - '0'.toNat
  else if 'a' ≤ c && c ≤ 'f' then c.toNat - 'a'.toNat + 10
  else if 'A' ≤ c && c ≤ 'F' then c.toNat - 'A'.toNat + 10
  else 0

/-- The number a numeral in the given base stands for. -/
def numeralValue (base : Nat) (digits : List Char) : Nat :=
  digits.foldl (fun n c => n * base + digitValue c) 0

/-- The number of a decimal numeral without sign. -/
def numeral? (text : List Char) : Option Nat :=
  if text.isEmpty || !text.all isDigit then none else some (numeralValue 10 text)

/-- The 25 characters of Unicode's `White_Space` property. -/
def isBlank (c : Char) : Bool :=
  let n := c.toNat
  (9 ≤ n && n ≤ 13) || n == 0x20 || n == 0x85 || n == 0xA0 || n == 0x1680 ||
    (0x2000 ≤ n && n ≤ 0x200A) || n == 0x2028 || n == 0x2029 || n == 0x202F || n == 0x205F ||
      n == 0x3000

/-! ## Words -/

/-- A text without the blanks at both ends. -/
def trim (text : List Char) : List Char :=
  ((text.dropWhile isBlank).reverse.dropWhile isBlank).reverse

/-- The words between blanks, when `word` holds the current word backwards. -/
def wordsFrom (word : List Char) : List Char → List (List Char)
  | [] => if word.isEmpty then [] else [word.reverse]
  | c :: text =>
      if isBlank c then
        if word.isEmpty then wordsFrom [] text else word.reverse :: wordsFrom [] text
      else wordsFrom (c :: word) text

/-- The words of a text: its maximal parts without blanks. -/
def words (text : List Char) : List (List Char) :=
  wordsFrom [] text

/-! ## Runs of one character -/

/-- The lengths of the maximal runs of `c`, in order, when `n` characters of a run are already read.
-/
def runsFrom (c : Char) (n : Nat) : List Char → List Nat
  | [] => if n = 0 then [] else [n]
  | d :: text =>
      if d = c then runsFrom c (n + 1) text
      else if n = 0 then runsFrom c 0 text
      else n :: runsFrom c 0 text

/-- The lengths of the maximal runs of `c` in a text, in order. -/
def runs (c : Char) (text : List Char) : List Nat :=
  runsFrom c 0 text

/-- The length of the longest run of `c`, 0 when there is none. -/
def longestRun (c : Char) (text : List Char) : Nat :=
  (runs c text).foldl max 0

/-- The least positive length that no maximal run of `c` has. Among one more candidates than there
are runs at least one is missing, so the search ends. -/
def shortestMissingRun (c : Char) (text : List Char) : Nat :=
  let taken := runs c text
  (((List.range (taken.length + 1)).map (· + 1)).find? (!taken.contains ·)).getD 1

end MarkdownWriter.Text
