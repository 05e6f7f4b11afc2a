/-!
# Lines of text, and positions in it

A line ending is `\r\n`, a lone `\r` or a lone `\n`. `Lines.ofText` cuts a text at its line endings
and `Lines.toText` puts it back together; what containers do to their contents, prefixing every
line, is a map on that view (`mapLines`). Nothing is lost by the cut: `toText_ofText`.

A node is told where in the output its first character will land. Containers that prefix every line
of their contents (block quotes, list items) put the prefix in only afterwards, so a `Position` also
carries the width by which every later line will be shifted (`lineShift`).
-/

namespace MarkdownWriter.Text

/-! ## Line endings -/

/-- The three ways a line can end. -/
inductive LineEnding where
  | lf
  | cr
  | crlf
  deriving DecidableEq, Repr

/-- The characters a line ending is written with. -/
def LineEnding.toText : LineEnding → List Char
  | .lf => ['\n']
  | .cr => ['\r']
  | .crlf => ['\r', '\n']

/-- The two characters line endings are made of. -/
def isLineBreak (c : Char) : Bool :=
  c == '\n' || c == '\r'

/-- Whether a text spans more than one line. -/
def hasLineEnding (text : List Char) : Bool :=
  text.any isLineBreak

/-- A text without the line ending at its very end, if it has one there. -/
def dropFinalLineEnding (text : List Char) : List Char :=
  match text.reverse with
  | '\n' :: '\r' :: rest => rest.reverse
  | '\n' :: rest => rest.reverse
  | '\r' :: rest => rest.reverse
  | _ => text

/-! ## The lines of a text -/

/-- A text as its first line and, for every line ending, that ending with the line after it. -/
structure Lines where
  first : List Char
  rest : List (LineEnding × List Char)
  deriving DecidableEq, Repr

namespace Lines

/-- Add a character in front of the first line. -/
def push (c : Char) (lines : Lines) : Lines :=
  { lines with first := c :: lines.first }

/-- Start a new, empty first line that ends with `ending`. -/
def openLine (ending : LineEnding) (lines : Lines) : Lines :=
  ⟨[], (ending, lines.first) :: lines.rest⟩

/-- Cut a text at its line endings; `\r\n` is one ending. -/
def ofText : List Char → Lines
  | [] => ⟨[], []⟩
  | '\r' :: '\n' :: text => (ofText text).openLine .crlf
  | c :: text =>
      if c = '\r' then (ofText text).openLine .cr
      else if c = '\n' then (ofText text).openLine .lf
      else (ofText text).push c

/-- Put the lines back together. -/
def toText (lines : Lines) : List Char :=
  lines.first ++ lines.rest.flatMap fun (ending, line) => ending.toText ++ line

/-- The line after the last line ending. -/
def last (lines : Lines) : List Char :=
  match lines.rest.getLast? with
  | none => lines.first
  | some (_, line) => line

/-- The number of line endings. -/
def breaks (lines : Lines) : Nat :=
  lines.rest.length

/-- Apply a function to every line, given its index counted from 0, and keep the line endings. -/
def mapIdx (f : Nat → List Char → List Char) (lines : Lines) : Lines :=
  ⟨f 0 lines.first, lines.rest.mapIdx fun i (ending, line) => (ending, f (i + 1) line)⟩

@[simp] theorem toText_push (c : Char) (lines : Lines) :
    (lines.push c).toText = c :: lines.toText := rfl

@[simp] theorem toText_openLine (ending : LineEnding) (lines : Lines) :
    (lines.openLine ending).toText = ending.toText ++ lines.toText := by
  simp [openLine, toText]

/-- Cutting a text into lines loses nothing. -/
@[simp] theorem toText_ofText (text : List Char) : (ofText text).toText = text := by
  fun_induction ofText text with
  | case1 => rfl
  | case2 text ih => simp [ih, LineEnding.toText]
  | case3 text _ ih => simp [ih, LineEnding.toText]
  | case4 text _ _ ih => simp [ih, LineEnding.toText]
  | case5 c text _ _ _ ih => simp [ih]

end Lines

/-- Apply a function to every line of a text, given its index counted from 0, and keep the line
endings. -/
def mapLines (f : Nat → List Char → List Char) (text : List Char) : List Char :=
  ((Lines.ofText text).mapIdx f).toText

end MarkdownWriter.Text

namespace MarkdownWriter

/-! ## Positions -/

/-- Where the next character lands: line and column, both counted from 1, and the columns every
following line will be shifted by. -/
structure Position where
  line : Nat := 1
  column : Nat := 1
  lineShift : Nat := 0
  deriving DecidableEq, Repr

namespace Position

/-- The position after `text`. A text without line ending only moves the column, by its number of
characters; any other ends on a new line, as far right as its last line is long and the line is
shifted. -/
def advance (position : Position) (text : List Char) : Position :=
  let lines := Text.Lines.ofText text
  if lines.breaks = 0 then { position with column := position.column + text.length }
  else
    { position with
      line := position.line + lines.breaks
      column := 1 + lines.last.length + position.lineShift }

/-- Shift all following lines by `width` more columns. -/
def shift (position : Position) (width : Nat) : Position :=
  { position with lineShift := position.lineShift + width }

/-- The position after several texts written one by one. -/
def advanceAll (position : Position) (texts : List (List Char)) : Position :=
  texts.foldl advance position

end Position

end MarkdownWriter
