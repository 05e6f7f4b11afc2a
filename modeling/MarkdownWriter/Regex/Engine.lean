import MarkdownWriter.Regex.Reader
import MarkdownWriter.Regex.Search

/-!
# Engines

The fragments in the patterns of extensions are written in the notation of a library of regular
expressions, which also says what they match. That library is no part of this one: an `Engine` is
what is asked of it.

* **Escaping** (`Engine.escape`): how a character is written so that it stands for itself.
* **Compiling** (`Engine.compile`): the expression a text denotes, if the text is accepted at all.

The program has to have some engine. `Engine.plain` is one for a small notation: it accepts what
`Regex.read` reads. What is proved about patterns is proved of every engine that reads a text piece
by piece.
-/

namespace MarkdownWriter

/-- A library of regular expressions. -/
structure Engine where
  /-- A character as it is written to stand for itself. -/
  escape : Char → List Char
  /-- The expression a text denotes, if it is well formed. -/
  compile : List Char → Option Expression

namespace Regex

/-- The characters that mean something in regular expressions and are written with a backslash to
stand for themselves. -/
def operators : List Char :=
  ['\\', '.', '+', '*', '?', '(', ')', '|', '[', ']', '\x7b', '\x7d', '^', '$', '#', '&', '-', '~']

/-- A character as it is written in a regular expression. -/
def literal (c : Char) : List Char :=
  if operators.contains c then ['\\', c] else [c]

end Regex

/-- The engine for the notation that `Regex.read` reads. -/
def Engine.plain : Engine where
  escape := Regex.literal
  compile := fun text => (Regex.read text).map Regex.compiled

end MarkdownWriter
