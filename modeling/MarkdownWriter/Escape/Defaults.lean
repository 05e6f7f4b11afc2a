import MarkdownWriter.Escape.Rule

/-!
# Markdown's own rules

The characters that turn literal text into markup, and where (`Rule.defaults`). Most rules are of
one of two forms: the character is markup at the start of a line, or it is markup in some constructs
next to certain neighbours.

A backslash is not among them except before a line ending: every other backslash is dealt with where
the text is written.
-/

namespace MarkdownWriter

open Construct Regex

namespace Rule

/-! ## Conditions -/

/-- A line ending. -/
def lineBreak : Regex :=
  oneOf ['\r', '\n']

/-- A line ending or the end of the text. -/
def lineEnd : Regex :=
  .alt lineBreak .finish

/-- The characters that can follow a list marker. -/
def markerSpace : List Char :=
  [' ', '\t', '\r', '\n']

/-- The number of an ordered list item. -/
def number : Regex :=
  plus (.set ⟨false, [('0', '9')]⟩)

/-- What follows `<` in raw HTML and autolinks. -/
def tagStart : Regex :=
  .set ⟨false, [('!', '!'), ('/', '/'), ('?', '?'), ('A', 'Z'), ('a', 'z')]⟩

/-- What follows `&` in a character reference. -/
def referenceStart : Regex :=
  .set ⟨false, [('#', '#'), ('A', 'Z'), ('a', 'z')]⟩

/-! ## Where rules apply -/

/-- The language of a fenced code block. -/
def fencedLang : List Construct :=
  [codeFencedLangGraveAccent, codeFencedLangTilde]

/-- The constructs that have to stay on one line. -/
def singleLine : List Construct :=
  [codeFencedLangGraveAccent, codeFencedLangTilde, codeFencedMetaGraveAccent, codeFencedMetaTilde,
    destinationLiteral, headingAtx]

/-- A character that is unsafe in the given constructs, whatever is around it. -/
def anywhereIn (inside : List Construct) (c : Char) : Rule :=
  make c inside [] false none none

/-- A character that is unsafe in inline content, except in literal spans. -/
def inlineMarkup (c : Char) (before after : Option Regex) : Rule :=
  make c [phrasing] literalSpans false before after

/-- A character that is unsafe at the start of a line. -/
def blockMarkup (c : Char) (before after : Option Regex) : Rule :=
  make c [] [] true before after

/-! ## The rules -/

/-- Whitespace around line endings is lost, and line endings end what has to stay on one line. -/
def whitespaceRules : List Rule := [
  make '\t' [phrasing] [] false none (some lineBreak),
  make '\t' [phrasing] [] false (some lineBreak) none,
  anywhereIn fencedLang '\t',
  anywhereIn singleLine '\r',
  anywhereIn singleLine '\n',
  make ' ' [phrasing] [] false none (some lineBreak),
  make ' ' [phrasing] [] false (some lineBreak) none,
  anywhereIn fencedLang ' ']

/-- The rules about punctuation. -/
def punctuationRules : List Rule := [
  -- An exclamation mark makes the link after it an image.
  inlineMarkup '!' none (some (Regex.character '[')),
  anywhereIn [titleQuote] '"',
  blockMarkup '#' none none,
  make '#' [headingAtx] [] false none (some lineEnd),
  -- Character references.
  make '&' [phrasing] [] false none (some referenceStart),
  anywhereIn [titleApostrophe] '\'',
  anywhereIn [destinationRaw] '(',
  -- The resource of a link or image.
  inlineMarkup '(' (some (Regex.character ']')) none,
  -- Ordered list items, or the end of a raw destination.
  blockMarkup ')' (some number) none,
  anywhereIn [destinationRaw] ')',
  -- Thematic breaks, list items, emphasis.
  blockMarkup '*' none (some (oneOf (markerSpace ++ ['*']))),
  inlineMarkup '*' none none,
  blockMarkup '+' none (some (oneOf markerSpace)),
  -- Thematic breaks, list items, setext underlines.
  blockMarkup '-' none (some (oneOf (markerSpace ++ ['-']))),
  blockMarkup '.' (some number) (some (.alt (oneOf markerSpace) .finish)),
  -- Raw HTML, autolinks, or the start of a literal destination.
  blockMarkup '<' none (some tagStart),
  inlineMarkup '<' none (some tagStart),
  anywhereIn [destinationLiteral] '<',
  blockMarkup '=' none none,
  blockMarkup '>' none none,
  anywhereIn [destinationLiteral] '>',
  blockMarkup '[' none none,
  inlineMarkup '[' none none,
  anywhereIn [label, reference] '[',
  -- A backslash before a line ending is a hard break.
  make '\\' [phrasing] [] false none (some lineBreak),
  anywhereIn [label, reference] ']',
  blockMarkup '_' none none,
  inlineMarkup '_' none none,
  blockMarkup '\x60' none none,
  anywhereIn [codeFencedLangGraveAccent, codeFencedMetaGraveAccent] '\x60',
  inlineMarkup '\x60' none none,
  blockMarkup '~' none none]

/-- All rules of Markdown. -/
def defaults : List Rule :=
  whitespaceRules ++ punctuationRules

end Rule

end MarkdownWriter
