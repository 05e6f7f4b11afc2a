import MarkdownWriter.Text.Record

/-!
# Stylistic choices

Markdown often has several ways to write the same thing. A `Style` holds the choices; every one may
be left open, and a style can be laid over another (`Style.overlay`), which then only fills what the
upper one leaves open. Which values are accepted, and what an open choice falls back to, is said in
`MarkdownWriter.Style.Check`.
-/

namespace MarkdownWriter

/-- How far the contents of a list item are indented from its marker. -/
inductive ItemIndent where
  /-- The width of the marker and one, rounded up to a tab stop. -/
  | tab
  /-- The width of the marker and one. -/
  | one
  /-- `one` in tight lists and items, `tab` in spread ones. -/
  | mixed
  deriving DecidableEq, Repr, Inhabited

/-- The name of an indent in settings. -/
def ItemIndent.name : ItemIndent → String
  | .tab => "tab"
  | .one => "one"
  | .mixed => "mixed"

/-- The stylistic choices. -/
structure Style where
  /-- The marker of unordered lists: `*`, `+` or `-`. -/
  bullet : Option Char := none
  /-- The marker where `bullet` would be ambiguous. -/
  bulletOther : Option Char := none
  /-- The delimiter of ordered lists: `.` or `)`. -/
  bulletOrdered : Option Char := none
  /-- The delimiter where `bulletOrdered` would be ambiguous. -/
  bulletOrderedOther : Option Char := none
  /-- `*` or `_`. -/
  emphasis : Option Char := none
  /-- `*` or `_`. -/
  strong : Option Char := none
  /-- The character of code fences: a backtick or `~`. -/
  fence : Option Char := none
  /-- Always fence code, even where indenting would do. -/
  fences : Option Bool := none
  /-- The quote around titles: `"` or `'`. -/
  quote : Option Char := none
  /-- The character of thematic breaks: `*`, `-` or `_`. -/
  rule : Option Char := none
  /-- The number of characters in a thematic break, at least three. -/
  ruleRepetition : Option Nat := none
  /-- Put spaces between the characters of thematic breaks. -/
  ruleSpaces : Option Bool := none
  /-- Close ATX headings with as many `#` as they open with. -/
  closeAtx : Option Bool := none
  /-- Underline headings of rank 1 and 2. -/
  setext : Option Bool := none
  listItemIndent : Option ItemIndent := none
  /-- Count the items of ordered lists up. -/
  incrementListMarker : Option Bool := none
  /-- Never write autolinks. -/
  resourceLink : Option Bool := none
  /-- Leave no blank line between definitions. -/
  tightDefinitions : Option Bool := none
  deriving DecidableEq, Repr, Inhabited

namespace Style

/-- The style in which every choice `top` makes replaces the one of `base`. -/
def overlay (base top : Style) : Style where
  bullet := top.bullet <|> base.bullet
  bulletOther := top.bulletOther <|> base.bulletOther
  bulletOrdered := top.bulletOrdered <|> base.bulletOrdered
  bulletOrderedOther := top.bulletOrderedOther <|> base.bulletOrderedOther
  emphasis := top.emphasis <|> base.emphasis
  strong := top.strong <|> base.strong
  fence := top.fence <|> base.fence
  fences := top.fences <|> base.fences
  quote := top.quote <|> base.quote
  rule := top.rule <|> base.rule
  ruleRepetition := top.ruleRepetition <|> base.ruleRepetition
  ruleSpaces := top.ruleSpaces <|> base.ruleSpaces
  closeAtx := top.closeAtx <|> base.closeAtx
  setext := top.setext <|> base.setext
  listItemIndent := top.listItemIndent <|> base.listItemIndent
  incrementListMarker := top.incrementListMarker <|> base.incrementListMarker
  resourceLink := top.resourceLink <|> base.resourceLink
  tightDefinitions := top.tightDefinitions <|> base.tightDefinitions

/-! ## Choices that any value is good for -/

/-- How list items are indented; by tab stops unless chosen otherwise. -/
def itemIndent (style : Style) : ItemIndent :=
  style.listItemIndent.getD .tab

/-- Whether code is always fenced. -/
def alwaysFences (style : Style) : Bool :=
  style.fences.getD false

/-- Whether the characters of thematic breaks stand apart. -/
def spacesRules (style : Style) : Bool :=
  style.ruleSpaces.getD false

/-- Whether ATX headings are closed. -/
def closesAtx (style : Style) : Bool :=
  style.closeAtx.getD false

/-- Whether headings of rank 1 and 2 are underlined. -/
def prefersSetext (style : Style) : Bool :=
  style.setext.getD false

/-- Whether the items of ordered lists are counted up; they are unless chosen otherwise. -/
def incrementsMarkers (style : Style) : Bool :=
  style.incrementListMarker.getD true

/-- Whether autolinks are avoided. -/
def prefersResources (style : Style) : Bool :=
  style.resourceLink.getD false

/-- Whether consecutive definitions touch. -/
def tightensDefinitions (style : Style) : Bool :=
  style.tightDefinitions.getD false

end Style

/-! ## Styles in messages -/

open Text

/-- The name of an indent in a message. -/
def ItemIndent.description : ItemIndent → List Char
  | .tab => "Tab".toList
  | .one => "One".toList
  | .mixed => "Mixed".toList

/-- A style in the notation of `Text.Record`, with all its choices. -/
def Style.description (style : Style) : List Char :=
  let letter (c : Option Char) := maybe (c.map quotedLetter)
  let switch (b : Option Bool) := maybe (b.map flag)
  record "Settings" [
    ("bullet", letter style.bullet),
    ("bullet_other", letter style.bulletOther),
    ("bullet_ordered", letter style.bulletOrdered),
    ("bullet_ordered_other", letter style.bulletOrderedOther),
    ("emphasis", letter style.emphasis),
    ("strong", letter style.strong),
    ("fence", letter style.fence),
    ("fences", switch style.fences),
    ("quote", letter style.quote),
    ("rule", letter style.rule),
    ("rule_repetition", maybe (style.ruleRepetition.map decimal)),
    ("rule_spaces", switch style.ruleSpaces),
    ("close_atx", switch style.closeAtx),
    ("setext", switch style.setext),
    ("list_item_indent", maybe (style.listItemIndent.map ItemIndent.description)),
    ("increment_list_marker", switch style.incrementListMarker),
    ("resource_link", switch style.resourceLink),
    ("tight_definitions", switch style.tightDefinitions)]

end MarkdownWriter
