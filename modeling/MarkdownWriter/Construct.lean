/-!
# Constructs

While a node is being written the constructs it is inside of are open. They decide which characters
are unsafe: a bracket matters in a label, a line ending in an ATX heading, most markup in inline
content.
-/

namespace MarkdownWriter

/-- A syntactic construct that can be open. -/
inductive Construct where
  | autolink
  | blockquote
  | codeFenced
  | codeFencedLangGraveAccent
  | codeFencedLangTilde
  | codeFencedMetaGraveAccent
  | codeFencedMetaTilde
  | codeIndented
  | definition
  | destinationLiteral
  | destinationRaw
  | emphasis
  | headingAtx
  | headingSetext
  | image
  | imageReference
  | label
  | link
  | linkReference
  | list
  | listItem
  | paragraph
  /-- Inline content, where most escapes apply. -/
  | phrasing
  | reference
  | strong
  | titleApostrophe
  | titleQuote
  /-- A construct of an extension. -/
  | custom (name : String)
  deriving DecidableEq, Repr, Inhabited

namespace Construct

/-- The name of a construct. -/
def name : Construct → String
  | autolink => "autolink"
  | blockquote => "blockquote"
  | codeFenced => "codeFenced"
  | codeFencedLangGraveAccent => "codeFencedLangGraveAccent"
  | codeFencedLangTilde => "codeFencedLangTilde"
  | codeFencedMetaGraveAccent => "codeFencedMetaGraveAccent"
  | codeFencedMetaTilde => "codeFencedMetaTilde"
  | codeIndented => "codeIndented"
  | definition => "definition"
  | destinationLiteral => "destinationLiteral"
  | destinationRaw => "destinationRaw"
  | emphasis => "emphasis"
  | headingAtx => "headingAtx"
  | headingSetext => "headingSetext"
  | image => "image"
  | imageReference => "imageReference"
  | label => "label"
  | link => "link"
  | linkReference => "linkReference"
  | list => "list"
  | listItem => "listItem"
  | paragraph => "paragraph"
  | phrasing => "phrasing"
  | reference => "reference"
  | strong => "strong"
  | titleApostrophe => "titleApostrophe"
  | titleQuote => "titleQuote"
  | custom name => name

/-- The constructs of Markdown itself. -/
def known : List Construct :=
  [autolink, blockquote, codeFenced, codeFencedLangGraveAccent, codeFencedLangTilde,
    codeFencedMetaGraveAccent, codeFencedMetaTilde, codeIndented, definition, destinationLiteral,
    destinationRaw, emphasis, headingAtx, headingSetext, image, imageReference, label, link,
    linkReference, list, listItem, paragraph, phrasing, reference,
    strong, titleApostrophe, titleQuote]

/-- The construct with a given name: one of Markdown's own, or else one of an extension. -/
def ofName (name : String) : Construct :=
  (known.find? (·.name == name)).getD (custom name)

/-- The title construct for a quote. -/
def title (quote : Char) : Construct :=
  if quote == '"' then titleQuote else titleApostrophe

/-- The spans whose contents are never read for nested inline content. -/
def literalSpans : List Construct :=
  [autolink, destinationLiteral, destinationRaw, reference, titleQuote, titleApostrophe]

end Construct

end MarkdownWriter
