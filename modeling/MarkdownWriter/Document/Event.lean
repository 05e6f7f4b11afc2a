import MarkdownWriter.Node.Basic
import MarkdownWriter.Unicode.Lowercase

/-!
# Documents as events

A CommonMark parser reports a document as a sequence of events, in the order of the source: a
construct begins, a construct ends, a piece of text was read. Link reference definitions are
reported apart from the events. Where the order of blocks matters, an event carries its offset in
the source.

The events are those of the parser's own interface: a code block or raw HTML is reported like a
container whose text comes in pieces, and what a link leads to is known when it begins.
-/

namespace MarkdownWriter

/-- How a link or image was written. -/
inductive LinkForm where
  | inline
  | reference
  | collapsed
  | shortcut
  | autolink
  | email
  deriving DecidableEq, Repr, Inhabited

/-- The form of a reference, if a link is written as one. -/
def LinkForm.reference? : LinkForm → Option ReferenceForm
  | .reference => some .full
  | .collapsed => some .collapsed
  | .shortcut => some .shortcut
  | _ => none

/-- A link or image as the parser reports it: its destination and title are resolved, and a
reference also has its label. -/
structure Target where
  form : LinkForm
  url : String
  title : String
  label : String
  deriving DecidableEq, Repr, Inhabited

/-- A construct that begins. -/
inductive Tag where
  | paragraph
  | heading (level : Nat)
  | blockquote
  /-- A code block, with its info string if it is fenced. -/
  | code (info : Option String)
  | html
  /-- A list, with the number of its first item if it is ordered. -/
  | list (start : Option Nat)
  | item
  | emphasis
  | strong
  | link (target : Target)
  | image (target : Target)
  deriving DecidableEq, Repr, Inhabited

/-- Whether a construct is a block. -/
def Tag.isBlock : Tag → Bool
  | .emphasis | .strong | .link _ | .image _ => false
  | _ => true

/-- A step of a document. -/
inductive Event where
  | start (tag : Tag) (offset : Nat)
  /-- The end of the innermost construct; a paragraph's end is told apart from the others. -/
  | finish (paragraph : Bool)
  | text (value : String)
  | code (value : String)
  | html (value : String)
  | inlineHtml (value : String)
  | softBreak
  | hardBreak
  | rule (offset : Nat)
  deriving DecidableEq, Repr, Inhabited

/-- The offset of an event that can begin a block. -/
def Event.blockOffset? : Event → Option Nat
  | .start _ offset => some offset
  | .rule offset => some offset
  | _ => none

/-- A link reference definition, with its offset in the source. -/
structure Reference where
  offset : Nat
  label : String
  url : String
  title : Option String
  deriving DecidableEq, Repr, Inhabited

/-! ## Labels -/

/-- A label in the form labels are compared in: lower case, with single spaces between its words. -/
def normalizeLabel (label : String) : String :=
  String.ofList (Unicode.lower ((Text.words label.toList).intersperse [' ']).flatten)

/-- The association a label makes. -/
def Association.ofLabel (label : String) : Association where
  identifier := normalizeLabel label
  label := some label

/-- The definition node of a reference definition. -/
def Reference.node (reference : Reference) : Node :=
  .leaf (.definition (.ofLabel reference.label) { url := reference.url, title := reference.title })

/-! ## Info strings -/

/-- The language and the attributes of an info string: its first word, and the rest after the first
space or tab, without the blanks around them. -/
def splitInfo (info : String) : Option String × Option String :=
  let isGap (c : Char) : Bool := c == ' ' || c == '\t'
  let text := Text.trim info.toList
  if text.isEmpty then (none, none)
  else
    let attributes := Text.trim (text.dropWhile (!isGap ·))
    (some (String.ofList (text.takeWhile (!isGap ·))), nonEmpty (some (String.ofList attributes)))

end MarkdownWriter
