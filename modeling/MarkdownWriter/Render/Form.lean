import MarkdownWriter.Node.Basic
import MarkdownWriter.Style.Basic

/-!
# Choices between equivalent forms

Code can be fenced or indented (`CodeBlock.isIndented`), a heading marked or underlined
(`Node.isSetext`), a link written as an autolink or with its resource (`Resource.isAutolink`), and a
destination bare or in angle brackets (`needsEnclosing`). The forms are not equally powerful, so the
contents decide as much as the style: a form is taken only where it can hold what it is to hold, and
the other one is always there.
-/

namespace MarkdownWriter

open Text

/-- Whether a character is a space or a tab. -/
def isSpacing (c : Char) : Bool :=
  c == ' ' || c == '\t'

/-- Whether the first line of a text is blank, and not the only one. -/
def startsWithBlankLine (text : List Char) : Bool :=
  (text.dropWhile isSpacing).head?.any isLineBreak

/-- Whether code is written as an indented block rather than a fenced one. It then has no info
string, something in it that is not whitespace, and no blank first or last line, as those would be
lost. -/
def CodeBlock.isIndented (style : Style) (block : CodeBlock) : Bool :=
  let value := block.value.toList
  !style.alwaysFences && (nonEmpty block.lang).isNone &&
    value.any (fun c => !(c == ' ' || isLineBreak c)) && !value.all isSpacing &&
    !startsWithBlankLine value && !startsWithBlankLine value.reverse

/-- Whether a heading of the given depth is underlined. Only the first two ranks have that form, and
only a heading with text in it; it is used on request, and it is the only one that can hold line
endings. -/
def Node.isSetext (style : Style) (node : Node) : Bool :=
  match node with
  | .branch (.heading depth) _ =>
      depth < 3 && !node.plainText.isEmpty && (style.prefersSetext || node.hasLiteralBreak)
  | _ => false

/-- Whether a url begins with a scheme: two or more letters and `+`, `.`, `-`, a letter first,
before a colon. -/
def hasScheme (url : List Char) : Bool :=
  let scheme := url.takeWhile (· != ':')
  url.contains ':' && scheme.head?.any isLetter && 2 ≤ scheme.length &&
    scheme.all fun c => isLetter c || c == '+' || c == '.' || c == '-'

/-- Whether a link is written as `<url>`. Its only child is then a text with the url, where
`mailto:` may be left out, and the url can stand in angle brackets. -/
def Resource.isAutolink (style : Style) (resource : Resource) (children : List Node) : Bool :=
  match children with
  | [.leaf (.text value)] =>
      let url := resource.url.toList
      !style.prefersResources && !url.isEmpty && (nonEmpty resource.title).isNone &&
        (value.toList == url || "mailto:".toList ++ value.toList == url) && hasScheme url &&
        !url.any fun c => c ≤ ' ' || c == '<' || c == '>' || c == '\x7f'
  | _ => false

/-- Whether a destination has to be enclosed in angle brackets. -/
def needsEnclosing (url : List Char) : Bool :=
  url.any fun c => c ≤ ' ' || c == '\x7f'

/-- The rank a heading is written with. -/
def headingRank (depth : Nat) : Nat :=
  max 1 (min depth 6)

end MarkdownWriter
