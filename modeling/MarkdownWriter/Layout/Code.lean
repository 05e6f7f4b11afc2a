import MarkdownWriter.Layout.Literal
import MarkdownWriter.Render.Form
import MarkdownWriter.Text.Character

/-!
# Code

Code is written as it is, between fences that cannot occur in it (`codeFence`), or with every line
indented (`indentedCode`). The language and the attributes behind the opening fence are escaped,
each in a construct of its own (`infoConstructs`), because a fence of backticks allows none in them.

Code spans have no escapes. So that their contents are read back, they are written

* between the shortest run of backticks that does not occur in them (`codeSpan`),
* with a space on both sides where a backtick or a space would be lost at the edge (`paddedSpan`),
* and with a space for every line ending after which the line would start a block
  (`blankLineEndings`), as that is what a line ending reads back as anyway.
-/

namespace MarkdownWriter.Layout

open Text

/-! ## Blocks -/

/-- The indent of indented code. -/
def codeIndent : List Char :=
  [' ', ' ', ' ', ' ']

/-- Indented code; blank lines stay empty. -/
def indentedCode (value : List Char) : List Char :=
  mapLines (fun _ line => if line.isEmpty then [] else codeIndent ++ line) value

/-- The fence for a value: longer than any run of the marker in it, and at least three. -/
def codeFence (marker : Char) (value : List Char) : List Char :=
  List.replicate (max (longestRun marker value + 1) 3) marker

/-- The constructs of the language and of the rest of an info string. -/
def infoConstructs (marker : Char) : Construct × Construct :=
  if marker == '\x60' then (.codeFencedLangGraveAccent, .codeFencedMetaGraveAccent)
  else (.codeFencedLangTilde, .codeFencedMetaTilde)

/-- The characters of an info string that only a reference can escape. -/
def infoEncode : List Char :=
  ['\x60']

/-- The opening line of a fenced block, without its line ending. Attributes are only written after a
language. -/
def openingFence (rules : List Rule) (marker : Char) (fence : List Char) (block : CodeBlock) :
    Render (List Char) := do
  match nonEmpty block.lang with
  | none => return fence
  | some lang =>
      let (langConstruct, attributesConstruct) := infoConstructs marker
      let escaped ← Render.entering langConstruct
        (Render.literal rules lang.toList { before := fence, after := [' '], encode := infoEncode })
      let written := fence ++ escaped
      match nonEmpty block.attributes with
      | none => return written
      | some attributes =>
          let written := written ++ [' ']
          let escaped ← Render.entering attributesConstruct
            (Render.literal rules attributes.toList
              { before := written, after := ['\n'], encode := infoEncode })
          return written ++ escaped

/-- A code block. -/
def code (rules : List Rule) (block : CodeBlock) : Render (List Char) := do
  let marker ← Render.ofStyle Style.fenceMarker
  let value := block.value.toList
  if block.isIndented (← get).style then return indentedCode value
  else
    let fence := codeFence marker value
    let opening ← Render.entering .codeFenced (openingFence rules marker fence block)
    return opening ++ ['\n'] ++ (if value.isEmpty then [] else value ++ ['\n']) ++ fence

/-! ## Spans -/

/-- Whether a character is a space or part of a line ending, which a code span loses at its edges.
-/
def isSpanEdge (c : Char) : Bool :=
  c == ' ' || isLineBreak c

/-- The contents of a code span with a space on both sides where they need it: to keep a backtick
from the fence, or to have that space lost instead of one of theirs. -/
def paddedSpan (value : List Char) : List Char :=
  let wrapped := value.head?.any isSpanEdge && value.getLast?.any isSpanEdge
  let touching := value.head? == some '\x60' || value.getLast? == some '\x60'
  if value.any (!isSpanEdge ·) && (wrapped || touching) then ' ' :: value ++ [' '] else value

/-- Replace the line ending in front of a match by a space. The result is the offset to go on from
and the text. -/
def blankLineEnding (value : List Char) (found : Match) : Nat × List Char :=
  if value[found.first]? == some '\n' && 0 < found.first &&
    value[found.first - 1]? == some '\r' then
    (found.stop - 1, value.take (found.first - 1) ++ ' ' :: value.drop (found.first + 1))
  else (found.stop, value.take found.first ++ ' ' :: value.drop (found.first + 1))

/-- Replace the line endings in front of all matches from `offset` on; there are fewer than `fuel`.
-/
def blankLineEndings (expression : Expression) : Nat → Nat → List Char → List Char
  | 0, _, value => value
  | fuel + 1, offset, value =>
      match expression.find value offset with
      | none => value
      | some found =>
          let (offset, value) := blankLineEnding value found
          blankLineEndings expression fuel offset value

/-- A code span. -/
def codeSpan (rules : List Rule) (value : List Char) : List Char :=
  let fence := List.replicate (shortestMissingRun '\x60' value) '\x60'
  let content := (rules.filter (·.atBreak)).foldl
    (fun content rule => blankLineEndings rule.expression (content.length + 1) 0 content)
      (paddedSpan value)
  fence ++ content ++ fence

end MarkdownWriter.Layout
