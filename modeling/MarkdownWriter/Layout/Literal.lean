import MarkdownWriter.Escape.Literal
import MarkdownWriter.Render.State

/-!
# Text, emphasis and hard breaks

The simplest inline content: literal text, text between delimiters, and the line ending a hard break
is written with. What a container does with its children it is told from outside: `inline` renders
them as inline content at a site, and `blocks`, where it is used, renders them as blocks at a
position. Layouts therefore do not know of the recursion they are part of, and what is proved of one
has the writing of the children as a parameter.
-/

namespace MarkdownWriter

/-- The way to render the children of a node as inline content. -/
abbrev Inline := Site → Render (List Char)

/-- The way to render the children of a node as blocks. -/
abbrev Blocks := Position → Render (List Char)

/-- A literal text, escaped for the constructs that are open. -/
def Render.literal (rules : List Rule) (text : List Char) (around : Surroundings) :
    Render (List Char) := do
  return escapeLiteral rules (← get).constructs text around

namespace Layout

/-- A text node, escaped against its neighbours. -/
def text (rules : List Rule) (value : List Char) (site : Site) : Render (List Char) :=
  Render.literal rules value { before := site.before, after := site.after }

/-- Inline content between two equal markers. -/
def delimited (construct : Construct) (marker : List Char) (site : Site) (inline : Inline) :
    Render (List Char) :=
  Render.entering construct do
    let content ← inline ⟨marker, marker, site.position.advance marker⟩
    return marker ++ content ++ marker

/-- Emphasis. -/
def emphasis (site : Site) (inline : Inline) : Render (List Char) := do
  let marker ← Render.ofStyle Style.emphasisMarker
  delimited .emphasis [marker] site inline

/-- Strong emphasis, whose marker is doubled. -/
def strong (site : Site) (inline : Inline) : Render (List Char) := do
  let marker ← Render.ofStyle Style.strongMarker
  delimited .strong [marker, marker] site inline

/-- A hard break: a line ending after a backslash. Where a line ending is unsafe a space stands in
for it, or nothing if there is whitespace before it. -/
def hardBreak (rules : List Rule) (site : Site) : Render (List Char) := do
  let state ← get
  if !rules.any fun rule =>
    rule.character == '\n' && rule.applies state.constructs then return ['\\', '\n']
  else if site.before.any fun c => c == ' ' || c == '\t' then return []
  else return [' ']

/-- A paragraph. -/
def paragraph (site : Site) (inline : Inline) : Render (List Char) :=
  Render.entering .paragraph (Render.entering .phrasing (inline site))

end Layout

end MarkdownWriter
