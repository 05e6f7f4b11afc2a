import MarkdownWriter.Layout.Literal
import MarkdownWriter.Render.Form

/-!
# Links, images, references and definitions

What these have in common is written in front of each part: a part is escaped against all that is
written so far, so the functions for the parts take that text and give it back with the part at its
end (`destination`, `title`, `resource`, `closeReference`).

A destination is enclosed in angle brackets where it could not be read without them, and a link
whose text is its url is written as an autolink (`link`). The label of a reference is escaped as if
no construct were open, so that it comes out as in the definition; it is left out where a shorter
form is asked for and the text of the reference is already the same (`closeReference`).
-/

namespace MarkdownWriter.Layout

/-! ## Resources -/

/-- Write a destination, in angle brackets or bare before `after`. -/
def destination (rules : List Rule) (enclosed : Bool) (after : List Char) (url : List Char)
    (written : List Char) : Render (List Char) :=
  if enclosed then
    Render.entering .destinationLiteral do
      let written := written ++ ['<']
      let escaped ← Render.literal rules url { before := written, after := ['>'] }
      return written ++ escaped ++ ['>']
  else
    Render.entering .destinationRaw do
      let escaped ← Render.literal rules url { before := written, after := after }
      return written ++ escaped

/-- Write a title in quotes, if there is one. -/
def title (rules : List Rule) (quote : Char) (title : Option String) (written : List Char) :
    Render (List Char) :=
  match title with
  | none => return written
  | some title =>
      Render.entering (.title quote) do
        let written := written ++ [' ', quote]
        let escaped ← Render.literal rules title.toList { before := written, after := [quote] }
        return written ++ escaped ++ [quote]

/-- Write the destination and title of a link or image, up to its closing parenthesis. A destination
is enclosed if it holds spaces or controls, or if it is empty but a title follows. -/
def resource (rules : List Rule) (quote : Char) (resource : Resource) (written : List Char) :
    Render (List Char) := do
  let url := resource.url.toList
  let caption := nonEmpty resource.title
  let enclosed := (url.isEmpty && caption.isSome) || needsEnclosing url
  let written ← destination rules enclosed (if caption.isSome then [' '] else [')']) url written
  title rules quote caption written

/-- A link, as an autolink where that is possible. -/
def link (rules : List Rule) (target : Resource) (children : List Node) (site : Site)
    (inline : Inline) : Render (List Char) := do
  let quote ← Render.ofStyle Style.titleQuote
  if target.isAutolink (← get).style children then
    Render.isolated do
      Render.entering .autolink do
        let content ← inline ⟨['<'], ['>'], site.position.advance ['<']⟩
        return '<' :: content ++ ['>']
  else
    Render.entering .link do
      let content ← Render.entering .label (inline ⟨['['], [']', '('], site.position.advance ['[']⟩)
      let written ← resource rules quote target ('[' :: content ++ [']', '('])
      return written ++ [')']

/-- An image. -/
def image (rules : List Rule) (target : Resource) (alt : List Char) : Render (List Char) := do
  let quote ← Render.ofStyle Style.titleQuote
  Render.entering .image do
    let escaped ← Render.entering .label
      (Render.literal rules alt { before := ['!', '['], after := [']'] })
    let written ← resource rules quote target (['!', '['] ++ escaped ++ [']', '('])
    return written ++ [')']

/-- The definition of a label. Its destination is never left out, so an empty one is enclosed. -/
def definition (rules : List Rule) (label : List Char) (target : Resource) :
    Render (List Char) := do
  let quote ← Render.ofStyle Style.titleQuote
  Render.entering .definition do
    let label ← Render.entering .label
      (Render.literal rules label { before := ['['], after := [']'] })
    let url := target.url.toList
    let caption := nonEmpty target.title
    let written ← destination rules (url.isEmpty || needsEnclosing url)
      (if caption.isSome then [' '] else ['\n']) url
      ('[' :: label ++ [']', ':', ' '])
    title rules quote caption written

/-! ## References -/

/-- Finish a reference of which `[text][` is written, with its label or in a shorter form if that is
asked for and the text already is the label. Labels are escaped as if nothing were open, so that
they do not depend on their place. -/
def closeReference (rules : List Rule) (form : ReferenceForm) (text label written : List Char) :
    Render (List Char) := do
  let escaped ← Render.isolated
    (Render.entering .reference (Render.literal rules label { before := written, after := [']'] }))
  if form == .full || text.isEmpty || text != escaped then return written ++ escaped ++ [']']
  else if form == .shortcut then return written.dropLast
  else return written ++ [']']

/-- A link reference with a label. -/
def linkReference (rules : List Rule) (label : List Char) (form : ReferenceForm) (site : Site)
    (inline : Inline) : Render (List Char) :=
  Render.entering .linkReference do
    let content ← Render.entering .label (inline ⟨['['], [']'], site.position.advance ['[']⟩)
    closeReference rules form content label ('[' :: content ++ [']', '['])

/-- An image reference with a label. -/
def imageReference (rules : List Rule) (label : List Char) (form : ReferenceForm)
    (alt : List Char) : Render (List Char) :=
  Render.entering .imageReference do
    let escaped ← Render.entering .label
      (Render.literal rules alt { before := ['!', '['], after := [']'] })
    closeReference rules form escaped label (['!', '['] ++ escaped ++ [']', '['])

end MarkdownWriter.Layout
