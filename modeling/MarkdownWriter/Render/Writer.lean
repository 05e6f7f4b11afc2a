import MarkdownWriter.Render.Handler

/-!
# Rendering trees

A `Writer` holds what stays fixed while a tree is rendered: the handlers, the character references
that labels are read with, the rules about unsafe characters and the rules about what separates
blocks. `Writer.render` writes a node, `Writer.blocks` the children of a node as blocks and
`Writer.inlines` the children as inline content; the three are one recursion over the tree.

* **Handlers** are looked up by the name of a node's kind (`Writer.handler`), and what they want
  done is done with the children written by the recursion.
* **Blocks** have a separator between them, which the join rules decide (`Writer.between`). A block
  that is no list makes the marker of the list before it forgotten (`Writer.forgetBullet`).
* **Inline content** is written from left to right (`Progress`): every child is told the last
  character before it and the first one of the child behind it (`Writer.peek`), and a line ending in
  front of raw HTML becomes a space (`Progress.joinLines`).
-/

namespace MarkdownWriter

/-- What nodes are written by. -/
structure Writer where
  /-- The handlers by the kind they are registered for; of two for one kind the first is used. -/
  handlers : List (String × Handler)
  /-- The character references that are resolved in the identifiers of labels. -/
  references : Text.References
  rules : List Rule
  /-- The join rules, the one that is asked last first. -/
  joins : List JoinRule

namespace Writer

/-! ## Single steps -/

/-- The handler of a node. -/
def handler (writer : Writer) (node : Node) : Except RenderError Handler :=
  let kind := node.kindName
  if kind.isEmpty then .error (.invalidNode (String.ofList node.description))
  else
    match writer.handlers.lookup kind with
    | some handler => .ok handler
    | none => .error (.unknownNode kind)

/-- What the handler of a node wants done. -/
def plan (writer : Writer) (node : Node) (parent : Option Node) (site : Site) : Render Plan := do
  let handler ← writer.handler node
  return handler.plan node parent (← get) site

/-- The first character of a node's text. A handler that does not know it makes the node be
rendered. A node without handler has none; it fails once it is rendered itself. -/
def peek (writer : Writer) (node : Node) (rendered : Render (List Char)) : Render (Option Char) :=
  match writer.handler node with
  | .error _ => pure none
  | .ok handler => do
      match ← Render.ofState (handler.peek node) with
      | some c => return some c
      | none => return (← rendered).head?

/-- The text between two blocks. The state takes note of it if it is a comment. -/
def between (writer : Writer) (left right parent : Node) : Render (List Char) := do
  let join := Join.decide writer.joins (← get) left right parent
  if join = .interrupt then
    modify fun state => { state with comments := (left.kindName, right.kindName) :: state.comments }
  return join.separator

/-- The site of a block. -/
def blockSite (position : Position) : Site :=
  ⟨['\n'], ['\n'], position⟩

/-- A list is only followed by a list if nothing was rendered between them. -/
def forgetBullet (child : Node) : Render Unit :=
  if child.isList then pure () else modify fun state => { state with bulletLastUsed := none }

/-! ## Inline content -/

/-- How far inline content is written. -/
structure Progress where
  /-- The texts of the children so far, the latest first. -/
  written : List (List Char)
  /-- The last character written, or what stood before the first child; empty after a child without
  text. -/
  before : List Char
  position : Position

namespace Progress

/-- Add the text of a child. -/
def push (progress : Progress) (value : List Char) : Progress :=
  ⟨value :: progress.written, value.getLast?.toList, progress.position.advance value⟩

/-- Make sure that raw HTML does not start a line, where it could start a block: a line ending at
the end of the previous child becomes a space. -/
def joinLines (progress : Progress) (start : Position) : Progress :=
  match progress.written with
  | last :: earlier =>
      if progress.before == ['\n'] || progress.before == ['\r'] then
        let written := (Text.dropFinalLineEnding last ++ [' ']) :: earlier
        ⟨written, [' '], start.advanceAll written.reverse⟩
      else progress
  | [] => progress

/-- The progress before a child is written. -/
def prepare (progress : Progress) (child : Node) (start : Position) : Progress :=
  if child.isHtml then progress.joinLines start else progress

end Progress

/-! ## The recursion -/

mutual

/-- Write a node with the handler registered for its kind. -/
def render (writer : Writer) : Node → Option Node → Site → Render (List Char)
  | .leaf content, parent, site => do
      let plan ← writer.plan (.leaf content) parent site
      plan.run writer.references writer.rules (.leaf content) parent site
        (fun _ => Render.counting (pure [])) (fun _ => Render.counting (pure []))
  | .branch content children, parent, site => do
      let plan ← writer.plan (.branch content children) parent site
      plan.run writer.references writer.rules (.branch content children) parent site
        (fun position =>
          Render.counting (blocksFrom writer (.branch content children) children 0 position))
        (fun site =>
          Render.counting
            (inlinesFrom writer (.branch content children) site children 0 ⟨[], site.before,
              site.position⟩))

/-- Write the children of `parent` from the one with the given index on as blocks. -/
def blocksFrom (writer : Writer) (parent : Node) : List Node → Nat → Position → Render (List Char)
  | [], _, _ => pure []
  | child :: rest, index, position => do
      Render.goTo index
      let value ← render writer child (some parent) (blockSite position)
      forgetBullet child
      match rest.head? with
      | none => return value
      | some next =>
          let separator ← between writer child next parent
          let following ← blocksFrom writer parent rest (index + 1)
            ((position.advance value).advance separator)
          return value ++ separator ++ following

/-- Write the children of `parent` from the one with the given index on as inline content. Every
child is escaped against the last character that is written before it and the first one of the next
child. -/
def inlinesFrom (writer : Writer) (parent : Node) (site : Site) :
    List Node → Nat → Progress → Render (List Char)
  | [], _, progress => return progress.written.reverse.flatten
  | [child], index, progress => do
      Render.goTo index
      let progress := progress.prepare child site.position
      let value ← render writer child (some parent) ⟨progress.before, site.after, progress.position⟩
      inlinesFrom writer parent site [] (index + 1) (progress.push value)
  | child :: next :: rest, index, progress => do
      Render.goTo index
      let after ← peek writer next (render writer next (some parent) ⟨[], [], progress.position⟩)
      let progress := progress.prepare child site.position
      let value ← render writer child (some parent)
        ⟨progress.before, after.toList, progress.position⟩
      inlinesFrom writer parent site (next :: rest) (index + 1) (progress.push value)

end

/-! ## Containers -/

/-- Write the children of a node as blocks. -/
def blocks (writer : Writer) (node : Node) (position : Position) : Render (List Char) :=
  Render.counting (blocksFrom writer node node.children 0 position)

/-- Write the children of a node as inline content. -/
def inlines (writer : Writer) (node : Node) (site : Site) : Render (List Char) :=
  Render.counting (inlinesFrom writer node site node.children 0 ⟨[], site.before, site.position⟩)

/-- Write a node as one of a given kind, whatever handler is registered for it. -/
def renderAs (writer : Writer) (kind : Kind) (node : Node) (parent : Option Node) (site : Site) :
    Render (List Char) :=
  (Plan.layout kind).run writer.references writer.rules node parent site (writer.blocks node)
    (writer.inlines node)

/-- The first character of a node's text, at a site. -/
def peekAt (writer : Writer) (node : Node) (parent : Option Node) (site : Site) :
    Render (Option Char) :=
  writer.peek node (writer.render node parent site)

end Writer

end MarkdownWriter
