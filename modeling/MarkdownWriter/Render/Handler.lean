import MarkdownWriter.Layout.Block
import MarkdownWriter.Layout.Code
import MarkdownWriter.Layout.Link
import MarkdownWriter.Render.Join

/-!
# Handlers

Every kind of node is written by the handler registered under its name. A handler looks at the node,
its parent, the state and the site and says what to do (`Plan`): write a given text, refuse the
node, render the children in one of the two ways, or leave the node to the library's own layout of
some kind. Such steps can be done one after the other, each of them told what the one before it has
written, with further constructs open and at other sites. What a handler says is data, so that
rendering stays a recursion over the tree: of nodes, a handler has only the children of its own node
rendered, and it neither changes the style nor goes on behind a failure.

A handler may also know the first character it will write without rendering anything (`peek`);
neighbours are escaped against that character.
-/

namespace MarkdownWriter

/-- What a handler wants done. -/
inductive Plan where
  /-- Write this text. -/
  | text (value : List Char)
  /-- Write this text, escaped for what stands around it. -/
  | literal (value : List Char) (around : Surroundings)
  /-- Refuse the node. -/
  | refuse (error : RenderError)
  /-- Render the children as blocks. -/
  | blocks
  /-- Render the children as inline content. -/
  | inline
  /-- Write the node as one of the given kind; it has to be one. -/
  | layout (kind : Kind)
  /-- Do something with one more construct open. -/
  | entering (construct : Construct) (plan : Plan)
  /-- Do something as if no construct were open. -/
  | isolated (plan : Plan)
  /-- Do something at another site. -/
  | placed (site : Site) (plan : Plan)
  /-- Do something, and then something else that may depend on the text. -/
  | andThen (plan : Plan) (next : List Char → Plan)
  deriving Inhabited

/-- A handler. -/
structure Handler where
  /-- What to do with a node, given its parent. -/
  plan : Node → Option Node → State → Site → Plan
  /-- The first character that will be written, if it is known. -/
  peek : Node → State → Except RenderError (Option Char) := fun _ _ => .ok none

/-! ## The handlers of the known kinds -/

/-- The first character a node of a known kind is written with, where the kind alone, or for links
their form, tells. -/
def Kind.peek (kind : Kind) (node : Node) (style : Style) : Except StyleError (Option Char) :=
  match kind with
  | .emphasis => some <$> style.emphasisMarker
  | .strong => some <$> style.strongMarker
  | .html => .ok (some '<')
  | .image | .imageReference => .ok (some '!')
  | .inlineCode => .ok (some '\x60')
  | .linkReference => .ok (some '[')
  | .link =>
      match node with
      | .branch (.link resource) children =>
          .ok (some (if resource.isAutolink style children then '<' else '['))
      | _ => .ok none
  | _ => .ok none

/-- The library's own handler of a kind. -/
def Kind.handler (kind : Kind) : Handler where
  plan := fun _ _ _ _ => .layout kind
  peek := fun node state => (kind.peek node state.style).mapError .style

namespace Handler

/-- The handlers of all known kinds, by name. -/
def defaults : List (String × Handler) :=
  Kind.all.map fun kind => (kind.name, kind.handler)

end Handler

/-! ## Layouts by kind -/

/-- Write a leaf. -/
def Leaf.layout (references : Text.References) (rules : List Rule) (site : Site) :
    Leaf → Render (List Char)
  | .thematicBreak => Layout.thematicBreak
  | .html value => pure value.toList
  | .code block => Layout.code rules block
  | .definition association resource =>
      Layout.definition rules (association.text references) resource
  | .text value => Layout.text rules value.toList site
  | .inlineCode value => pure (Layout.codeSpan rules value.toList)
  | .hardBreak => Layout.hardBreak rules site
  | .image resource alt => Layout.image rules resource alt.toList
  | .imageReference association form alt =>
      Layout.imageReference rules (association.text references) form alt.toList

/-- Write a container with the given children, of a known kind. A root with inline content in it is
inline content itself. A custom node has no layout. -/
def Container.layout (references : Text.References) (rules : List Rule) (children : List Node)
    (parent : Option Node) (site : Site) (blocks : Blocks) (inline : Inline) : Container →
      Render (List Char)
  | .root => if children.any Node.isPhrasing then inline site else blocks site.position
  | .paragraph => Layout.paragraph site inline
  | .heading depth => Layout.heading (.branch (.heading depth) children) depth site inline
  | .blockquote => Layout.blockquote site blocks
  | .list style => Layout.list style children parent.isSome site blocks
  | .listItem spread => Layout.listItem spread parent site blocks
  | .emphasis => Layout.emphasis site inline
  | .strong => Layout.strong site inline
  | .link resource => Layout.link rules resource children site inline
  | .linkReference association form =>
      Layout.linkReference rules (association.text references) form site inline
  | .custom _ _ => pure []

/-- Write a node, given how to render its children. -/
def Node.layout (references : Text.References) (rules : List Rule) (parent : Option Node)
    (site : Site) (blocks : Blocks) (inline : Inline) : Node → Render (List Char)
  | .leaf content => content.layout references rules site
  | .branch content children => content.layout references rules children parent site blocks inline

/-- Do what a handler wants done with a node, given how to render its children. -/
def Plan.run (references : Text.References) (rules : List Rule) (node : Node) (parent : Option Node)
    (site : Site) (blocks : Blocks) (inline : Inline) : Plan → Render (List Char)
  | .text value => pure value
  | .literal value around => Render.literal rules value around
  | .refuse error => throw error
  | .blocks => blocks site.position
  | .inline => inline site
  | .layout kind =>
      if node.kind? = some kind then node.layout references rules parent site blocks inline
      else throw (.mismatchedNode kind node.kindName)
  | .entering construct plan =>
      Render.entering construct (plan.run references rules node parent site blocks inline)
  | .isolated plan => Render.isolated (plan.run references rules node parent site blocks inline)
  | .placed site plan => plan.run references rules node parent site blocks inline
  | .andThen plan next => do
      let text ← plan.run references rules node parent site blocks inline
      (next text).run references rules node parent site blocks inline

end MarkdownWriter
