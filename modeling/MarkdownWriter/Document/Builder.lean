import MarkdownWriter.Document.Event

/-!
# Trees from events

A `Builder` holds the constructs that have begun but not ended, each with the children it has so
far, and the blocks that are complete at the top. Every event is a step of the builder, and every
sequence of events gives a tree: an end without a beginning changes nothing, and what is still open
at the end is closed.

In a tight list the parser reports no paragraphs. Inline content that stands directly in an item
therefore opens an implicit paragraph, which the next block or the end of the item closes.
-/

namespace MarkdownWriter

/-- A construct that has begun, as far as it is known before its end. -/
inductive Scope where
  | paragraph (implicit : Bool)
  | list (start : Option Nat)
  | item (spread : Bool)
  | code (lang attributes : Option String) (value : String)
  | html (value : String)
  | image (resource : Resource)
  | imageReference (association : Association) (form : ReferenceForm)
  /-- A construct that is known in full. -/
  | container (content : Container)
  deriving DecidableEq, Repr, Inhabited

/-- The numbers a list can start with are below this. -/
def startLimit : Nat := UInt32.size

namespace Scope

/-- The node of a construct that ends, with its children. A list is spread if one of its items is.
-/
def node (children : List Node) : Scope → Node
  | .paragraph _ => .branch .paragraph children
  | .list start =>
      .branch (.list {
        ordered := start.isSome
        start := start.filter (· < startLimit)
        spread := children.any fun item => item.spread?.getD false }) children
  | .item spread => .branch (.listItem spread) children
  | .code lang attributes value =>
      .leaf (.code {
        lang := lang
        attributes := attributes
        value := String.ofList (Text.dropFinalLineEnding value.toList) })
  | .html value => .leaf (.html (String.ofList (Text.dropFinalLineEnding value.toList)))
  | .image resource => .leaf (.image resource (String.ofList (Node.plainTexts children)))
  | .imageReference association form =>
      .leaf (.imageReference association form (String.ofList (Node.plainTexts children)))
  | .container content => .branch content children

/-- The construct a link begins. The url of an email address is completed. -/
def ofLink (target : Target) : Scope :=
  match target.form.reference? with
  | some form => .container (.linkReference (.ofLabel target.label) form)
  | none =>
      let url := if target.form == .email then "mailto:" ++ target.url else target.url
      .container (.link { url := url, title := nonEmpty (some target.title) })

/-- The construct an image begins. -/
def ofImage (target : Target) : Scope :=
  match target.form.reference? with
  | some form => .imageReference (.ofLabel target.label) form
  | none => .image { url := target.url, title := nonEmpty (some target.title) }

/-- The construct a tag begins. -/
def ofTag : Tag → Scope
  | .paragraph => .paragraph false
  | .heading level => .container (.heading level)
  | .blockquote => .container .blockquote
  | .code none => .code none none ""
  | .code (some info) => .code (splitInfo info).1 (splitInfo info).2 ""
  | .html => .html ""
  | .list start => .list start
  | .item => .item false
  | .emphasis => .container .emphasis
  | .strong => .container .strong
  | .link target => .ofLink target
  | .image target => .ofImage target

end Scope

/-- A construct that has begun, with its children so far, the latest first. -/
structure Frame where
  scope : Scope
  children : List Node := []
  deriving Repr, Inhabited

/-- Siblings, the latest first, with a text after them. Texts that follow each other are one. -/
def addText (text : String) : List Node → List Node
  | .leaf (.text value) :: nodes => .leaf (.text (value ++ text)) :: nodes
  | nodes => .leaf (.text text) :: nodes

/-- Add a text to a construct: to its value, if it has one, or to its children. -/
def Frame.addText (text : String) (frame : Frame) : Frame :=
  match frame.scope with
  | .code lang attributes value => { frame with scope := .code lang attributes (value ++ text) }
  | .html value => { frame with scope := .html (value ++ text) }
  | _ => { frame with children := MarkdownWriter.addText text frame.children }

/-- A document that is being built. -/
structure Builder where
  /-- The constructs that have begun, innermost first. -/
  frames : List Frame := []
  /-- The blocks at the top, the latest first. -/
  top : List Node := []
  deriving Repr, Inhabited

namespace Builder

/-- Whether no construct is open. -/
def atTop (builder : Builder) : Bool :=
  builder.frames.isEmpty

/-- Add a node to the innermost construct. -/
def push (node : Node) (builder : Builder) : Builder :=
  match builder.frames with
  | frame :: frames =>
      { builder with frames := { frame with children := node :: frame.children } :: frames }
  | [] => { builder with top := node :: builder.top }

/-- Add a text to the innermost construct. -/
def pushText (text : String) (builder : Builder) : Builder :=
  match builder.frames with
  | frame :: frames => { builder with frames := frame.addText text :: frames }
  | [] => { builder with top := addText text builder.top }

/-- Begin a construct. -/
def openScope (scope : Scope) (builder : Builder) : Builder :=
  { builder with frames := { scope := scope } :: builder.frames }

/-- End the innermost construct. -/
def close (builder : Builder) : Builder :=
  match builder.frames with
  | frame :: frames =>
      { builder with frames := frames }.push (frame.scope.node frame.children.reverse)
  | [] => builder

/-- Begin a paragraph if inline content stands directly in an item. -/
def ensureParagraph (builder : Builder) : Builder :=
  match builder.frames with
  | ⟨.item _, _⟩ :: _ => builder.openScope (.paragraph true)
  | _ => builder

/-- End the innermost construct if it is an implicit paragraph. -/
def closeImplicit (builder : Builder) : Builder :=
  match builder.frames with
  | ⟨.paragraph true, _⟩ :: _ => builder.close
  | _ => builder

/-- Spread the item that is the innermost construct, if one is. -/
def spreadItem (builder : Builder) : Builder :=
  match builder.frames with
  | ⟨.item _, children⟩ :: frames => { builder with frames := ⟨.item true, children⟩ :: frames }
  | _ => builder

/-- Begin the construct of a tag. A paragraph that is reported in an item makes the item spread. -/
def start (tag : Tag) (builder : Builder) : Builder :=
  let builder := if tag.isBlock then builder.closeImplicit else builder.ensureParagraph
  let builder := if tag = .paragraph then builder.spreadItem else builder
  builder.openScope (.ofTag tag)

/-- Go on by one event. -/
def step (builder : Builder) : Event → Builder
  | .start tag _ => builder.start tag
  | .finish true => builder.close
  | .finish false => builder.closeImplicit.close
  | .text value => builder.ensureParagraph.pushText value
  | .code value => builder.ensureParagraph.push (.leaf (.inlineCode value))
  | .html value => builder.pushText value
  | .inlineHtml value => builder.ensureParagraph.push (.leaf (.html value))
  | .softBreak => builder.ensureParagraph.pushText "\n"
  | .hardBreak => builder.ensureParagraph.push (.leaf .hardBreak)
  | .rule _ => builder.closeImplicit.push (.leaf .thematicBreak)

/-- Close a number of constructs, or as many as there are. -/
def closeAll : Nat → Builder → Builder
  | 0, builder => builder
  | count + 1, builder => closeAll count builder.close

/-- The tree of all that was built. -/
def finish (builder : Builder) : Node :=
  .branch .root (builder.closeAll builder.frames.length).top.reverse

end Builder

/-! ## Definitions -/

/-- A document that is being built, with the definitions that are still to be placed, in the order
of the source. -/
structure Placement where
  pending : List Reference
  builder : Builder := {}

namespace Placement

/-- Whether a definition comes before an offset. -/
def isBefore (offset : Nat) (reference : Reference) : Bool :=
  reference.offset < offset

/-- Go on by one event. Before a block begins at the top, the definitions that come before it are
placed. -/
def step (placement : Placement) (event : Event) : Placement :=
  match placement.builder.atTop, event.blockOffset? with
  | true, some offset =>
      let due := placement.pending.takeWhile (isBefore offset)
      { pending := placement.pending.dropWhile (isBefore offset)
        builder := (due.foldl (fun builder reference => builder.push reference.node)
          placement.builder).step event }
  | _, _ => { placement with builder := placement.builder.step event }

/-- Place the definitions that are left and finish the tree. -/
def finish (placement : Placement) : Node :=
  (placement.pending.foldl (fun builder reference => builder.push reference.node)
    placement.builder).finish

end Placement

/-- The tree of a document, from its definitions and events. -/
def Node.ofEvents (definitions : List Reference) (events : List Event) : Node :=
  (events.foldl Placement.step { pending := definitions.mergeSort fun a b =>
    a.offset ≤ b.offset }).finish

end MarkdownWriter
