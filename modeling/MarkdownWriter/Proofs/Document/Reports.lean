import MarkdownWriter.Document.Builder

/-!
# What a parser reports of a tree

A CommonMark parser reports blocks one after the other, with the events of what is in them between
their beginning and their end (`RowReport`, `BlockReport`), and inline content in the same way
(`InlineReport`). The same tree can be reported in several ways: a text in one piece or in several,
a link as it was written, a block with any offset.

A paragraph that stands directly in an item is reported by the events of its inline content alone,
unless the item is spread. It then has some content and no other paragraph next to it, as nothing
would tell them apart; two texts that touch are likewise one text.
-/

namespace MarkdownWriter

open Text

/-! ## Inline content -/

/-- A text is reported in pieces. A line feed may be a soft break. -/
inductive TextReport : String → List Event → Prop
  | nil : TextReport "" []
  | text (piece : String) {rest : String} {events : List Event} (h : TextReport rest events) :
      TextReport (piece ++ rest) (.text piece :: events)
  | softBreak {rest : String} {events : List Event} (h : TextReport rest events) :
      TextReport ("\n" ++ rest) (.softBreak :: events)

/-- The form of a link that is a reference of a given form. -/
def ReferenceForm.linkForm : ReferenceForm → LinkForm
  | .full => .reference
  | .collapsed => .collapsed
  | .shortcut => .shortcut

/-- A link that leads to a resource. The parser reports a title that is not there as an empty one,
and the address of an email link without its scheme. -/
structure Target.LeadsTo (target : Target) (resource : Resource) : Prop where
  form : target.form ∈ [LinkForm.inline, .autolink, .email]
  url : resource.url = (if target.form = .email then "mailto:" else "") ++ target.url
  title : resource.title.getD "" = target.title
  title_ne : resource.title ≠ some ""

/-- A link that refers to a definition. -/
structure Target.RefersTo (target : Target) (association : Association) (form : ReferenceForm) :
    Prop where
  form : target.form = form.linkForm
  label : association.label = some target.label
  identifier : association.identifier = normalizeLabel target.label

/-- The tags of the containers of inline content. -/
inductive Container.InlineTag : Container → Tag → Prop
  | emphasis : InlineTag .emphasis .emphasis
  | strong : InlineTag .strong .strong
  | link {target : Target} {resource : Resource} (h : target.LeadsTo resource) :
      InlineTag (.link resource) (.link target)
  | linkReference {target : Target} {association : Association} {form : ReferenceForm}
      (h : target.RefersTo association form) : InlineTag (.linkReference association form)
      (.link target)

/-- The tags of the leaves that have an alternative text. -/
inductive Leaf.ImageTag : Leaf → String → Tag → Prop
  | image {target : Target} {resource : Resource} {alt : String} (hform : target.form = .inline)
      (h : target.LeadsTo resource) : ImageTag (.image resource alt) alt (.image target)
  | imageReference {target : Target} {association : Association} {form : ReferenceForm}
    {alt : String} (h : target.RefersTo association form) :
    ImageTag (.imageReference association form alt) alt (.image target)

/-- The event of a leaf that is reported by one event whatever it holds. -/
def Leaf.event? : Leaf → Option Event
  | .inlineCode value => some (.code value)
  | .html value => some (.inlineHtml value)
  | .hardBreak => some .hardBreak
  | _ => none

/-- Inline content is reported node by node. -/
inductive InlineReport : List Node → List Event → Prop
  | nil : InlineReport [] []
  | text {value : String} {rest : List Node} {report events : List Event} (hvalue : value ≠ "")
      (htext : TextReport value report) (hrest : rest.head?.any Node.isText = false)
      (h : InlineReport rest events) :
      InlineReport (.leaf (.text value) :: rest) (report ++ events)
  | leaf {content : Leaf} {event : Event} {rest : List Node} {events : List Event}
      (hevent : content.event? = some event) (h : InlineReport rest events) :
        InlineReport (.leaf content :: rest) (event :: events)
  | image {content : Leaf} {alt : String} {tag : Tag} {rest : List Node}
    {report events : List Event} (offset : Nat) (htag : content.ImageTag alt tag)
    (htext : TextReport alt report) (h : InlineReport rest events) :
      InlineReport (.leaf content :: rest)
        (.start tag offset :: (report ++ .finish false :: events))
  | branch {content : Container} {tag : Tag} {children rest : List Node}
    {report events : List Event} (offset : Nat) (htag : content.InlineTag tag)
    (hchildren : InlineReport children report) (h : InlineReport rest events) :
      InlineReport (.branch content children :: rest)
        (.start tag offset :: (report ++ .finish false :: events))

/-! ## Blocks -/

/-- What blocks stand in. -/
inductive Row where
  /-- A root, a quote or a spread item; its paragraphs are reported as such. -/
  | tagged
  /-- An item that is not spread; its paragraphs are reported by their contents alone. -/
  | bare
  /-- A list, which only items stand in. -/
  | items
  deriving DecidableEq, Repr

/-- The row the blocks of an item stand in. -/
def Row.ofItem (spread : Bool) : Row :=
  if spread then .tagged else .bare

mutual

/-- A block that is no paragraph is reported by an event of its own, or between its beginning and
its end. The text of code and of raw HTML may come in pieces and has a line ending behind it, one of
those that may stand behind it according to `ends`. -/
inductive BlockReport (ends : String → LineEnding → Prop) : Node → List Event → Prop
  | thematicBreak (offset : Nat) : BlockReport ends (.leaf .thematicBreak) [.rule offset]
  | heading {depth : Nat} {children : List Node} {report : List Event} (offset : Nat)
    (hdepth : 1 ≤ depth ∧ depth ≤ 6) (h : InlineReport children report) :
      BlockReport ends (.branch (.heading depth) children)
        (.start (.heading depth) offset :: (report ++ [.finish false]))
  | blockquote {children : List Node} {report : List Event} (offset : Nat)
      (h : RowReport ends .tagged children report) :
      BlockReport ends (.branch .blockquote children)
        (.start .blockquote offset :: (report ++ [.finish false]))
  | code {block : CodeBlock} {info : Option String} {ending : LineEnding} {pieces : List String}
      (offset : Nat) (hinfo : (block.lang, block.attributes) = info.elim (none, none) splitInfo)
      (hends : ends block.value ending)
      (htext : String.join pieces = block.value ++ String.ofList ending.toText) :
      BlockReport ends (.leaf (.code block))
        (.start (.code info) offset :: (pieces.map .text ++ [.finish false]))
  | html {value : String} {ending : LineEnding} {pieces : List String} (offset : Nat)
      (hends : ends value ending)
      (htext : String.join pieces = value ++ String.ofList ending.toText) :
      BlockReport ends (.leaf (.html value))
        (.start .html offset :: (pieces.map .html ++ [.finish false]))
  | list {style : ListStyle} {items : List Node} {report : List Event} (offset : Nat)
      (hordered : style.ordered = style.start.isSome)
      (hstart : ∀ start ∈ style.start, start < startLimit)
      (hspread : style.spread = items.any fun item => item.spread? == some true)
      (h : RowReport ends .items items report) :
      BlockReport ends (.branch (.list style) items)
        (.start (.list style.start) offset :: (report ++ [.finish false]))

/-- Blocks in a row are reported one after the other. An item that is spread has a paragraph in it.
-/
inductive RowReport (ends : String → LineEnding → Prop) : Row → List Node → List Event → Prop
  | nil {row : Row} : RowReport ends row [] []
  | block {row : Row} {node : Node} {rest : List Node} {report events : List Event}
    (hrow : row ≠ .items) (hnode : BlockReport ends node report)
    (h : RowReport ends row rest events) :
      RowReport ends row (node :: rest) (report ++ events)
  | paragraph {children rest : List Node} {report events : List Event} (offset : Nat)
      (hchildren : InlineReport children report) (h : RowReport ends .tagged rest events) :
      RowReport ends .tagged (.branch .paragraph children :: rest)
        (.start .paragraph offset :: (report ++ .finish true :: events))
  | bareParagraph {children rest : List Node} {report events : List Event} (hne : children ≠ [])
      (hchildren : InlineReport children report) (hrest : rest.head?.any Node.isParagraph = false)
      (h : RowReport ends .bare rest events) :
      RowReport ends .bare (.branch .paragraph children :: rest) (report ++ events)
  | item {spread : Bool} {children rest : List Node} {report events : List Event} (offset : Nat)
      (hspread : spread = true → children.any Node.isParagraph = true)
      (hchildren : RowReport ends (.ofItem spread) children report)
      (h : RowReport ends .items rest events) :
      RowReport ends .items (.branch (.listItem spread) children :: rest)
        (.start .item offset :: (report ++ .finish false :: events))

end

end MarkdownWriter
