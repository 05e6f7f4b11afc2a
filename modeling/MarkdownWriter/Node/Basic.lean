import MarkdownWriter.Text.Lines
import MarkdownWriter.Text.Reference

/-!
# Document trees

A Markdown document is a tree of blocks and inline content. A node is either a leaf, whose fields
say all about it, or a container of further nodes; what kind of leaf or container it is, is one
value of `Leaf` or `Container`. A recursion over documents therefore has two cases, and one more for
the list of children.

* **Kinds** (`Kind`): the nodes that this library has a rule for, with the names that handlers are
  registered under. A custom node has a name of its own and none of these kinds, even if the name is
  that of one (`Container.kind?`).
* **Associations** (`Association`): what ties a reference to its definition. Where no label is known
  the identifier is read as Markdown, with a table of references (`Association.text`).
* **Questions** that the layouts ask about a tree: its text without markup (`Node.plainText`), and
  whether there is a line ending in it (`Node.hasLiteralBreak`).
-/

namespace MarkdownWriter

/-! ## What kinds of nodes have in common -/

/-- How a reference names its definition: by its text alone (`[text]`), by its text with empty
brackets after it (`[text][]`), or by a label of its own (`[text][label]`). -/
inductive ReferenceForm where
  | shortcut
  | collapsed
  | full
  deriving DecidableEq, Repr, Inhabited

/-- What ties a reference to its definition: the normalised identifier and, if it is known, the
label as it was written. -/
structure Association where
  identifier : String := ""
  label : Option String := none
  deriving DecidableEq, Repr, Inhabited

/-- The label to write: the one of the source, or else the identifier with its escapes and the
references of a table resolved. -/
def Association.text (association : Association) (references : Text.References) : List Char :=
  match association.label with
  | some label =>
      if label.isEmpty then Text.decodeWith references association.identifier.toList
        else label.toList
  | none => Text.decodeWith references association.identifier.toList

/-- Where a link or image leads to. -/
structure Resource where
  url : String := ""
  title : Option String := none
  deriving DecidableEq, Repr, Inhabited

/-- An optional text, if it is there and not empty. -/
def nonEmpty (text : Option String) : Option String :=
  text.filter (!·.isEmpty)

theorem nonEmpty_eq_some_iff {text : Option String} {value : String} :
    nonEmpty text = some value ↔ text = some value ∧ value ≠ "" := by
  simp [nonEmpty, Option.filter_eq_some_iff]

/-- A code block with the two parts of its info string: the language, and what follows it. -/
structure CodeBlock where
  lang : Option String := none
  attributes : Option String := none
  value : String := ""
  deriving DecidableEq, Repr, Inhabited

/-- A list without its items. -/
structure ListStyle where
  ordered : Bool := false
  /-- The number of the first item of an ordered list, 1 unless given. -/
  start : Option Nat := none
  spread : Bool := false
  deriving DecidableEq, Repr, Inhabited

/-! ## Nodes -/

/-- The nodes without children. -/
inductive Leaf where
  | thematicBreak
  | html (value : String)
  | code (block : CodeBlock)
  | definition (association : Association) (resource : Resource)
  | text (value : String)
  | inlineCode (value : String)
  | hardBreak
  | image (resource : Resource) (alt : String)
  | imageReference (association : Association) (form : ReferenceForm) (alt : String)
  deriving DecidableEq, Repr, Inhabited

/-- The nodes with children. -/
inductive Container where
  | root
  | paragraph
  /-- The depth may be any number; a heading is written with a rank from 1 to 6. -/
  | heading (depth : Nat)
  | blockquote
  | list (style : ListStyle)
  | listItem (spread : Bool)
  | emphasis
  | strong
  | link (resource : Resource)
  | linkReference (association : Association) (form : ReferenceForm)
  /-- A node this library has no rule for; `kind` selects the handler an extension registered. -/
  | custom (kind : String) (value : Option String)
  deriving DecidableEq, Repr, Inhabited

/-- A node of a document. -/
inductive Node where
  | leaf (content : Leaf)
  | branch (content : Container) (children : List Node)
  deriving Repr, Inhabited

/-! ## Kinds -/

/-- The kinds of nodes this library has a rule for. -/
inductive Kind where
  | blockquote
  | hardBreak
  | code
  | definition
  | emphasis
  | heading
  | html
  | image
  | imageReference
  | inlineCode
  | link
  | linkReference
  | list
  | listItem
  | paragraph
  | root
  | strong
  | text
  | thematicBreak
  deriving DecidableEq, Repr, Inhabited

/-- All kinds, in alphabetical order of their names. -/
def Kind.all : List Kind :=
  [.blockquote, .hardBreak, .code, .definition, .emphasis, .heading, .html, .image, .imageReference,
    .inlineCode, .link, .linkReference, .list, .listItem, .paragraph, .root, .strong, .text,
    .thematicBreak]

/-- The name handlers are registered under. -/
def Kind.name : Kind → String
  | .blockquote => "blockquote"
  | .hardBreak => "break"
  | .code => "code"
  | .definition => "definition"
  | .emphasis => "emphasis"
  | .heading => "heading"
  | .html => "html"
  | .image => "image"
  | .imageReference => "imageReference"
  | .inlineCode => "inlineCode"
  | .link => "link"
  | .linkReference => "linkReference"
  | .list => "list"
  | .listItem => "listItem"
  | .paragraph => "paragraph"
  | .root => "root"
  | .strong => "strong"
  | .text => "text"
  | .thematicBreak => "thematicBreak"

/-- The kind with a given name. -/
def Kind.ofName? (name : String) : Option Kind :=
  Kind.all.find? (·.name == name)

/-- The kind of a leaf. -/
def Leaf.kind : Leaf → Kind
  | .thematicBreak => .thematicBreak
  | .html _ => .html
  | .code _ => .code
  | .definition _ _ => .definition
  | .text _ => .text
  | .inlineCode _ => .inlineCode
  | .hardBreak => .hardBreak
  | .image _ _ => .image
  | .imageReference _ _ _ => .imageReference

/-- The kind of a container; a custom one has none of the known kinds, whatever its name. -/
def Container.kind? : Container → Option Kind
  | .root => some .root
  | .paragraph => some .paragraph
  | .heading _ => some .heading
  | .blockquote => some .blockquote
  | .list _ => some .list
  | .listItem _ => some .listItem
  | .emphasis => some .emphasis
  | .strong => some .strong
  | .link _ => some .link
  | .linkReference _ _ => some .linkReference
  | .custom _ _ => none

/-! ## Literal values -/

/-- The literal text of a leaf that carries one. -/
def Leaf.value? : Leaf → Option String
  | .html value => some value
  | .code block => some block.value
  | .text value => some value
  | .inlineCode value => some value
  | _ => none

/-- The literal text of a custom node that carries one. -/
def Container.value? : Container → Option String
  | .custom _ value => value
  | _ => none

namespace Node

/-- The kind of a node, unless it is a custom one. -/
def kind? : Node → Option Kind
  | .leaf content => some content.kind
  | .branch content _ => content.kind?

/-- The name a node's handler is looked up by. -/
def kindName : Node → String
  | .leaf content => content.kind.name
  | .branch (.custom kind _) _ => kind
  | .branch content _ => (content.kind?.map Kind.name).getD ""

/-- The children of a node; a leaf has none. -/
def children : Node → List Node
  | .leaf _ => []
  | .branch _ children => children

/-! ## Questions about a node's contents -/

/-- The literal text of a node that carries one. -/
def value? : Node → Option String
  | .leaf content => content.value?
  | .branch content _ => content.value?

/-- Whether a node is inline content. Raw HTML and custom nodes are not counted, as they can be
either. -/
def isPhrasing : Node → Bool
  | .leaf .hardBreak | .leaf (.image ..) | .leaf (.imageReference ..) | .leaf
    (.inlineCode _) | .leaf (.text _) => true
  | .branch .emphasis _ | .branch (.link _) _ | .branch (.linkReference ..) _ | .branch .strong _ =>
      true
  | _ => false

/-- Whether some child is inline content. -/
def hasPhrasingChild (node : Node) : Bool :=
  node.children.any isPhrasing

/-- Whether a list or list item puts blank lines between its children; other nodes do not say. -/
def spread? : Node → Option Bool
  | .branch (.list style) _ => some style.spread
  | .branch (.listItem spread) _ => some spread
  | _ => none

/-- Whether a node is a list. -/
def isList : Node → Bool
  | .branch (.list _) _ => true
  | _ => false

/-- Whether a node is a paragraph. -/
def isParagraph : Node → Bool
  | .branch .paragraph _ => true
  | _ => false

/-- Whether a node is a literal text. -/
def isText : Node → Bool
  | .leaf (.text _) => true
  | _ => false

/-- Whether a node is raw HTML. -/
def isHtml : Node → Bool
  | .leaf (.html _) => true
  | _ => false

mutual

/-- The text content of a node without any markup: its literal value, an image's alternative text,
or what its children contain. -/
def plainText : Node → List Char
  | .leaf (.image _ alt) => alt.toList
  | .leaf (.imageReference _ _ alt) => alt.toList
  | .leaf content => (content.value?.getD "").toList
  | .branch content children =>
      match content.value? with
      | some value => value.toList
      | none => plainTexts children

/-- The text content of several nodes, one after the other. -/
def plainTexts : List Node → List Char
  | [] => []
  | node :: nodes => node.plainText ++ plainTexts nodes

end

mutual

/-- Whether a node holds a line ending: a hard break, or a literal value that spans lines. -/
def hasLiteralBreak : Node → Bool
  | .leaf .hardBreak => true
  | .leaf content => content.value?.any (Text.hasLineEnding ·.toList)
  | .branch content children =>
      content.value?.any (Text.hasLineEnding ·.toList) || anyLiteralBreak children

/-- Whether one of several nodes holds a line ending. -/
def anyLiteralBreak : List Node → Bool
  | [] => false
  | node :: nodes => node.hasLiteralBreak || anyLiteralBreak nodes

end

end Node

end MarkdownWriter
