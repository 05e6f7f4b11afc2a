import MarkdownWriter.Node.Basic
import MarkdownWriter.Text.Record

/-!
# Nodes in messages

A message about a node that cannot be written shows the whole node in the notation of `Text.Record`.
-/

namespace MarkdownWriter

open Text

/-- The name of a reference form in a message. -/
def ReferenceForm.description : ReferenceForm → List Char
  | .shortcut => "Shortcut".toList
  | .collapsed => "Collapsed".toList
  | .full => "Full".toList

/-- The fields of an association. -/
def Association.fields (association : Association) : List (String × List Char) :=
  [("identifier", quotedString association.identifier), ("label", maybeString association.label)]

/-- The fields of a resource. -/
def Resource.fields (resource : Resource) : List (String × List Char) :=
  [("url", quotedString resource.url), ("title", maybeString resource.title)]

/-- A leaf in a message. -/
def Leaf.description : Leaf → List Char
  | .thematicBreak => "ThematicBreak".toList
  | .html value => variant "Html" [("value", quotedString value)]
  | .code block =>
      variant "Code" [("lang", maybeString block.lang), ("meta", maybeString block.attributes),
        ("value", quotedString block.value)]
  | .definition association resource => variant "Definition" (association.fields ++ resource.fields)
  | .text value => variant "Text" [("value", quotedString value)]
  | .inlineCode value => variant "InlineCode" [("value", quotedString value)]
  | .hardBreak => "Break".toList
  | .image resource alt => variant "Image" (resource.fields ++ [("alt", quotedString alt)])
  | .imageReference association form alt =>
      variant "ImageReference"
        (association.fields ++ [("reference_type", form.description), ("alt", quotedString alt)])

/-- A container in a message: the name of its record and the fields in front of the children. -/
def Container.description : Container → String × List (String × List Char)
  | .root => ("Root", [])
  | .paragraph => ("Paragraph", [])
  | .heading depth => ("Heading", [("depth", decimal depth)])
  | .blockquote => ("Blockquote", [])
  | .list style =>
      ("List", [("ordered", flag style.ordered), ("start", maybe (style.start.map decimal)),
        ("spread", flag style.spread)])
  | .listItem spread => ("ListItem", [("spread", flag spread)])
  | .emphasis => ("Emphasis", [])
  | .strong => ("Strong", [])
  | .link resource => ("Link", resource.fields)
  | .linkReference association form =>
      ("LinkReference", association.fields ++ [("reference_type", form.description)])
  | .custom kind value => ("Custom", [("kind", quotedString kind), ("value", maybeString value)])

mutual

/-- A node in a message. -/
def Node.description : Node → List Char
  | .leaf content => content.description
  | .branch content children =>
      variant content.description.1 (content.description.2 ++
        [("children", listing (Node.descriptions children))])

/-- Several nodes in a message. -/
def Node.descriptions : List Node → List (List Char)
  | [] => []
  | node :: nodes => node.description :: Node.descriptions nodes

end

end MarkdownWriter
