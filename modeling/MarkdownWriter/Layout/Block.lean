import MarkdownWriter.Layout.Literal
import MarkdownWriter.Render.Form
import MarkdownWriter.Text.Record

/-!
# Headings, rules, quotes and lists

Block quotes and list items put something in front of every line of their contents, and leave the
line endings alone.

A list takes its other marker where the usual one would be misread: after a sibling list with the
same marker, where nested empty items would line up to a thematic break, and where an item begins
with a thematic break of the same character. An item indents its contents by the width of the widest
marker of its list.
-/

namespace MarkdownWriter.Layout

open Text

/-! ## Headings -/

/-- An underlined heading. The underline is as long as the last line of the text. -/
def setextHeading (rank : Nat) (site : Site) (inline : Inline) : Render (List Char) := do
  let value ← Render.entering .headingSetext
    (Render.entering .phrasing (inline ⟨['\n'], ['\n'], site.position⟩))
  let width := (Lines.ofText value).last.length
  return value ++ '\n' :: List.replicate width (if rank == 1 then '=' else '-')

/-- A text whose first character, if it is a space or tab, is written as a reference. -/
def keepLeadingSpace : List Char → List Char
  | c :: text => if isSpacing c then characterReference c ++ text else c :: text
  | [] => []

/-- A heading after `#` marks. -/
def atxHeading (rank : Nat) (site : Site) (inline : Inline) : Render (List Char) := do
  let marks := List.replicate rank '#'
  let value ← Render.entering .headingAtx
    (Render.entering .phrasing (inline ⟨['#', ' '], ['\n'],
      (site.position.advance marks).advance [' ']⟩))
  let value := keepLeadingSpace value
  let opened := if value.isEmpty then marks else marks ++ ' ' :: value
  return if (← get).style.closesAtx then opened ++ ' ' :: marks else opened

/-- A heading; `node` is the whole of it. -/
def heading (node : Node) (depth : Nat) (site : Site) (inline : Inline) : Render (List Char) := do
  if node.isSetext (← get).style then setextHeading (headingRank depth) site inline
  else atxHeading (headingRank depth) site inline

/-! ## Rules and quotes -/

/-- A thematic break. -/
def thematicBreak : Render (List Char) := do
  let marker ← Render.ofStyle Style.ruleMarker
  let count ← Render.ofStyle Style.ruleLength
  let marks := List.replicate count marker
  return if (← get).style.spacesRules then marks.intersperse ' ' else marks

/-- What a block quote puts in front of a line; a blank one gets no space. -/
def quoteLine (line : List Char) : List Char :=
  if line.isEmpty then ['>'] else '>' :: ' ' :: line

/-- A block quote. -/
def blockquote (site : Site) (blocks : Blocks) : Render (List Char) :=
  Render.entering .blockquote do
    let value ← blocks ((site.position.advance ['>', ' ']).shift 2)
    return mapLines (fun _ line => quoteLine line) value

/-! ## Lists -/

/-- Whether the list just opened is the first child of a first item of a list that is itself the
first child of a first item. -/
def isNestedFirst (state : State) : Bool :=
  match state.constructs, state.indexes with
  | .list :: .listItem :: .list :: .listItem :: _, 0 :: 0 :: 0 :: _ => true
  | _, _ => false

/-- Whether a node is a list item that begins with a thematic break. -/
def beginsWithRule : Node → Bool
  | .branch (.listItem _) (.leaf .thematicBreak :: _) => true
  | _ => false

/-- Whether markers of an unordered list could be taken for a thematic break. -/
def looksLikeRule (bullet : Char) (items : List Node) : Render Bool := do
  let nested := (bullet == '*' || bullet == '-') && items.head?.any (·.children.isEmpty) &&
    isNestedFirst (← get)
  if items.any beginsWithRule then
    return (← Render.ofStyle Style.ruleMarker) == bullet || nested
  else return nested

/-- A list. -/
def list (style : ListStyle) (items : List Node) (hasParent : Bool) (site : Site)
    (blocks : Blocks) : Render (List Char) := do
  let usual ← Render.ofStyle (if style.ordered then Style.delimiter else Style.bulletMarker)
  let other ← Render.ofStyle
    (if style.ordered then Style.otherDelimiter else Style.otherBulletMarker)
  let chosen := (← get).style
  let configured := (if style.ordered then chosen.bulletOrderedOther else chosen.bulletOther).isSome
  Render.entering .list do
    let state ← get
    let merges := hasParent && configured && state.bulletLastUsed == some usual
    let misread ← if style.ordered then pure false else looksLikeRule usual items
    let bullet := if merges || misread then other else usual
    modify fun state => { state with bulletCurrent := some bullet }
    let value ← blocks site.position
    modify fun after =>
      { after with bulletLastUsed := some bullet, bulletCurrent := state.bulletCurrent }
    return value

/-! ## List items -/

/-- The number of the item with the given index. -/
def itemNumber (increments : Bool) (style : ListStyle) (index : Nat) : Nat :=
  style.start.getD 1 + if increments then index else 0

/-- The marker of an item, and the width of the widest marker in its list. -/
def itemMarker (increments : Bool) (bullet : Char) (parent : Option Node) (index : Nat) :
    List Char × Nat :=
  match parent with
  | some (.branch (.list style) items) =>
      if style.ordered then
        let marker (index : Nat) := decimal (itemNumber increments style index) ++ [bullet]
        (marker index, max (marker (items.length - 1)).length (marker index).length)
      else ([bullet], 1)
  | _ => ([bullet], 1)

/-- The columns between tab stops. -/
def tabSize : Nat := 4

/-- The columns the contents of an item are indented by, for the width of the widest marker. -/
def itemSize (indent : ItemIndent) (spread : Bool) (widest : Nat) : Nat :=
  let size := widest + 1
  let rounded := (size + tabSize - 1) / tabSize * tabSize
  match indent with
  | .tab => rounded
  | .one => size
  | .mixed => if spread then rounded else size

/-- A line of an item: the first one after the marker, the others indented; blank lines get no
spaces. -/
def itemLine (marker : List Char) (size index : Nat) (line : List Char) : List Char :=
  if index = 0 then
    if line.isEmpty then marker else marker ++ List.replicate (size - marker.length) ' ' ++ line
  else if line.isEmpty then [] else List.replicate size ' ' ++ line

/-- A list item. -/
def listItem (spread : Bool) (parent : Option Node) (site : Site) (blocks : Blocks) :
    Render (List Char) := do
  let state ← get
  let bullet ← match state.bulletCurrent with
    | some bullet => pure bullet
    | none => Render.ofStyle Style.bulletMarker
  let (marker, widest) :=
    itemMarker state.style.incrementsMarkers bullet parent (state.indexes.head?.getD 0)
  let isSpread := spread || match parent with
    | some (.branch (.list style) _) => style.spread
    | _ => false
  let size := itemSize state.style.itemIndent isSpread widest
  let firstLine := marker ++ List.replicate (size - marker.length) ' '
  Render.entering .listItem do
    let value ← blocks ((site.position.advance firstLine).shift size)
    return mapLines (itemLine marker size) value

end MarkdownWriter.Layout
