import MarkdownWriter.Proofs.Render.BuiltIn
import MarkdownWriter.Proofs.Render.Pieces
import MarkdownWriter.Proofs.Text.Lines

/-!
# The items of a list

A list is its items one behind the other, every one with the marker the list takes and with its
contents indented (`Writer.WritesItems.exists_items`). That holds if items are written by the
library's own handler or by one that hands them on to it with what they are written in
(`Writer.WritesItems`, `Writer.writesItems_of_lookup`).

* **Layouts** (`ItemLayout`): a marker and the columns the contents are indented by. Which layout an
  item has depends on the style, the list and its index alone (`itemLayout`), and the text of the
  item is made of that and its contents (`ItemLayout.text`).
* **Room** (`lt_itemSize`, `length_marker_lt_size`): the contents are indented by more columns than
  any marker of the list has, so there is always a space behind the marker.
-/

namespace MarkdownWriter

namespace Layout

open Text

/-! ## Items -/

/-- How an item is laid out: its marker, and the columns its contents are indented by. -/
structure ItemLayout where
  marker : List Char
  size : Nat
  deriving DecidableEq, Repr

/-- The layout of the item with the given index of a list. -/
def itemLayout (style : Style) (bullet : Char) (list : ListStyle) (items : List Node)
    (spread : Bool) (index : Nat) : ItemLayout :=
  let marked := itemMarker style.incrementsMarkers bullet (some (.branch (.list list) items)) index
  ⟨marked.1, itemSize style.itemIndent (spread || list.spread) marked.2⟩

/-- An item with the given contents. -/
def ItemLayout.text (layout : ItemLayout) (content : List Char) : List Char :=
  mapLines (itemLine layout.marker layout.size) content

/-- There is always room for a space. -/
theorem lt_itemSize (indent : ItemIndent) (spread : Bool) (widest : Nat) :
    widest < itemSize indent spread widest := by
  unfold itemSize tabSize
  cases indent with
  | tab => dsimp only; omega
  | one => dsimp only; omega
  | mixed => dsimp only; split <;> omega

/-- The own marker is no wider than the widest. -/
theorem length_itemMarker_le (increments : Bool) (bullet : Char) (parent : Option Node)
    (index : Nat) :
    (itemMarker increments bullet parent index).1.length ≤
      (itemMarker increments bullet parent index).2 := by
  unfold itemMarker
  split
  · split
    · exact Nat.le_max_right _ _
    · exact Nat.le_refl _
  · exact Nat.le_refl _

section ItemLayout

variable {style : Style} {bullet : Char} {list : ListStyle} {items : List Node} {spread : Bool}
  {index : Nat}

/-- There is room for a space behind the marker. -/
theorem length_marker_lt_size :
    (itemLayout style bullet list items spread index).marker.length <
      (itemLayout style bullet list items spread index).size :=
  Nat.lt_of_le_of_lt (length_itemMarker_le _ _ _ _) (lt_itemSize _ _ _)

/-- The marker is a bullet, or a number before a delimiter. -/
theorem itemLayout_marker :
    (itemLayout style bullet list items spread index).marker =
      (if list.ordered then decimal (itemNumber style.incrementsMarkers list index) else []) ++
        [bullet] := by
  cases hordered : list.ordered <;> simp [itemLayout, itemMarker, hordered]

/-- An item begins with its marker. -/
theorem ItemLayout.marker_prefix_text (layout : ItemLayout) (content : List Char) :
    layout.marker <+: layout.text content := by
  have hfirst :
      layout.marker <+: itemLine layout.marker layout.size 0 (Lines.ofText content).first := by
    unfold itemLine
    rw [if_pos rfl]
    split
    · exact List.prefix_rfl
    · rw [List.append_assoc]
      exact List.prefix_append _ _
  exact hfirst.trans (List.prefix_append _ _)

end ItemLayout

/-- An item is written with the marker of the list that is being written. -/
theorem listItem_eq_ok {spread : Bool} {list : ListStyle} {items : List Node} {site : Site}
    {blocks : Blocks} {state after : State} {value : List Char} {bullet : Char} {index : Nat}
    {outer : List Nat} (hbullet : state.bulletCurrent = some bullet)
    (hindexes : state.indexes = index :: outer)
    (h : listItem spread (some (.branch (.list list) items)) site blocks state =
      (.ok value, after)) :
    ∃ place content middle,
      blocks place { state with constructs := .listItem :: state.constructs } =
        (.ok content, middle) ∧
      value = (itemLayout state.style bullet list items spread index).text content := by
  unfold listItem at h
  rw [Render.bind_run_ok (Render.get_run _)] at h
  simp only [hbullet, hindexes, List.head?_cons, Option.getD_some, pure_bind] at h
  obtain ⟨middle, hrun, -⟩ := Render.entering_eq_ok.mp h
  obtain ⟨content, _, hblocks, hreturn⟩ := Render.bind_eq_ok.mp hrun
  obtain ⟨rfl, -⟩ := Render.pure_eq_ok.mp hreturn
  exact ⟨_, content, _, hblocks, rfl⟩

end Layout

/-! ## Lists -/

open Layout

namespace Writer

variable {writer : Writer}

/-- Items are written as items, whatever handler is registered for them. -/
def WritesItems (writer : Writer) : Prop :=
  ∀ spread children parent site, writer.render (.branch (.listItem spread) children) parent site =
    writer.renderAs .listItem (.branch (.listItem spread) children) parent site

/-- A writer with the own layout of items writes them so. -/
theorem LaysOut.writesItems (hwriter : writer.LaysOut .listItem) : writer.WritesItems :=
  fun _ _ parent site => hwriter.render_eq rfl parent site

/-- A handler that wants every item written as an item. -/
theorem writesItems_of_lookup {handler : Handler}
    (hhandler : writer.handlers.lookup Kind.listItem.name = some handler)
    (hplan : ∀ node parent state site, handler.plan node parent state site = .layout .listItem) :
    writer.WritesItems := by
  intro spread children parent site
  have hwritten :
      writer.plan (.branch (.listItem spread) children) parent site = pure (.layout .listItem) := by
    unfold plan
    rw [handler_eq_of_lookup rfl hhandler]
    funext state
    exact Prod.ext (congrArg Except.ok (hplan _ parent state site)) rfl
  rw [render, hwritten, pure_bind]
  rfl

/-- **A list is its items.** -/
theorem WritesItems.exists_items (hwriter : writer.WritesItems) {list : ListStyle}
    {items : List Node} {parent : Option Node} {site : Site} {state after : State}
    {value : List Char}
    (h : writer.renderAs .list (.branch (.list list) items) parent site state =
      (.ok value, after)) :
    ∃ bullet pieces middle, listBullet list items parent.isSome state = .ok bullet ∧
      after.bulletLastUsed = some bullet ∧
      writer.pieces (.branch (.list list) items) site.position (openList bullet state) =
        (.ok pieces, middle) ∧ value = Piece.flatten pieces ∧
      ∀ n spread children piece, items[n]? = some (.branch (.listItem spread) children) →
        pieces[n]? = some piece → ∃ place start content behind,
          writer.blocks (.branch (.listItem spread) children) place start = (.ok content, behind) ∧
            piece.text = (itemLayout state.style bullet list items spread n).text content := by
  change Layout.list list items parent.isSome site (writer.blocks (.branch (.list list) items))
      state = _ at h
  obtain ⟨bullet, middle, hbullet, hblocks, rfl⟩ := list_eq_ok h
  obtain ⟨pieces, hpieces, rfl⟩ := blocks_eq_ok hblocks
  refine ⟨bullet, pieces, middle, hbullet, rfl, hpieces, rfl, ?_⟩
  intro n spread children piece hitem hpiece
  obtain ⟨place, start, done, hstart, hrender⟩ := exists_run_of_pieces hpieces hitem hpiece
  rw [hwriter] at hrender
  obtain ⟨inner, content, written, hcontent, htext⟩ :=
    listItem_eq_ok hstart.bulletCurrent hstart.indexes hrender
  rw [hstart.style] at htext
  exact ⟨inner, _, content, written, hcontent, htext⟩

end Writer

end MarkdownWriter
