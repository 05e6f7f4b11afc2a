import MarkdownWriter.Proofs.Render.ContentColumn
import MarkdownWriter.Proofs.Render.Nests
import MarkdownWriter.Proofs.Text.Placement

/-!
# The frames of blocks

A root, a block quote, a list and a list item have their children written as blocks, further right
by some columns, and put margins of that width in front of the rows (`IsFrame`,
`Container.isFrame_layout`).

* **Settled states** (`State.Settled`). With a style that is accepted as a whole nothing can go
  wrong in that: every marker that is asked for is there, and none of them ends a line. Whatever
  restores its place leaves a settled state settled (`State.Settled.restored`).
* **One container at a time**: a quote has margins of two columns (`isFrame_blockquote`), a list has
  none (`isFrame_list`), and an item has one as wide as its contents are indented, with the marker
  in its first row (`isFrame_listItem`). Each of them is an instance of one of two frames, blocks
  without margins (`isFrame_of_run`) and blocks behind a front (`isFrame_of_front`).
-/

namespace MarkdownWriter

open Render Text

/-! ## Accepted styles -/

/-- A style that is accepted as a whole has all markers that lists ask for. -/
theorem Style.markers_of_validate {style : Style} (h : style.validate = .ok ()) :
    (∃ bullet, style.bulletMarker = .ok bullet) ∧ (∃ rule, style.ruleMarker = .ok rule) ∧
      ∀ list, ∃ usual other, Layout.usualMarker list style = .ok usual ∧
      Layout.otherMarker list style = .ok other := by
  have hprovides := provides_of_validate h
  refine ⟨hprovides.bullet, hprovides.rule, fun list => ?_⟩
  obtain ⟨bullet, hbullet⟩ := hprovides.bullet
  obtain ⟨otherBullet, hotherBullet⟩ := hprovides.otherBullet
  obtain ⟨delimiter, hdelimiter⟩ := hprovides.delimiter
  obtain ⟨otherDelimiter, hotherDelimiter⟩ := hprovides.otherDelimiter
  unfold Layout.usualMarker Layout.otherMarker
  cases list.ordered
  · exact ⟨bullet, otherBullet, hbullet, hotherBullet⟩
  · exact ⟨delimiter, otherDelimiter, hdelimiter, hotherDelimiter⟩

/-- A state with an accepted style, and with a marker that ends no line if a list is being written.
-/
structure State.Settled (state : State) : Prop where
  style : state.style.validate = .ok ()
  bullet : ∀ bullet ∈ state.bulletCurrent, isLineBreak bullet = false

/-- What restores a place leaves the state settled, whether it is left with an error or not. -/
theorem State.Settled.restored {α : Type} {action : Render α} {state after : State} {value : α}
    (h : state.Settled) (haction : Restores State.surroundings action)
    (hrun : action state = (.ok value, after)) : after.Settled := by
  have hstyle := haction.style state
  have hbullet := congrArg Prod.snd (haction.view_eq hrun)
  rw [hrun] at hstyle
  constructor
  · rw [show after.style = state.style from hstyle]
    exact h.style
  · rw [show after.bulletCurrent = state.bulletCurrent from hbullet]
    exact h.bullet

namespace Layout

/-! ## Lists -/

/-- In a settled state it can be told whether markers are misread. -/
theorem exists_looksLikeRule_run {state : State} (hstate : state.Settled) (usual : Char)
    (items : List Node) :
    ∃ misread, looksLikeRule usual items { state with constructs := .list :: state.constructs } =
      (.ok misread, { state with constructs := .list :: state.constructs }) := by
  obtain ⟨-, ⟨rule, hrule⟩, -⟩ := Style.markers_of_validate hstate.style
  have hmarker : ofStyle Style.ruleMarker { state with constructs := .list :: state.constructs } =
      (.ok rule, _) :=
    ofStyle_eq_ok.mpr ⟨hrule, rfl⟩
  unfold looksLikeRule
  rw [bind_run_ok (get_run _)]
  split
  · rw [bind_run_ok hmarker]
    exact ⟨_, rfl⟩
  · exact ⟨_, rfl⟩

/-- With an accepted style a list has a marker. -/
theorem exists_listBullet {state : State} (hstate : state.style.validate = .ok ())
    (list : ListStyle) (items : List Node) (hasParent : Bool) :
    ∃ bullet, listBullet list items hasParent state = .ok bullet := by
  obtain ⟨-, ⟨rule, hrule⟩, hmarkers⟩ := Style.markers_of_validate hstate
  obtain ⟨usual, other, husual, hother⟩ := hmarkers list
  obtain ⟨misread, hmisread⟩ : ∃ misread,
      (if list.ordered then pure false else isMisread usual items state) = .ok misread := by
    unfold isMisread
    rw [hrule]
    split
    · exact ⟨_, rfl⟩
    · split
      · exact ⟨_, rfl⟩
      · exact ⟨_, rfl⟩
  unfold listBullet
  rw [husual, hother]
  dsimp only [bind, Except.bind]
  rw [hmisread]
  exact ⟨_, rfl⟩

/-- In a settled state a list writes its items with a marker of its kind. -/
theorem exists_list_run {list : ListStyle} {items : List Node} {hasParent : Bool} {site : Site}
    {state : State} (hstate : state.Settled) :
    ∃ bullet ∈ markers list, ∀ (blocks : Blocks) value middle,
      blocks site.position (openList bullet state) = (.ok value, middle) →
        Layout.list list items hasParent site blocks state =
          (.ok value, closeList bullet state middle) := by
  obtain ⟨-, -, hmarkers⟩ := Style.markers_of_validate hstate.style
  obtain ⟨usual, other, husual, hother⟩ := hmarkers list
  have husual' : ofStyle (if list.ordered then Style.delimiter else Style.bulletMarker) state =
      (.ok usual, state) :=
    ofStyle_eq_ok.mpr ⟨husual, rfl⟩
  have hother' :
      ofStyle (if list.ordered then Style.otherDelimiter else Style.otherBulletMarker) state =
      (.ok other, state) := ofStyle_eq_ok.mpr ⟨hother, rfl⟩
  obtain ⟨misread, hmisread⟩ :
      ∃ misread, (if list.ordered then pure false else looksLikeRule usual items)
      { state with constructs := .list :: state.constructs } =
        (.ok misread, { state with constructs := .list :: state.constructs }) := by
    split
    · exact ⟨false, rfl⟩
    · exact exists_looksLikeRule_run hstate usual items
  let merges := hasParent && (otherChoice list state.style).isSome &&
    state.bulletLastUsed == some usual
  refine ⟨if merges || misread then other else usual, ?_, fun blocks value middle hblocks => ?_⟩
  · split
    · exact (otherMarker_eq_ok husual hother).1
    · exact usualMarker_mem husual
  · unfold Layout.list
    rw [bind_run_ok husual', bind_run_ok hother', bind_run_ok (get_run _)]
    refine entering_eq_ok.mpr
      ⟨{ middle with bulletLastUsed := _, bulletCurrent := state.bulletCurrent }, ?_, rfl⟩
    rw [bind_run_ok (get_run _)]
    refine ite_bind_eq_ok.mpr ⟨misread, _, hmisread, ?_⟩
    dsimp only
    rw [bind_run_ok (modify_run _ _)]
    exact (bind_run_ok hblocks).trans rfl

/-! ## Frames -/

/-- A layout of blocks that are written further right, from a settled state on, and get margins of
that width: it succeeds if the blocks can be written there. -/
def IsFrame (layout : Blocks → Render (List Char)) (position : Position) (state : State) : Prop :=
  ∃ (width : Nat) (line : Nat → List Char → List Char) (start : State) (finish : State → State),
    IsMargin width line ∧ start.Settled ∧ ∀ (blocks : Blocks) value after,
      blocks ⟨position.line, position.column + width, position.lineShift + width⟩ start =
        (.ok value, after) → layout blocks state = (.ok (mapLines line value), finish after)

/-- Blocks without margins. -/
theorem isFrame_of_run {layout : Blocks → Render (List Char)} {position : Position}
    {state start : State} {finish : State → State} (hstart : start.Settled)
    (h : ∀ (blocks : Blocks) value after, blocks position start = (.ok value, after) →
      layout blocks state = (.ok value, finish after)) : IsFrame layout position state := by
  refine ⟨0, fun _ line => line, start, finish, fun _ row => ⟨[], rfl, by simp, fun _ => rfl⟩,
    hstart, ?_⟩
  intro blocks value after hblocks
  have hsame : mapLines (fun _ line => line) value = value := by
    have hrest :
        (Lines.ofText value).rest.mapIdx (fun _ entry => (entry.1, entry.2)) =
          (Lines.ofText value).rest :=
      List.mapIdx_eq_iff.mpr fun i => by simp
    unfold mapLines Lines.mapIdx
    rw [hrest]
    exact Lines.toText_ofText value
  rw [hsame]
  exact h blocks value after hblocks

/-- Blocks behind a front that stands in one row, and with a margin as wide as that. -/
theorem isFrame_of_front {layout : Blocks → Render (List Char)} {construct : Construct}
    {front : List Char} {line : Nat → List Char → List Char} {position : Position} {state : State}
    (hstate : state.Settled) (hfront : ∀ c ∈ front, isLineBreak c = false)
    (hline : IsMargin front.length line)
    (h : ∀ blocks : Blocks, layout blocks state = entering construct (do
      let value ← blocks ((position.advance front).shift front.length)
      return mapLines line value) state) : IsFrame layout position state := by
  have hadvance : (position.advance front).shift front.length =
      ⟨position.line, position.column + front.length, position.lineShift + front.length⟩ := by
    rw [Position.advance_of_free hfront]
    rfl
  refine ⟨front.length, line, { state with constructs := construct :: state.constructs },
    fun after => { after with constructs := after.constructs.tail }, hline,
    ⟨hstate.style, hstate.bullet⟩, ?_⟩
  intro blocks value after hblocks
  rw [h]
  refine entering_eq_ok.mpr ⟨after, ?_, rfl⟩
  rw [hadvance, bind_run_ok hblocks]
  rfl

/-- The mark of a quote is a margin of two columns. -/
theorem isMargin_quoteLine : IsMargin 2 fun _ => quoteLine := by
  intro _ row
  cases row with
  | nil => exact ⟨['>'], rfl, by simp [isLineBreak], fun h => absurd rfl h⟩
  | cons c row => exact ⟨['>', ' '], rfl, by simp [isLineBreak], fun _ => rfl⟩

/-- A quote is a frame of its blocks. -/
theorem isFrame_blockquote {site : Site} {state : State} (hstate : state.Settled) :
    IsFrame (blockquote site) site.position state :=
  @isFrame_of_front _ .blockquote ['>', ' '] _ _ _ hstate (by simp [isLineBreak]) isMargin_quoteLine
    fun _ => rfl

/-- So is a list, without a margin. -/
theorem isFrame_list {list : ListStyle} {items : List Node} {hasParent : Bool} {site : Site}
    {state : State} (hstate : state.Settled) :
    IsFrame (Layout.list list items hasParent site) site.position state := by
  obtain ⟨bullet, hbullet, hrun⟩ := @exists_list_run list items hasParent site state hstate
  refine @isFrame_of_run _ _ _ (openList bullet state) _ ⟨hstate.style, ?_⟩ hrun
  intro current hcurrent
  obtain rfl := Option.some.inj hcurrent
  exact isLineBreak_eq_false_of_mem_markers hbullet

/-- The first row of an item has the marker in its margin. -/
theorem isMargin_itemLine {marker : List Char} {size : Nat}
    (hmarker : ∀ c ∈ marker, isLineBreak c = false) (hsize : marker.length ≤ size) :
    IsMargin size (itemLine marker size) := by
  intro i row
  cases row with
  | nil =>
      by_cases hi : i = 0
      · exact ⟨marker, by simp [itemLine, hi], hmarker, fun h => absurd rfl h⟩
      · exact ⟨[], by simp [itemLine, hi], by simp, fun h => absurd rfl h⟩
  | cons c row =>
      by_cases hi : i = 0
      · refine ⟨marker ++ List.replicate (size - marker.length) ' ', by simp [itemLine, hi], ?_,
          fun _ => ?_⟩
        · exact List.forall_mem_append.mpr ⟨hmarker, isLineBreak_of_mem_replicate rfl _⟩
        · rw [List.length_append, List.length_replicate]
          omega
      · exact ⟨List.replicate size ' ', by simp [itemLine, hi], isLineBreak_of_mem_replicate rfl _,
          fun _ => List.length_replicate⟩

/-- A marker is written in one row. -/
theorem free_itemMarker {bullet : Char} (hbullet : isLineBreak bullet = false) (increments : Bool)
    (parent : Option Node) (index : Nat) :
    ∀ c ∈ (itemMarker increments bullet parent index).1, isLineBreak c = false := by
  unfold itemMarker
  split
  · split
    · rw [List.forall_mem_append, List.forall_mem_singleton]
      exact ⟨fun c => isLineBreak_eq_false_of_mem_decimal, hbullet⟩
    · simpa using hbullet
  · simpa using hbullet

/-- An item is written with the marker of its list, or else with the one of the style. -/
theorem exists_listItem_eq {bullet : Char} {state : State} (spread : Bool) (parent : Option Node)
    (site : Site)
    (hbullet : state.bulletCurrent = some bullet ∨
      (state.bulletCurrent = none ∧ state.style.bulletMarker = .ok bullet)) :
    ∃ isSpread, ∀ blocks : Blocks, listItem spread parent site blocks state =
      (let marked := itemMarker state.style.incrementsMarkers bullet parent
        (state.indexes.head?.getD 0)
      let size := itemSize state.style.itemIndent isSpread marked.2
      let front := marked.1 ++ List.replicate (size - marked.1.length) ' '
      entering .listItem (do
        let value ← blocks ((site.position.advance front).shift size)
        return mapLines (itemLine marked.1 size) value) state) := by
  obtain ⟨style, constructs, indexes, current, last, comments⟩ := state
  obtain rfl | ⟨rfl, hmarker⟩ := hbullet
  · exact ⟨_, fun blocks => rfl⟩
  · exact ⟨_, fun blocks => (bind_run_ok (ofStyle_eq_ok.mpr ⟨hmarker, rfl⟩)).trans rfl⟩

/-- So is an item, with a margin as wide as its contents are indented. -/
theorem isFrame_listItem {spread : Bool} {parent : Option Node} {site : Site} {state : State}
    (hstate : state.Settled) : IsFrame (listItem spread parent site) site.position state := by
  obtain ⟨bullet, hbullet, hfree⟩ : ∃ bullet, (state.bulletCurrent = some bullet ∨
      (state.bulletCurrent = none ∧ state.style.bulletMarker = .ok bullet)) ∧
      isLineBreak bullet = false := by
    cases hcurrent : state.bulletCurrent with
    | some bullet => exact ⟨bullet, .inl rfl, hstate.bullet bullet hcurrent⟩
    | none =>
        obtain ⟨⟨bullet, hbullet⟩, -⟩ := Style.markers_of_validate hstate.style
        exact ⟨bullet, .inr ⟨rfl, hbullet⟩,
          isLineBreak_eq_false_of_mem_markers (@usualMarker_mem {} _ _ hbullet)⟩
  obtain ⟨isSpread, hrun⟩ := exists_listItem_eq spread parent site hbullet
  have hmarker :=
    free_itemMarker hfree state.style.incrementsMarkers parent (state.indexes.head?.getD 0)
  have hlength :=
    length_itemMarker_le state.style.incrementsMarkers bullet parent (state.indexes.head?.getD 0)
  dsimp only at hrun
  generalize itemMarker state.style.incrementsMarkers bullet parent (state.indexes.head?.getD 0) =
    marked at *
  have hsize := lt_itemSize state.style.itemIndent isSpread marked.2
  generalize itemSize state.style.itemIndent isSpread marked.2 = size at *
  have hfront : (marked.1 ++ List.replicate (size - marked.1.length) ' ').length = size := by
    rw [List.length_append, List.length_replicate]
    omega
  refine @isFrame_of_front _ .listItem (marked.1 ++ List.replicate (size - marked.1.length) ' ')
    (itemLine marked.1 size) _ _ hstate (List.forall_mem_append.mpr ⟨hmarker,
      isLineBreak_of_mem_replicate rfl _⟩) ?_ ?_
  · rw [hfront]
    exact isMargin_itemLine hmarker (by omega)
  · rw [hfront]
    exact hrun

end Layout

namespace Container

variable {content : Container} {children : List Node}

/-- The frame of blocks has no inline content in it. -/
theorem layout_congr_of_nest (hcontent : content.nest?.isSome = true)
    (hchildren : children.any Node.isPhrasing = false)
    (references references' : Text.References) (rules rules' : List Rule) (parent : Option Node)
    (site : Site) (blocks : Blocks) (inline inline' : Inline) :
    content.layout references rules children parent site blocks inline =
      content.layout references' rules' children parent site blocks inline' := by
  cases content with
  | root => simp only [layout, hchildren, Bool.false_eq_true, if_false]
  | blockquote | list _ | listItem _ => rfl
  | _ => contradiction

/-- **Blocks are framed.** In a settled state roots, block quotes, lists and list items put margins
in front of the rows of their blocks. -/
theorem isFrame_layout (hcontent : content.nest?.isSome = true)
    (hchildren : children.any Node.isPhrasing = false)
    {state : State} (hstate : state.Settled) (references : Text.References) (rules : List Rule)
    (parent : Option Node) (site : Site) (inline : Inline) :
    Layout.IsFrame (fun blocks =>
      content.layout references rules children parent site blocks inline) site.position
      state := by
  cases content with
  | root =>
      refine @Layout.isFrame_of_run _ _ _ _ id hstate fun blocks value after hblocks => ?_
      rw [layout, hchildren, if_neg Bool.false_ne_true]
      exact hblocks
  | blockquote => exact Layout.isFrame_blockquote hstate
  | list style => exact Layout.isFrame_list hstate
  | listItem spread => exact Layout.isFrame_listItem hstate
  | _ => contradiction

end Container

end MarkdownWriter
