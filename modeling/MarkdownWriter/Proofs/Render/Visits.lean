import MarkdownWriter.Proofs.Render.Failing
import MarkdownWriter.Proofs.Render.Reported
import MarkdownWriter.Proofs.Text.Inset

/-!
# Visits

While a document is written the blocks in it are visited one by one. A `Visit` is what the writer
was given for a block and what came of it.

* **One container** (`Writer.Visits`): its children are visited each in a state that differs from
  that of the container by an index and by the marker that is remembered (`Writer.Visits.isChild`),
  and their texts stand one behind the other, with separators between them
  (`Writer.Visits.separated`).
* **One step into a container** (`Writer.Opens`, `Writer.exists_opens`): a visited container visits
  its children from its inner state on, and sets what they give in its own text.
* **A whole document** (`Writer.Reaches`): a block is reached at a path if there is such a step for
  each index of the path. The block at every path is visited (`Writer.Reaches.exists_of_block?`),
  and what holds of one step is carried along the path, by induction on it
  (`Writer.Reaches.inside`).

From this the markers of lists are told, which depend on what was written before them.
-/

namespace MarkdownWriter

open Render Text

/-! ## Blocks and their paths -/

namespace Node

/-- The children of a node that are written as blocks. -/
def blocks : Node → List Node
  | .leaf _ => []
  | .branch content children => if content.holdsBlocks children then children else []

/-- The block at a path: its index in the container around it, then the index of that container, and
so on outwards. -/
def block? (tree : Node) : List Nat → Option Node
  | [] => some tree
  | n :: path => (tree.block? path).bind fun outer => outer.blocks[n]?

end Node

/-! ## The children of one container -/

/-- The writing of a block: what the writer was given, and what came of it. -/
structure Visit where
  node : Node
  parent : Option Node
  position : Position
  state : State
  text : List Char
  after : State

namespace Visit

/-- What came of a visit is what the writer makes of it. -/
def IsMade (visit : Visit) (writer : Writer) : Prop :=
  writer.render visit.node visit.parent (Writer.blockSite visit.position) visit.state =
    (.ok visit.text, visit.after)

/-- The marker that is remembered behind a block: its own one if it is a list. -/
def remembered (visit : Visit) : Option Char :=
  if visit.node.isList then visit.after.bulletLastUsed else none

/-- The visit of the child with an index, in a container that is written in `outer`, with a marker
remembered. -/
structure IsChild (visit : Visit) (writer : Writer) (parent : Node) (outer : State) (index : Nat)
    (last : Option Char) : Prop where
  made : visit.IsMade writer
  parent_eq : visit.parent = some parent
  within : visit.state.IsWithin index outer
  last_eq : visit.state.bulletLastUsed = last

/-- The marker that is found by each child of a container in which `last` is remembered. -/
def found (last : Option Char) (visits : List Visit) : Nat → Option Char
  | 0 => last
  | n + 1 => visits[n]?.bind remembered

end Visit

/-- The visits of the children of a container from the one with an index on, and the text made of
theirs. -/
inductive Writer.Visits (writer : Writer) (parent : Node) (outer : State) :
    Nat → Option Char → List Node → List Visit → List Char → Prop
  | nil {index : Nat} {last : Option Char} : Visits writer parent outer index last [] [] []
  | single {index : Nat} {last : Option Char} {visit : Visit}
    (h : visit.IsChild writer parent outer index last) :
      Visits writer parent outer index last [visit.node] [visit] visit.text
  | cons {index : Nat} {last : Option Char} {visit : Visit} {next : Node} {others : List Node}
    {visits : List Visit} {separator value : List Char}
    (h : visit.IsChild writer parent outer index last)
      (hseparator : Separates separator)
      (hothers : Visits writer parent outer (index + 1) visit.remembered (next :: others) visits
        value) :
      Visits writer parent outer index last (visit.node :: next :: others) (visit :: visits)
        (visit.text ++ separator ++ value)

/-- What a rule puts between two blocks separates their rows. -/
theorem Join.separates_separator (join : Join) : Separates join.separator := by
  obtain ⟨middle, hseparator, -, hmiddle⟩ := Writer.exists_separator_eq join
  rw [hseparator]
  refine ⟨?_, List.getLast?_concat⟩
  rcases hmiddle with rfl | ⟨rest, rfl⟩
  · rfl
  · rfl

namespace Writer

variable {writer : Writer}

section Visits

variable {parent : Node} {outer : State} {index : Nat} {last : Option Char} {children : List Node}
  {visits : List Visit} {value : List Char}

/-- There is one visit for each child. -/
theorem Visits.nodes (h : writer.Visits parent outer index last children visits value) :
    visits.map Visit.node = children := by
  induction h with
  | nil => rfl
  | single => rfl
  | cons _ _ _ ih => rw [List.map_cons, ih]

/-- The texts of the visits stand one behind the other, with separators between them. -/
theorem Visits.separated (h : writer.Visits parent outer index last children visits value) :
    Separated (visits.map Visit.text) value := by
  induction h with
  | nil => exact .nil
  | single => exact .single _
  | cons _ hseparator hothers ih =>
      cases hothers with
      | single => exact .cons _ hseparator ih
      | cons => exact .cons _ hseparator ih

/-- **Every child is visited in its place.** The first one finds the marker that the container
finds, and each of the others that of the child before it. -/
theorem Visits.isChild (h : writer.Visits parent outer index last children visits value) {n : Nat}
    {visit : Visit} (hvisit : visits[n]? = some visit) :
    visit.IsChild writer parent outer (index + n) (Visit.found last visits n) := by
  induction h generalizing n with
  | nil => exact absurd hvisit (by simp)
  | single hchild =>
      cases n with
      | zero => exact Option.some.inj hvisit ▸ hchild
      | succ n => exact absurd hvisit (by simp)
  | @cons index _ _ _ _ _ _ _ hchild _ hothers ih =>
      cases n with
      | zero => exact Option.some.inj hvisit ▸ hchild
      | succ n =>
          have hother := ih hvisit
          rw [show index + 1 + n = index + (n + 1) by omega] at hother
          cases n with
          | zero => exact hother
          | succ n => exact hother

/-- Children that can be written are visited. -/
theorem exists_visits_of_piecesFrom {i : Nat} {position : Position} {state after : State}
    {pieces : List Piece} (hstate : state.IsWithin i outer)
    (h : writer.piecesFrom parent children index position state = (.ok pieces, after)) :
    ∃ visits, writer.Visits parent outer index state.bulletLastUsed children visits
      (Piece.flatten pieces) := by
  induction children generalizing i index position state pieces with
  | nil =>
      rw [piecesFrom] at h
      obtain ⟨rfl, -⟩ := pure_eq_ok.mp h
      exact ⟨[], .nil⟩
  | cons child rest ih =>
      obtain ⟨start, middle, text, separator, following, hstart, hlast, hrender, rfl, hmore⟩ :=
        piecesFrom_cons_eq_ok hstate h
      let visit : Visit := ⟨child, some parent, position, start, text, middle⟩
      have hchild : visit.IsChild writer parent outer index state.bulletLastUsed :=
        ⟨hrender, rfl, hstart, hlast⟩
      obtain ⟨rfl, rfl, rfl⟩ | ⟨next, _, behind, hnext, -, rfl, hbehind, hbullet, hfollowing⟩ :=
        hmore
      · refine ⟨[visit], ?_⟩
        rw [Piece.flatten, List.flatMap_singleton, List.append_nil]
        exact .single hchild
      · obtain ⟨others, rfl⟩ := List.head?_eq_some_iff.mp hnext
        obtain ⟨visits, hvisits⟩ := ih hbehind hfollowing
        rw [hbullet] at hvisits
        exact ⟨visit :: visits, .cons hchild (Join.separates_separator _) hvisits⟩

/-- The blocks of a container are visited in the state that it is written in. -/
theorem exists_visits_of_blocks {position : Position} {state after : State}
    (h : writer.blocks parent position state = (.ok value, after)) :
    ∃ visits, writer.Visits parent state 0 state.bulletLastUsed parent.children visits value := by
  obtain ⟨pieces, hpieces, rfl⟩ := blocks_eq_ok h
  obtain ⟨start, middle, hstart, hlast, hrun⟩ := pieces_eq_ok hpieces
  rw [← hlast]
  exact exists_visits_of_piecesFrom hstart hrun

end Visits

end Writer

/-! ## One step into a container -/

/-- The state from which the blocks in a container are written, for a list that writes its items
with a marker. -/
def Container.enter (content : Container) (marker : Option Char) (state : State) : State :=
  match content with
  | .blockquote => { state with constructs := .blockquote :: state.constructs }
  | .list _ => { state with constructs := .list :: state.constructs, bulletCurrent := marker }
  | .listItem _ => { state with constructs := .listItem :: state.constructs }
  | _ => state

section enter

variable (content : Container) (marker : Option Char) (state : State)

@[simp] theorem Container.style_enter : (content.enter marker state).style = state.style := by
  cases content <;> rfl

@[simp] theorem Container.indexes_enter : (content.enter marker state).indexes = state.indexes := by
  cases content <;> rfl

@[simp] theorem Container.bulletLastUsed_enter :
    (content.enter marker state).bulletLastUsed = state.bulletLastUsed := by
  cases content <;> rfl

end enter

/-- The state from which the blocks in a visited node are written; the items of a list have the
marker that the list leaves behind. -/
def Visit.inner (visit : Visit) : State :=
  match visit.node with
  | .leaf _ => visit.state
  | .branch content _ => content.enter visit.after.bulletLastUsed visit.state

@[simp] theorem Visit.style_inner (visit : Visit) : visit.inner.style = visit.state.style := by
  unfold inner
  split <;> simp

@[simp] theorem Visit.indexes_inner (visit : Visit) :
    visit.inner.indexes = visit.state.indexes := by
  unfold inner
  split <;> simp

/-- What a visited node does with its blocks: they are visited from its inner state on, the marker
that the node has found is found by the first of them, and what they give is set in its text. -/
structure Writer.Opens (writer : Writer) (outer : Visit) (visits : List Visit)
    (written : List Char) : Prop where
  visits : writer.Visits outer.node outer.inner 0 outer.state.bulletLastUsed outer.node.blocks
    visits written
  settled : outer.inner.Settled
  isSetIn : IsSetIn written outer.text

/-- **Blocks are set in their container.** -/
theorem Container.exists_blocks_isSetIn {rules : List Rule} {content : Container}
    {children : List Node} {parent : Option Node} {site : Site} {blocks : Blocks} {inline : Inline}
    {state after : State} {value : List Char} (hcontent : content.holdsBlocks children = true)
    (hstate : state.Settled)
    (h : content.layout references rules children parent site blocks inline state =
      (.ok value, after)) :
    ∃ place written middle,
      blocks place (content.enter after.bulletLastUsed state) = (.ok written, middle) ∧
      (content.enter after.bulletLastUsed state).Settled ∧ IsSetIn written value := by
  cases content with
  | root =>
      have hphrasing : children.any Node.isPhrasing = false := by simpa [holdsBlocks] using hcontent
      rw [layout, hphrasing, if_neg Bool.false_ne_true] at h
      exact ⟨_, value, after, h, hstate, .refl value⟩
  | blockquote =>
      obtain ⟨place, written, middle, hblocks, rfl⟩ := Layout.exists_blocks_of_blockquote h
      exact ⟨place, written, middle, hblocks, ⟨hstate.style, hstate.bullet⟩,
        Layout.isMargin_quoteLine.isSetIn_mapLines written⟩
  | list style =>
      obtain ⟨bullet, middle, hbullet, hblocks, rfl⟩ := Layout.list_eq_ok h
      refine ⟨_, value, middle, hblocks, ⟨hstate.style, ?_⟩, .refl value⟩
      intro current hcurrent
      obtain rfl := Option.some.inj hcurrent
      exact isLineBreak_eq_false_of_mem_markers (Layout.listBullet_mem hbullet)
  | listItem spread =>
      obtain ⟨place, written, middle, bullet, isSpread, hblocks, hbullet, rfl⟩ :=
        Layout.exists_blocks_of_listItem h
      have hfree : isLineBreak bullet = false := by
        rcases hbullet with hcurrent | hmarker
        · exact hstate.bullet bullet hcurrent
        · exact isLineBreak_eq_false_of_mem_markers (@Layout.usualMarker_mem {} _ _ hmarker)
      have hlength := Layout.length_itemMarker_le state.style.incrementsMarkers bullet parent
        (state.indexes.head?.getD 0)
      refine ⟨place, written, middle, hblocks, ⟨hstate.style, hstate.bullet⟩, ?_⟩
      apply IsMargin.isSetIn_mapLines
      exact Layout.isMargin_itemLine (Layout.free_itemMarker hfree _ _ _)
        (hlength.trans (Nat.le_of_lt (Layout.lt_itemSize _ _ _)))
  | _ => contradiction

namespace Writer

variable {writer : Writer}

/-- What has no blocks in it opens without visits. -/
theorem opens_nil {outer : Visit} (hblocks : outer.node.blocks = [])
    (hinner : outer.inner.Settled) : writer.Opens outer [] [] := by
  refine ⟨?_, hinner, ?_⟩
  · rw [hblocks]
    exact .nil
  · intro row hrow hne
    exact absurd (List.mem_singleton.mp hrow) hne

/-- A block that can be written is opened by its visit. -/
theorem exists_opens (hwriter : writer.LaysOutNests) {outer : Visit} (hmade : outer.IsMade writer)
    (hstate : outer.state.Settled) : ∃ visits written, writer.Opens outer visits written := by
  cases hnode : outer.node with
  | leaf content =>
      refine ⟨[], [], opens_nil ?_ ?_⟩
      · rw [hnode, Node.blocks]
      · rwa [Visit.inner, hnode]
  | branch content children =>
      by_cases hcontent : content.holdsBlocks children = true
      · obtain ⟨kind, hkind, hlaysOut⟩ : ∃ kind, (Node.branch content children).kind? = some kind ∧
            writer.LaysOut kind := by
          cases content with
          | root | blockquote | list _ | listItem _ => exact ⟨_, rfl, hwriter _ (by decide)⟩
          | _ => contradiction
        unfold Visit.IsMade at hmade
        rw [hnode, hlaysOut.render_eq_layout hkind] at hmade
        obtain ⟨place, written, middle, hrun, hinner, hset⟩ :=
          Container.exists_blocks_isSetIn hcontent hstate hmade
        obtain ⟨visits, hvisits⟩ := exists_visits_of_blocks hrun
        refine ⟨visits, written, ?_, ?_, hset⟩
        · rw [Visit.inner, hnode, Node.blocks, if_pos hcontent]
          rwa [Container.bulletLastUsed_enter] at hvisits
        · rwa [Visit.inner, hnode]
      · refine ⟨[], [], opens_nil ?_ ?_⟩
        · rw [hnode, Node.blocks, if_neg hcontent]
        · rw [Visit.inner, hnode]
          cases content with
          | root => exact hstate
          | blockquote | list _ | listItem _ => exact absurd rfl hcontent
          | _ => exact hstate

/-! ## Lists and items -/

section Lists

open Layout

variable {list : ListStyle} {items : List Node} {bullet : Char}

/-- The items of a list are visited in the opened list. -/
theorem LaysOut.exists_visits_of_list (hwriter : writer.LaysOut .list) {parent : Option Node}
    {site : Site} {state after : State} {text : List Char}
    (h : writer.render (.branch (.list list) items) parent site state = (.ok text, after)) :
    ∃ bullet visits, listBullet list items parent.isSome state = .ok bullet ∧
      after.bulletLastUsed = some bullet ∧ writer.Visits (.branch (.list list) items)
        (openList bullet state) 0 state.bulletLastUsed items visits text := by
  rw [hwriter.render_eq_layout rfl] at h
  obtain ⟨bullet, middle, hbullet, hblocks, rfl⟩ := list_eq_ok h
  obtain ⟨visits, hvisits⟩ := exists_visits_of_blocks hblocks
  exact ⟨bullet, visits, hbullet, rfl, hvisits⟩

/-- The blocks of an item are visited in the opened item, which puts its marker in front of them. -/
theorem LaysOut.exists_visits_of_item (hwriter : writer.LaysOut .listItem) {visit : Visit}
    {state : State} {n : Nat} {last : Option Char} {spread : Bool} {children : List Node}
    (h : visit.IsChild writer (.branch (.list list) items) (openList bullet state) n last)
    (hnode : visit.node = .branch (.listItem spread) children) :
    ∃ visits content,
      writer.Visits visit.node { visit.state with
        constructs := .listItem :: visit.state.constructs } 0 last children
        visits content ∧
      visit.text = (itemLayout state.style bullet list items spread n).text content := by
  have hmade := h.made
  unfold Visit.IsMade at hmade
  rw [hnode, h.parent_eq, hwriter.render_eq_layout rfl] at hmade
  obtain ⟨place, content, middle, hblocks, htext⟩ :=
    listItem_eq_ok h.within.bulletCurrent h.within.indexes hmade
  obtain ⟨visits, hvisits⟩ := exists_visits_of_blocks hblocks
  rw [h.within.style] at htext
  rw [← h.last_eq, hnode]
  exact ⟨visits, content, hvisits, htext⟩

end Lists

/-! ## The whole path -/

/-- A visit is made at a path while a document is written. -/
inductive Reaches (writer : Writer) (document : Visit) : List Nat → Visit → Prop
  | here : Reaches writer document [] document
  | within {path : List Nat} {outer visit : Visit} {visits : List Visit} {written : List Char}
    {n : Nat} (h : Reaches writer document path outer) (hopens : writer.Opens outer visits written)
      (hvisit : visits[n]? = some visit) : Reaches writer document (n :: path) visit

/-- What is known of a visit at a path of a document. -/
structure Inside (writer : Writer) (document : Visit) (path : List Nat) (visit : Visit) : Prop where
  node : document.node.block? path = some visit.node
  made : visit.IsMade writer
  settled : visit.state.Settled
  style : visit.state.style = document.state.style
  indexes : visit.state.indexes = path ++ document.state.indexes
  isSetIn : IsSetIn visit.text document.text

section Reaches

variable {document visit : Visit} {path : List Nat} (hmade : document.IsMade writer)
  (hstate : document.state.Settled)

include hmade hstate

/-- **What is carried along a path**: the block there is written in a settled state with the style
of the document, the indexes are its path, and its rows end rows of the document. -/
theorem Reaches.inside (h : writer.Reaches document path visit) :
    writer.Inside document path visit := by
  induction h with
  | here => exact ⟨rfl, hmade, hstate, rfl, rfl, .refl _⟩
  | @within path outer visit visits written n _ hopens hvisit ih =>
      have hchild := hopens.visits.isChild hvisit
      rw [Nat.zero_add] at hchild
      have htext : visit.text ∈ visits.map Visit.text :=
        List.mem_map_of_mem (List.mem_of_getElem? hvisit)
      constructor
      · rw [Node.block?, ih.node, Option.bind_some, ← hopens.visits.nodes, List.getElem?_map,
          hvisit, Option.map_some]
      · exact hchild.made
      · exact ⟨hchild.within.style ▸ hopens.settled.style,
          hchild.within.bulletCurrent ▸ hopens.settled.bullet⟩
      · rw [hchild.within.style, Visit.style_inner, ih.style]
      · rw [hchild.within.indexes, Visit.indexes_inner, ih.indexes, List.cons_append]
      · exact (IsSetIn.of_subset (hopens.visits.separated.rows_subset htext)).trans
          (hopens.isSetIn.trans ih.isSetIn)

/-- **Every block is visited.** -/
theorem Reaches.exists_of_block? (hwriter : writer.LaysOutNests) {node : Node}
    (hnode : document.node.block? path = some node) :
    ∃ visit, writer.Reaches document path visit ∧ visit.node = node := by
  induction path generalizing node with
  | nil => exact ⟨document, .here, Option.some.inj hnode⟩
  | cons n path ih =>
      obtain ⟨container, hcontainer, hblock⟩ := Option.bind_eq_some_iff.mp hnode
      obtain ⟨outer, houter, rfl⟩ := ih hcontainer
      have hinside := houter.inside hmade hstate
      obtain ⟨visits, written, hopens⟩ := exists_opens hwriter hinside.made hinside.settled
      rw [← hopens.visits.nodes, List.getElem?_map] at hblock
      obtain ⟨visit, hvisit, rfl⟩ := Option.map_eq_some_iff.mp hblock
      exact ⟨visit, .within houter hopens hvisit, rfl⟩

end Reaches

end Writer

/-! ## Documents -/

/-- The visit of a whole tree that is written, which begins with no marker remembered. -/
theorem Options.exists_visit_of_toMarkdown {options : Options} {externals : Externals}
    {writer : Writer} {state : State} {tree : Node} {text : String}
    (hwriter : options.writer externals = .ok (writer, state))
    (h : toMarkdown options tree externals = .ok text) :
    ∃ document : Visit, document.node = tree ∧ document.state = state ∧ document.IsMade writer ∧
      document.state.Settled ∧ document.state.bulletLastUsed = none ∧
      text = String.ofList (terminated document.text) := by
  have hnone : state.bulletLastUsed = none := by
    rw [(Options.state_of_writer hwriter).2]
  rcases hrun : writer.render tree none (Writer.blockSite {}) state with ⟨error | value, after⟩
  · rw [toMarkdown_eq_of_run hwriter hrun] at h
    contradiction
  · rw [toMarkdown_eq_of_run hwriter hrun] at h
    exact ⟨⟨tree, none, {}, state, value, after⟩, rfl, rfl, hrun, Options.settled_of_writer hwriter,
      hnone, (Except.ok.inj h).symm⟩

/-- The line ending behind a document adds a blank row at most. -/
theorem isSetIn_terminated (text : List Char) : IsSetIn text (terminated text) := by
  unfold terminated
  split
  · exact .refl text
  · apply IsSetIn.of_subset
    rw [rows_append_cons rfl]
    exact List.subset_append_left _ _

end MarkdownWriter
