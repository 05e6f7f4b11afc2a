import MarkdownWriter.Proofs.Render.BuiltIn
import MarkdownWriter.Proofs.Render.Pieces

/-!
# Nests of blocks

Roots, block quotes, lists and list items have blocks in them. Of the constructs that are open where
a node in such a nest is written, every one belongs to a block around it
(`Writer.IsBuiltIn.exists_run_of_nests`).

* **One step** (`Container.exists_blocks_of_layout`): a step into a container opens the construct of
  that container alone, so what is open inside is that and what is open around it.
* **The path** (`Node.Nests`): the way from the root of a document to a node is made of such steps,
  and the induction is on it. The constructs that are open behind it are of blocks only (`IsNest`).

No construct of inline content is open there, which is what the escaping of a definition's label and
destination depends on.
-/

namespace MarkdownWriter

/-! ## Nests -/

/-- The constructs a container of blocks opens around them; a root opens none. -/
def Container.nest? : Container → Option (List Construct)
  | .root => some []
  | .blockquote => some [.blockquote]
  | .list _ => some [.list]
  | .listItem _ => some [.listItem]
  | _ => none

/-- The constructs that are open in roots, block quotes, lists and list items. -/
def IsNest (constructs : List Construct) : Prop :=
  ∀ construct ∈ constructs, construct ∈ [Construct.blockquote, .list, .listItem]

instance : DecidablePred IsNest :=
  fun constructs => inferInstanceAs (Decidable (∀ construct ∈ constructs, construct ∈ _))

/-- A node is in a nest of blocks, or all of it. -/
inductive Node.Nests (node : Node) : Node → Prop
  | here : Nests node node
  | within {content : Container} {opened : List Construct} {children : List Node} {child : Node}
      (hcontent : content.nest? = some opened) (hblocks : children.any Node.isPhrasing = false)
      (hchild : child ∈ children) (h : Nests node child) : Nests node (.branch content children)

theorem Container.isNest_append {content : Container} {opened constructs : List Construct}
    (hcontent : content.nest? = some opened) (hconstructs : IsNest constructs) :
    IsNest (opened ++ constructs) := by
  have hopened : IsNest opened := by
    cases content with
    | root | blockquote | list _ | listItem _ =>
        obtain rfl := Option.some.inj hcontent
        decide
    | _ => contradiction
  intro construct hmem
  rcases List.mem_append.mp hmem with hmem | hmem
  · exact hopened construct hmem
  · exact hconstructs construct hmem

/-! ## One step -/

section step

open Render

variable {site : Site} {blocks : Blocks} {inline : Inline} {state after : State} {value : List Char}

/-- A block quote writes its blocks in a quote, and puts marks in front of their lines. -/
theorem Layout.exists_blocks_of_blockquote (h : blockquote site blocks state = (.ok value, after)) :
    ∃ place content middle,
      blocks place { state with constructs := .blockquote :: state.constructs } =
        (.ok content, middle) ∧ value = Text.mapLines (fun _ => quoteLine) content := by
  obtain ⟨_, h, -⟩ := entering_eq_ok.mp h
  obtain ⟨content, middle, hblocks, hreturn⟩ := bind_eq_ok.mp h
  obtain ⟨rfl, -⟩ := pure_eq_ok.mp hreturn
  exact ⟨_, content, middle, hblocks, rfl⟩

/-- A list item writes its blocks in an item, whatever its list, and puts the marker of the list
that is being written in front of them, or else the one of the style. -/
theorem Layout.exists_blocks_of_listItem {spread : Bool} {parent : Option Node}
    (h : listItem spread parent site blocks state = (.ok value, after)) :
    ∃ place content middle bullet isSpread,
      blocks place { state with constructs := .listItem :: state.constructs } =
        (.ok content, middle) ∧
      (state.bulletCurrent = some bullet ∨ state.style.bulletMarker = .ok bullet) ∧
      value = (
        let marked := itemMarker state.style.incrementsMarkers bullet parent
          (state.indexes.head?.getD 0)
        Text.mapLines (itemLine marked.1 (itemSize state.style.itemIndent isSpread marked.2))
          content) := by
  unfold listItem at h
  rw [bind_run_ok (get_run state)] at h
  cases hbullet : state.bulletCurrent with
  | some bullet =>
      simp only [hbullet, pure_bind] at h
      obtain ⟨_, h, -⟩ := entering_eq_ok.mp h
      obtain ⟨content, middle, hblocks, hreturn⟩ := bind_eq_ok.mp h
      obtain ⟨rfl, -⟩ := pure_eq_ok.mp hreturn
      rw [hbullet] at hblocks
      exact ⟨_, content, middle, bullet, _, hblocks, .inl rfl, rfl⟩
  | none =>
      simp only [hbullet] at h
      obtain ⟨bullet, _, hmarker, h⟩ := bind_eq_ok.mp h
      obtain ⟨hstyle, rfl⟩ := ofStyle_eq_ok.mp hmarker
      obtain ⟨_, h, -⟩ := entering_eq_ok.mp h
      obtain ⟨content, middle, hblocks, hreturn⟩ := bind_eq_ok.mp h
      obtain ⟨rfl, -⟩ := pure_eq_ok.mp hreturn
      rw [hbullet] at hblocks
      exact ⟨_, content, middle, bullet, _, hblocks, .inr hstyle, rfl⟩

/-- A container of blocks writes them with its construct open. -/
theorem Container.exists_blocks_of_layout {rules : List Rule} {content : Container}
    {opened : List Construct} {children : List Node} {parent : Option Node}
    (hcontent : content.nest? = some opened)
    (hchildren : children.any Node.isPhrasing = false)
    (h : content.layout references rules children parent site blocks inline state =
      (.ok value, after)) :
    ∃ place start written middle, blocks place start = (.ok written, middle) ∧
      start.constructs = opened ++ state.constructs := by
  cases content with
  | root =>
      obtain rfl := Option.some.inj hcontent
      rw [Container.layout, hchildren, if_neg Bool.false_ne_true] at h
      exact ⟨_, state, value, after, h, rfl⟩
  | blockquote =>
      obtain rfl := Option.some.inj hcontent
      obtain ⟨place, written, middle, hblocks, -⟩ := Layout.exists_blocks_of_blockquote h
      exact ⟨place, _, written, middle, hblocks, rfl⟩
  | list style =>
      obtain rfl := Option.some.inj hcontent
      obtain ⟨bullet, middle, -, hblocks, -⟩ := Layout.list_eq_ok h
      exact ⟨_, _, value, middle, hblocks, rfl⟩
  | listItem spread =>
      obtain rfl := Option.some.inj hcontent
      obtain ⟨place, written, middle, _, _, hblocks, -⟩ := Layout.exists_blocks_of_listItem h
      exact ⟨place, _, written, middle, hblocks, rfl⟩
  | _ => contradiction

end step

/-! ## The whole path -/

/-- **In a nest of blocks only blocks are open.** When a built-in writer writes a document, it
writes every node in it that is only in blocks, and no constructs but theirs are open there. -/
theorem Writer.IsBuiltIn.exists_run_of_nests {writer : Writer} (hwriter : writer.IsBuiltIn)
    {node document : Node} (hnests : node.Nests document) {parent : Option Node} {site : Site}
    {state after : State} {value : List Char} (hstate : IsNest state.constructs)
    (h : writer.render document parent site state = (.ok value, after)) :
    ∃ parent site state value after, IsNest state.constructs ∧
      writer.render node parent site state = (.ok value, after) := by
  induction hnests generalizing parent site state after value with
  | here => exact ⟨parent, site, state, value, after, hstate, h⟩
  | @within content opened children child hcontent hblocks hchild hnests ih =>
      obtain ⟨kind, hkind⟩ : ∃ kind, (Node.branch content children).kind? = some kind := by
        cases content <;> first | exact ⟨_, rfl⟩ | contradiction
      rw [(hwriter.laysOut kind).render_eq_layout hkind] at h
      obtain ⟨place, start, written, middle, hrun, hconstructs⟩ :=
        Container.exists_blocks_of_layout hcontent hblocks h
      obtain ⟨pieces, hpieces, -⟩ := blocks_eq_ok hrun
      obtain ⟨n, hn⟩ := List.mem_iff_getElem?.mp hchild
      have hlength := length_pieces hpieces
      have hlt := (List.getElem?_eq_some_iff.mp hn).1
      obtain ⟨piece, hpiece⟩ : ∃ piece, pieces[n]? = some piece :=
        ⟨_, List.getElem?_eq_getElem (by rw [hlength]; exact hlt)⟩
      obtain ⟨childPlace, childStart, _, hchildStart, hchildRun⟩ :=
        exists_run_of_pieces hpieces hn hpiece
      refine ih ?_ hchildRun
      rw [hchildStart.constructs, hconstructs]
      exact Container.isNest_append hcontent hstate

end MarkdownWriter
