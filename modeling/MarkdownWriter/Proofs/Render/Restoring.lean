import MarkdownWriter.Proofs.Render.Layouts

/-!
# What a rendering leaves as it was

A node is written in the place it was given, and that place is the same again behind it: no matter
what handlers want done, `Writer.restores_render` holds for every node. A success gives back the
style, the open constructs, the indexes and the marker of the list around it, an error the style and
the constructs (`Writer.render_eq_restored`).

* **Layouts** (`Container.restores_layout`): what the layout of a container does with its children
  comes first, with the writing of the children as a parameter. Only a list does more than to open a
  construct, and it puts back the marker that it has changed (`Layout.restores_list`).
* **Handlers** (`Plan.restores_run`): what a handler wants done is made of a few steps, and each of
  them restores the place if what is in it does. The induction is on the plan.
* **Trees** (`Writer.restores_render`, `Writer.restores_blocksFrom`, `Writer.restores_inlinesFrom`):
  one recursion over the tree with an induction over the children inside.
-/

namespace MarkdownWriter

open Render

/-! ## Layouts -/

section Layouts

variable {references : Text.References} {rules : List Rule} {site : Site} {blocks : Blocks}
  {inline : Inline}

/-- What does not look at the constructs is restored around whatever restores it. -/
theorem Render.Restores.surrounds {γ : Type} {view : State → γ}
    (hview : ∀ state constructs, view { state with constructs := constructs } = view state) :
    Layout.Surrounds (Restores view) where
  quietly := fun haction hnext => .bind (.of_steady haction.steady) hnext
  andThen := fun haction hnext => .bind haction fun value => .of_steady (hnext value).steady
  entering := fun h => .entering_of_view h hview
  isolated := fun h => .isolated_of_view h hview

/-- A list puts back the marker of the list around it. -/
theorem Layout.restores_list (hblocks : ∀ position, Restores State.place (blocks position))
    (style : ListStyle) (items : List Node) (hasParent : Bool) :
    Restores State.place (list style items hasParent site blocks) := by
  have hsurrounds : Surrounds (Restores (fun _ => ())) := Restores.surrounds fun _ _ => rfl
  have hquiet : Restores (fun _ => ()) (list style items hasParent site blocks) :=
    hsurrounds.list style items hasParent fun bullet outer =>
      .bind (.modifying (fun _ => rfl) (fun _ => rfl) fun _ => rfl) fun _ =>
        .bind ((hblocks _).map fun _ => ()) fun _ =>
          .bind (.modifying (fun _ => rfl) (fun _ => rfl) fun _ => rfl) fun _ => .pure _
  refine ⟨hquiet.style, hquiet.constructs, fun h => ?_⟩
  obtain ⟨bullet, middle, -, hrun, rfl⟩ := list_eq_ok h
  have hplace := (hblocks _).view_eq hrun
  simp only [State.place, openList, closeList, Prod.mk.injEq] at hplace ⊢
  exact ⟨hplace.1, trivial⟩

variable {parent : Option Node}
variable (hinline : ∀ site, Restores State.place (inline site))
variable (hblocks : ∀ position, Restores State.place (blocks position))

include hinline hblocks

/-- The layout of a container restores the place that it is written in. -/
theorem Container.restores_layout {content : Container} {kind : Kind}
    (hkind : content.kind? = some kind) (children : List Node) :
    Restores State.place (content.layout references rules children parent site blocks inline) :=
  (Restores.surrounds fun _ _ => rfl).container hkind (fun _ => hinline) (fun _ => hblocks)
    fun _ _ => Layout.restores_list hblocks _ _ _

/-- Whatever a handler wants done, the place is the same afterwards. The induction is on what it
wants. -/
theorem Plan.restores_run (plan : Plan) (node : Node) :
    Restores State.place (plan.run references rules node parent site blocks inline) := by
  induction plan generalizing site with
  | text value => exact .pure _
  | literal value around => exact .of_steady (Quiet.literal _ _ _).steady
  | refuse error => exact .throw _
  | blocks => exact hblocks _
  | inline => exact hinline _
  | entering construct plan ih => exact .entering_of_view ih fun _ _ => rfl
  | isolated plan ih => exact .isolated_of_view ih fun _ _ => rfl
  | placed site plan ih => exact ih
  | andThen plan next ihPlan ihNext => exact .bind ihPlan fun text => ihNext text
  | layout kind =>
      simp only [Plan.run]
      split
      · next hkind =>
          cases node with
          | leaf content => exact .of_steady content.quiet_layout.steady
          | branch content children =>
              exact Container.restores_layout hinline hblocks hkind children
      · exact .throw _

end Layouts

/-! ## The recursion -/

namespace Writer

variable (writer : Writer)

/-- To find the handler of a node changes nothing. -/
theorem restores_handler (node : Node) :
    Restores State.place (liftM (writer.handler node) : Render Handler) := by
  apply Restores.of_steady
  intro state
  cases writer.handler node <;> rfl

/-- Nor does asking it. -/
theorem restores_plan (node : Node) (parent : Option Node) (site : Site) :
    Restores State.place (writer.plan node parent site) :=
  .bind (restores_handler writer node) fun _ => .bind .get fun _ => .pure _

/-- Looking ahead restores what the rendering of the node does. -/
theorem restores_peek {node : Node} {rendered : Render (List Char)}
    (h : Restores State.place rendered) : Restores State.place (writer.peek node rendered) := by
  unfold peek
  split
  · exact .pure _
  · apply Restores.bind (.ofState _)
    intro c
    split
    · exact .pure _
    · exact .bind h fun _ => .pure _

/-- Separators leave the place as it is; a comment is taken note of elsewhere. -/
theorem restores_between (left right parent : Node) :
    Restores State.place (writer.between left right parent) := by
  apply Restores.bind .get
  intro state
  dsimp only
  split
  · exact .bind (.modifying (fun _ => rfl) (fun _ => rfl) fun _ => rfl) fun _ => .pure _
  · exact .pure _

/-- The marker that is remembered is no part of the place. -/
theorem restores_forgetBullet (child : Node) : Restores State.place (forgetBullet child) := by
  unfold forgetBullet
  split
  · exact .pure _
  · exact .modifying (fun _ => rfl) (fun _ => rfl) fun _ => rfl

mutual

/-- **Rendering keeps its place.** A node leaves the style and the open constructs as they were, and
behind a success also the indexes and the marker of the list around it. -/
theorem restores_render (node : Node) (parent : Option Node) (site : Site) :
    Restores State.place (writer.render node parent site) :=
  match node with
  | .leaf content => by
      rw [render]
      have hnone : Restores State.place (Render.counting (pure [] : Render (List Char))) :=
        .counting (.pure _)
      exact .bind (restores_plan writer _ _ _) fun plan =>
        plan.restores_run (fun _ => hnone) (fun _ => hnone) _
  | .branch content children => by
      rw [render]
      exact .bind (restores_plan writer _ _ _) fun plan =>
        plan.restores_run (fun _ => .counting (restores_inlinesFrom _ _ _ _ _))
          (fun _ => .counting (restores_blocksFrom _ _ _ _)) _

/-- While blocks are written only the own index is changed. -/
theorem restores_blocksFrom (parent : Node) (children : List Node) (index : Nat)
    (position : Position) :
    Restores State.surroundings (blocksFrom writer parent children index position) :=
  match children with
  | [] => by
      rw [blocksFrom]
      exact .pure _
  | child :: rest => by
      rw [blocksFrom]
      refine .bind (.goTo _) fun _ => .bind (restores_render child _ _).surroundings fun value => ?_
      refine .bind (restores_forgetBullet child).surroundings fun _ => ?_
      split
      · exact .pure _
      · exact .bind (restores_between writer _ _ _).surroundings fun _ =>
          .bind (restores_blocksFrom parent rest _ _) fun _ => .pure _

/-- The same of inline content. -/
theorem restores_inlinesFrom (parent : Node) (site : Site) (children : List Node) (index : Nat)
    (progress : Progress) :
    Restores State.surroundings (inlinesFrom writer parent site children index progress) :=
  match children with
  | [] => by
      rw [inlinesFrom]
      exact .pure _
  | [child] => by
      rw [inlinesFrom]
      exact .bind (.goTo _) fun _ => .bind (restores_render child _ _).surroundings fun _ =>
        restores_inlinesFrom parent site [] _ _
  | child :: next :: rest => by
      rw [inlinesFrom]
      exact .bind (.goTo _) fun _ =>
        .bind (restores_peek writer (restores_render next _ _)).surroundings fun _ =>
          .bind (restores_render child _ _).surroundings fun _ =>
            restores_inlinesFrom parent site (next :: rest) _ _

end

/-- The children of a node are written in the place of the node. -/
theorem restores_blocks (node : Node) (position : Position) :
    Restores State.place (writer.blocks node position) :=
  .counting (restores_blocksFrom writer _ _ _ _)

/-- The index of inline content is taken away at the end. -/
theorem restores_inlines (node : Node) (site : Site) :
    Restores State.place (writer.inlines node site) :=
  .counting (restores_inlinesFrom writer _ _ _ _ _)

/-- **A node is written in an unchanged context.** Whether a node can be written or not, the style
and the open constructs are what they were before it, and if it can the indexes and the marker of
the list around it are too; only the marker of the sibling before and the notes about comments may
be others. The handlers, the rules about unsafe characters and the join rules are the writer's,
which a rendering reads and never hands back. -/
theorem render_eq_restored (node : Node) (parent : Option Node) (site : Site) (state : State) :
    ∃ result indexes bullet last comments,
      writer.render node parent site state =
        (result, ⟨state.style, state.constructs, indexes, bullet, last, comments⟩) ∧
        ∀ text, result = .ok text → indexes = state.indexes ∧ bullet = state.bulletCurrent := by
  have hrestores := writer.restores_render node parent site
  have hstyle := hrestores.style state
  have hconstructs := hrestores.constructs state
  rcases hrun : writer.render node parent site state with
      ⟨result, style, constructs, indexes, bullet, last, comments⟩
  rw [hrun] at hstyle hconstructs
  obtain rfl : style = state.style := hstyle
  obtain rfl : constructs = state.constructs := hconstructs
  refine ⟨result, indexes, bullet, last, comments, rfl, fun text hresult => ?_⟩
  rw [hresult] at hrun
  have hplace := hrestores.view_eq hrun
  exact ⟨congrArg Prod.fst hplace, congrArg Prod.snd hplace⟩

end Writer

end MarkdownWriter
