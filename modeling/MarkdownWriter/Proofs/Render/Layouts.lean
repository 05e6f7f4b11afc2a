import MarkdownWriter.Proofs.Render.Faults
import MarkdownWriter.Proofs.Render.Lists

/-!
# What layouts do

But for having its children written, a layout is quiet: it changes nothing, and an accepted style
keeps it from failing (`Render.Quiet`). So is the whole layout of a leaf (`Leaf.quiet_layout`).

The layout of a container has the children written once, with quiet actions before and behind,
inside the constructs it opens. What is not affected by that (`Layout.Surrounds`) holds of the
layout if it holds of the writing of the children (`Layout.Surrounds.container`). Only a list does
more: it has a marker while its items are written (`Layout.Surrounds.list`).
-/

namespace MarkdownWriter

/-! ## Quiet actions -/

/-- An action that changes nothing, and that an accepted style keeps from failing. -/
structure Render.Quiet {α : Type} (action : Render α) : Prop where
  steady : Steady action
  fails : FailsFor [] [] action

namespace Render.Quiet

variable {α β : Type} {action : Render α} {next : α → Render β} {state after : State}
  {error : RenderError}

theorem pure (value : α) : Quiet (Pure.pure value : Render α) :=
  ⟨.pure value, .pure value⟩

theorem get : Quiet (MonadState.get : Render State) :=
  ⟨.get, .get⟩

/-- A choice that every accepted style provides. -/
theorem ofStyle {check : Style → Except StyleError α}
    (h : ∀ {style : Style}, style.Provides → ∃ value, check style = .ok value) :
    Quiet (Render.ofStyle check) :=
  ⟨.ofStyle check, .ofStyle h⟩

/-- Escaping looks at the open constructs and changes nothing. -/
theorem literal (rules : List Rule) (text : List Char) (around : Surroundings) :
    Quiet (Render.literal rules text around) :=
  ⟨.bind .get fun _ => .pure _, .literal rules text around⟩

/-- Quiet actions one after the other are quiet. -/
theorem bind (haction : Quiet action) (hnext : ∀ value, Quiet (next value)) :
    Quiet (action >>= next) :=
  ⟨.bind haction.steady fun value => (hnext value).steady, .quietly haction.fails fun value =>
    (hnext value).fails⟩

/-- A construct around a quiet action is closed again. -/
theorem entering {construct : Construct} (h : Quiet action) :
    Quiet (Render.entering construct action) :=
  ⟨.entering h.steady, .entering h.fails⟩

/-- Constructs that are put aside for a quiet action are open again behind it. -/
theorem isolated (h : Quiet action) : Quiet (Render.isolated action) :=
  ⟨.isolated h.steady, .isolated h.fails⟩

/-- An accepted style keeps a quiet action from failing. -/
theorem ne_error (haction : Quiet action) (hstyle : state.style.validate = .ok ()) :
    action state ≠ (.error error, after) := by
  intro h
  obtain ⟨custom, hcustom, -⟩ := haction.fails.error h hstyle
  exact List.not_mem_nil hcustom

/-- Behind a quiet action the other one fails in the same state. -/
theorem bind_eq_error (haction : Quiet action) (h : (action >>= next) state = (.error error, after))
    (hstyle : state.style.validate = .ok ()) :
    ∃ first, action state = (.ok first, state) ∧ next first state = (.error error, after) := by
  obtain hfailed | ⟨first, middle, hrun, hrest⟩ := Render.bind_eq_error.mp h
  · exact absurd hfailed (haction.ne_error hstyle)
  · have hsteady := haction.steady state
    rw [hrun] at hsteady
    obtain rfl : middle = state := hsteady
    exact ⟨first, hrun, hrest⟩

/-- Two ways to go about the quiet action. -/
theorem ite_bind_eq_error {p : Prop} [Decidable p] {action' : Render α}
    (haction : Quiet (if p then action else action'))
    (h : (if p then action >>= next else action' >>= next) state = (.error error, after))
    (hstyle : state.style.validate = .ok ()) :
    ∃ first, (if p then action else action') state = (.ok first, state) ∧
      next first state = (.error error, after) := by
  by_cases hp : p
  · simp only [if_pos hp] at haction h ⊢
    exact haction.bind_eq_error h hstyle
  · simp only [if_neg hp] at haction h ⊢
    exact haction.bind_eq_error h hstyle

end Render.Quiet

/-! ## Leaves -/

open Render

section leaves

variable {references : Text.References} {rules : List Rule} {site : Site}

namespace Layout

/-- A rule takes its character and its length from the style. -/
theorem quiet_thematicBreak : Quiet thematicBreak :=
  .bind (.ofStyle Style.Provides.rule) fun _ => .bind (.ofStyle Style.Provides.ruleLength) fun _ =>
    .bind .get fun _ => .pure _

/-- The info string is escaped in its own constructs. -/
theorem quiet_openingFence (marker : Char) (fence : List Char) (block : CodeBlock) :
    Quiet (openingFence rules marker fence block) := by
  unfold openingFence
  split
  · exact .pure _
  · apply Quiet.bind (.entering (.literal _ _ _))
    intro escaped
    split
    · exact .pure _
    · exact .bind (.entering (.literal _ _ _)) fun _ => .pure _

/-- Code asks the style for a fence, and escapes no more than the info string. -/
theorem quiet_code (block : CodeBlock) : Quiet (code rules block) := by
  apply Quiet.bind (.ofStyle Style.Provides.fence)
  intro marker
  apply Quiet.bind .get
  intro state
  dsimp only
  split
  · exact .pure _
  · exact .bind (.entering (quiet_openingFence _ _ _)) fun _ => .pure _

/-- A destination is escaped as raw or in angle brackets. -/
theorem quiet_destination (enclosed : Bool) (after url written : List Char) :
    Quiet (destination rules enclosed after url written) := by
  unfold destination
  split
  · exact .entering (.bind (.literal _ _ _) fun _ => .pure _)
  · exact .entering (.bind (.literal _ _ _) fun _ => .pure _)

/-- A title is escaped for the quotes around it. -/
theorem quiet_title (quote : Char) (caption : Option String) (written : List Char) :
    Quiet (title rules quote caption written) := by
  unfold title
  split
  · exact .pure _
  · exact .entering (.bind (.literal _ _ _) fun _ => .pure _)

/-- A destination and a title make a resource. -/
theorem quiet_resource (quote : Char) (target : Resource) (written : List Char) :
    Quiet (resource rules quote target written) :=
  .bind (quiet_destination _ _ _ _) fun _ => quiet_title _ _ _

/-- An image has no children to write. -/
theorem quiet_image (target : Resource) (alt : List Char) : Quiet (image rules target alt) :=
  .bind (.ofStyle Style.Provides.quote) fun _ => .entering
    (.bind (.entering (.literal _ _ _)) fun _ => .bind (quiet_resource _ _ _) fun _ => .pure _)

/-- Nor has a definition, which is a label and a resource. -/
theorem quiet_definition (label : List Char) (target : Resource) :
    Quiet (definition rules label target) :=
  .bind (.ofStyle Style.Provides.quote) fun _ => .entering
    (.bind (.entering (.literal _ _ _)) fun _ => .bind (quiet_destination _ _ _ _) fun _ =>
      quiet_title _ _ _)

/-- The label of a reference is escaped as if nothing were open. -/
theorem quiet_closeReference (form : ReferenceForm) (text label written : List Char) :
    Quiet (closeReference rules form text label written) := by
  apply Quiet.bind (.isolated (.entering (.literal _ _ _)))
  intro escaped
  split
  · exact .pure _
  · split
    · exact .pure _
    · exact .pure _

/-- An image reference has its text escaped, and its label if that is shown. -/
theorem quiet_imageReference (label : List Char) (form : ReferenceForm) (alt : List Char) :
    Quiet (imageReference rules label form alt) :=
  .entering (.bind (.entering (.literal _ _ _)) fun _ => quiet_closeReference _ _ _ _)

/-- A hard break looks at what is unsafe in the open constructs. -/
theorem quiet_hardBreak : Quiet (hardBreak rules site) := by
  apply Quiet.bind .get
  intro state
  split
  · exact .pure _
  · split
    · exact .pure _
    · exact .pure _

end Layout

/-- The layouts of leaves change nothing and do not fail. -/
theorem Leaf.quiet_layout (content : Leaf) : Quiet (content.layout references rules site) := by
  cases content with
  | thematicBreak => exact Layout.quiet_thematicBreak
  | html value => exact .pure _
  | code block => exact Layout.quiet_code _
  | definition association target => exact Layout.quiet_definition _ _
  | text value => exact .literal _ _ _
  | inlineCode value => exact .pure _
  | hardBreak => exact Layout.quiet_hardBreak
  | image target alt => exact Layout.quiet_image _ _
  | imageReference association form alt => exact Layout.quiet_imageReference _ _ _

end leaves

/-! ## The marker of a list -/

namespace Layout

/-- Whether items look like a rule depends on the items and the style alone. -/
theorem quiet_looksLikeRule (usual : Char) (items : List Node) :
    Quiet (looksLikeRule usual items) := by
  apply Quiet.bind .get
  intro state
  dsimp only
  split
  · exact .bind (.ofStyle Style.Provides.rule) fun _ => .pure _
  · exact .pure _

/-- An accepted style has a usual marker for lists of both kinds. -/
theorem quiet_usualMarker (ordered : Bool) :
    Quiet (ofStyle (if ordered then Style.delimiter else Style.bulletMarker)) :=
  .ofStyle fun h => by
    split
    · exact h.delimiter
    · exact h.bullet

/-- It has another one for both kinds, too. -/
theorem quiet_otherMarker (ordered : Bool) :
    Quiet (ofStyle (if ordered then Style.otherDelimiter else Style.otherBulletMarker)) :=
  .ofStyle fun h => by
    split
    · exact h.otherDelimiter
    · exact h.otherBullet

end Layout

/-! ## Containers -/

/-- Whether such children of a container are written as blocks. -/
def Container.holdsBlocks (children : List Node) : Container → Bool
  | .root => !children.any Node.isPhrasing
  | .blockquote | .list _ | .listItem _ => true
  | _ => false

/-- What is not affected by all that a layout does around its children, other than to open a list.
-/
structure Layout.Surrounds (P : Render (List Char) → Prop) : Prop where
  quietly : ∀ {α : Type} {action : Render α} {next : α → Render (List Char)}, Quiet action →
    (∀ value, P (next value)) → P (action >>= next)
  andThen : ∀ {action : Render (List Char)} {next : List Char → Render (List Char)}, P action →
    (∀ value, Quiet (next value)) → P (action >>= next)
  entering : ∀ {construct : Construct} {action : Render (List Char)}, P action →
    P (Render.entering construct action)
  isolated : ∀ {action : Render (List Char)}, P action → P (Render.isolated action)

namespace Layout.Surrounds

variable {P : Render (List Char) → Prop} (hP : Surrounds P) {references : Text.References}
  {rules : List Rule}
  {site : Site} {blocks : Blocks} {inline : Inline}

include hP

section inline

variable (hinline : ∀ site, P (inline site))

include hinline

/-- A heading is written in one of two ways, both of them with the inline content once. -/
theorem heading (node : Node) (depth : Nat) : P (Layout.heading node depth site inline) := by
  apply hP.quietly .get
  intro state
  split
  · exact hP.andThen (hP.entering (hP.entering (hinline _))) fun _ => .pure _
  · exact hP.andThen (hP.entering (hP.entering (hinline _))) fun _ => .bind .get fun _ => .pure _

/-- Markers are put around the inline content. -/
theorem delimited (construct : Construct) (marker : List Char) :
    P (Layout.delimited construct marker site inline) :=
  hP.entering (hP.andThen (hinline _) fun _ => .pure _)

/-- A link is its text with a resource behind it, or the text alone as an autolink. -/
theorem link (target : Resource) (children : List Node) :
    P (Layout.link rules target children site inline) := by
  apply hP.quietly (.ofStyle Style.Provides.quote)
  intro quote
  apply hP.quietly .get
  intro state
  split
  · exact hP.isolated (hP.entering (hP.andThen (hinline _) fun _ => .pure _))
  · exact hP.entering (hP.andThen (hP.entering (hinline _)) fun _ =>
      .bind (quiet_resource _ _ _) fun _ => .pure _)

/-- A reference is its text, and its label behind it. -/
theorem linkReference (label : List Char) (form : ReferenceForm) :
    P (Layout.linkReference rules label form site inline) :=
  hP.entering (hP.andThen (hP.entering (hinline _)) fun _ => quiet_closeReference _ _ _ _)

end inline

section blocks

variable (hblocks : ∀ position, P (blocks position))

include hblocks

/-- The lines of the blocks are marked one by one. -/
theorem blockquote : P (Layout.blockquote site blocks) :=
  hP.entering (hP.andThen (hblocks _) fun _ => .pure _)

/-- The marker is worked out first, and the blocks are put behind it. -/
theorem listItem (spread : Bool) (parent : Option Node) :
    P (Layout.listItem spread parent site blocks) := by
  apply hP.quietly .get
  intro state
  dsimp only
  split
  · exact hP.quietly (.pure _) fun _ => hP.entering (hP.andThen (hblocks _) fun _ => .pure _)
  · exact hP.quietly (.ofStyle Style.Provides.bullet) fun _ =>
      hP.entering (hP.andThen (hblocks _) fun _ => .pure _)

end blocks

/-- In a list the items are written with its marker, and that is remembered behind them. -/
theorem list (style : ListStyle) (items : List Node) (hasParent : Bool)
    (hitems : ∀ (bullet : Char) (outer : Option Char), P (do
      modify fun state => { state with bulletCurrent := some bullet }
      let value ← blocks site.position
      modify fun after => { after with bulletLastUsed := some bullet, bulletCurrent := outer }
      return value)) : P (Layout.list style items hasParent site blocks) := by
  apply hP.quietly (quiet_usualMarker _)
  intro usual
  apply hP.quietly (quiet_otherMarker _)
  intro other
  apply hP.quietly .get
  intro outer
  refine hP.entering (hP.quietly .get fun state => ?_)
  dsimp only
  split
  · exact hP.quietly (.pure _) fun _ => hitems _ _
  · exact hP.quietly (quiet_looksLikeRule _ _) fun _ => hitems _ _

/-- **What holds of the children holds of their container.** Only the children matter that it holds,
as blocks or as inline content. -/
theorem container {content : Container} {kind : Kind} (hkind : content.kind? = some kind)
    {children : List Node} {parent : Option Node}
    (hinline : content.holdsBlocks children = false → ∀ site, P (inline site))
    (hblocks : content.holdsBlocks children = true → ∀ position, P (blocks position))
    (hlist : ∀ style, content = .list style →
      P (Layout.list style children parent.isSome site blocks)) :
    P (content.layout references rules children parent site blocks inline) := by
  cases content with
  | root =>
      simp only [Container.layout, Container.holdsBlocks, Bool.not_eq_true',
        Bool.not_eq_false'] at hinline hblocks ⊢
      split
      · next hphrasing => exact hinline hphrasing _
      · next hphrasing => exact hblocks (by simpa using hphrasing) _
  | paragraph => exact hP.entering (hP.entering (hinline rfl _))
  | heading depth => exact hP.heading (hinline rfl) _ _
  | blockquote => exact hP.blockquote (hblocks rfl)
  | list style => exact hlist style rfl
  | listItem spread => exact hP.listItem (hblocks rfl) _ _
  | emphasis =>
      exact hP.quietly (.ofStyle Style.Provides.emphasis) fun _ => hP.delimited (hinline rfl) _ _
  | strong =>
      exact hP.quietly (.ofStyle Style.Provides.strong) fun _ => hP.delimited (hinline rfl) _ _
  | link target => exact hP.link (hinline rfl) _ _
  | linkReference association form => exact hP.linkReference (hinline rfl) _ _
  | custom name value => contradiction

end Layout.Surrounds

end MarkdownWriter
