import MarkdownWriter.Proofs.Render.Neighbours
import MarkdownWriter.Proofs.Render.Peeking
import MarkdownWriter.Proofs.Render.Visits

/-!
# What an error leaves behind

When a node is refused, everything that is being written around it is cut short. The open constructs
are closed all the same, but the indexes of the containers and the marker of the list are put back
only behind a success. So a failure can be read off the state it leaves (`Writer.remains_of_error`):

* **The indexes** are grown by the path that led to the refused node, from the innermost container
  outwards. A container whose children are being written always leaves its own one.
* **The marker** is that of the innermost list on that path.

Only a node that is refused itself leaves no trace. In inline content the next child is looked ahead
at before its turn has come; if it is refused then, the index that is left is that of the child in
front of it.
-/

namespace MarkdownWriter

open Render Layout

/-! ## Interruptions -/

/-- How a rendering is cut short. -/
structure Interruption where
  /-- The indexes of the children that are being written, from the innermost one outwards. -/
  path : List Nat
  /-- The marker of the innermost list that is being written. -/
  marker : Option Char
  /-- The node that is refused. -/
  culprit : Node
  error : RenderError

namespace Interruption

/-- A node is refused before any children of it are written. -/
def here (culprit : Node) (error : RenderError) : Interruption :=
  ⟨[], none, culprit, error⟩

/-- What becomes of an interruption in a container that is writing the child with an index, with a
marker if it is a list. -/
def within (interruption : Interruption) (index : Nat) (marker : Option Char) : Interruption :=
  { interruption with
    path := interruption.path ++ [index], marker := interruption.marker.or marker }

/-- What an interruption leaves in the state. -/
structure Remains (interruption : Interruption) (state after : State) : Prop where
  indexes : after.indexes = interruption.path ++ state.indexes
  bulletCurrent : after.bulletCurrent = interruption.marker.or state.bulletCurrent

variable {interruption : Interruption} {state after : State}

/-- A node that is refused leaves the state as it was. -/
theorem remains_here (culprit : Node) (error : RenderError) (state : State) :
    (here culprit error).Remains state state :=
  ⟨rfl, rfl⟩

/-- Within a container some child is being written. -/
theorem path_within_ne_nil (interruption : Interruption) (index : Nat) (marker : Option Char) :
    (interruption.within index marker).path ≠ [] :=
  List.append_ne_nil_of_right_ne_nil _ (List.cons_ne_nil _ _)

/-- What is left of a child is left of its container. -/
theorem Remains.within {outer : State} {index : Nat} (h : interruption.Remains state after)
    (hstate : state.IsWithin index outer) :
    (interruption.within index none).Remains outer after where
  indexes := by
    rw [h.indexes, hstate.indexes, Interruption.within, List.append_assoc, List.singleton_append]
  bulletCurrent := by
    rw [h.bulletCurrent, hstate.bulletCurrent, Interruption.within, Option.or_none]

/-- What is left of the items of a list is left of the list. -/
theorem Remains.openList {index : Nat} {bullet : Char}
    (h : (interruption.within index none).Remains (openList bullet state) after) :
    (interruption.within index (some bullet)).Remains state after where
  indexes := h.indexes
  bulletCurrent := by
    have hbullet := h.bulletCurrent
    rw [Interruption.within, Option.or_none] at hbullet
    rw [hbullet, Interruption.within, Option.or_assoc]
    rfl

end Interruption

/-! ## Who is refused -/

/-- What may be come to while a plan is carried out. -/
inductive Plan.HasPart : Plan → Plan → Prop where
  | whole (plan : Plan) : HasPart plan plan
  | entering {construct : Construct} {plan part : Plan} (h : HasPart plan part) :
      HasPart (.entering construct plan) part
  | isolated {plan part : Plan} (h : HasPart plan part) : HasPart (.isolated plan) part
  | placed {site : Site} {plan part : Plan} (h : HasPart plan part) :
    HasPart (.placed site plan) part
  | first {plan part : Plan} {next : List Char → Plan} (h : HasPart plan part) :
    HasPart (.andThen plan next) part
  | next {plan part : Plan} {next : List Char → Plan} (text : List Char)
    (h : HasPart (next text) part) :
      HasPart (.andThen plan next) part

/-- A handler wants something done with a node, perhaps among other things. -/
def Handler.Wants (handler : Handler) (node : Node) (part : Plan) : Prop :=
  ∃ parent state site, (handler.plan node parent state site).HasPart part

/-- The errors a node itself is refused with: there is no handler for it, the handler refuses it or
has it laid out as a node of another kind, or the handler refuses it when it is asked how the node
begins. -/
inductive Writer.Refuses (writer : Writer) (style : Style) (node : Node) : RenderError → Prop where
  | unhandled {error : RenderError} (h : writer.handler node = .error error) :
    Refuses writer style node error
  | declined {handler : Handler} {error : RenderError}
    (hhandler : writer.handler node = .ok handler)
      (hplan : handler.Wants node (.refuse error)) : Refuses writer style node error
  | mismatched {handler : Handler} {kind : Kind} (hhandler : writer.handler node = .ok handler)
      (hplan : handler.Wants node (.layout kind)) (hkind : node.kind? ≠ some kind) :
      Refuses writer style node (.mismatchedNode kind node.kindName)
  | unknownFront {handler : Handler} {error : RenderError}
    (hhandler : writer.handler node = .ok handler)
      (hpeek : ∃ state : State, state.style = style ∧ handler.peek node state = .error error) :
      Refuses writer style node error

/-- The marker that a node has while its children are written: a list has the one it takes, unless
the writer has another handler for lists, and other nodes have none. -/
def Writer.MarksWith (writer : Writer) (style : Style) (node : Node) (marker : Option Char) :
    Prop :=
  match node with
  | .branch (.list list) items =>
      (∃ bullet hasParent opened, marker = some bullet ∧ opened.style = style ∧
        listBullet list items hasParent opened = .ok bullet) ∨
        (marker = none ∧ ¬ writer.LaysOut .list)
  | _ => marker = none

/-- Whether the children of a node are written as blocks, whatever its parent and its site. -/
def Writer.WritesBlocks (writer : Writer) (node : Node) : Prop :=
  node.blocks ≠ [] ∧ ∃ kind, node.kind? = some kind ∧ writer.LaysOut kind

/-- Whether a child may be the one that is cut short while the index of its container is at `index`:
it is the child with that index, or the next one if children are looked ahead at. -/
def Node.IsReached (children : List Node) (ahead : Prop) (index : Nat) (child : Node) : Prop :=
  children[index]? = some child ∨ (ahead ∧ children[index + 1]? = some child)

/-- How the rendering of a node may be cut short: it is refused, or one of its children is cut
short. -/
inductive Writer.Interrupted (writer : Writer) (style : Style) : Node → Interruption → Prop where
  | refused {node : Node} {error : RenderError} (h : writer.Refuses style node error) :
      Interrupted writer style node (.here node error)
  | within {node child : Node} {index : Nat} {marker : Option Char} {interruption : Interruption}
      (hchild : Node.IsReached node.children (¬ writer.WritesBlocks node) index child)
      (hmarker : writer.MarksWith style node marker)
        (h : Interrupted writer style child interruption) :
      Interrupted writer style node (interruption.within index marker)

/-- How the writing of children may be cut short. -/
def Writer.InterruptedAmong (writer : Writer) (children : List Node) (ahead : Prop) (style : Style)
    (interruption : Interruption) : Prop :=
  ∃ index child inner, Node.IsReached children ahead index child ∧
    writer.Interrupted style child inner ∧ interruption = inner.within index none

/-! ## Actions -/

/-- An action that keeps the style, and that leaves one of some interruptions behind if it fails
with an accepted style. -/
structure Render.Interrupts {α : Type} (ends : Style → Interruption → Prop) (action : Render α) :
    Prop where
  style : ∀ state, (action state).2.style = state.style
  error : ∀ {state error after}, action state = (.error error, after) →
    state.style.validate = .ok () → ∃ interruption, ends state.style interruption ∧
    interruption.error = error ∧ interruption.Remains state after

namespace Render.Interrupts

variable {α β : Type} {ends ends' : Style → Interruption → Prop} {action : Render α}
  {next : α → Render β}

/-- What never fails is never cut short. -/
theorem of_quiet (h : Quiet action) : Interrupts ends action where
  style := h.fails.style
  error := fun hrun hstyle => absurd hrun (h.ne_error hstyle)

/-- What is cut short in some ways is cut short in these and others. -/
theorem mono (h : Interrupts ends action) (hends : ∀ {style interruption}, ends style interruption →
    ends' style interruption) : Interrupts ends' action where
  style := h.style
  error := fun hrun hstyle => by
    obtain ⟨interruption, hinterruption, herror, hremains⟩ := h.error hrun hstyle
    exact ⟨interruption, hends hinterruption, herror, hremains⟩

/-- What is cut short behind a steady action is cut short in the same state. -/
theorem steadily (hsteady : Steady action) (haction : Interrupts ends action)
    (hnext : ∀ value, Interrupts ends (next value)) : Interrupts ends (action >>= next) where
  style := style_bind haction.style fun value => (hnext value).style
  error := fun {state error after} h hstyle => by
    obtain hfailed | ⟨value, middle, hrun, hrest⟩ := bind_eq_error.mp h
    · exact haction.error hfailed hstyle
    · have hmiddle := hsteady state
      rw [hrun] at hmiddle
      obtain rfl : middle = state := hmiddle
      exact (hnext value).error hrest hstyle

/-- A quiet action in front is not the one that is cut short. -/
theorem quietly (haction : Quiet action) (hnext : ∀ value, Interrupts ends (next value)) :
    Interrupts ends (action >>= next) :=
  steadily haction.steady (of_quiet haction) hnext

/-- Nor is one behind. -/
theorem andThen (haction : Interrupts ends action) (hnext : ∀ value, Quiet (next value)) :
    Interrupts ends (action >>= next) where
  style := style_bind haction.style fun value => (hnext value).fails.style
  error := fun {state error after} h hstyle => by
    obtain hfailed | ⟨value, middle, hrun, hrest⟩ := bind_eq_error.mp h
    · exact haction.error hfailed hstyle
    · have hmiddle := haction.style state
      rw [hrun] at hmiddle
      exact absurd hrest ((hnext value).ne_error (hmiddle ▸ hstyle))

/-- Open constructs are no part of what an interruption leaves. -/
theorem entering {construct : Construct} (h : Interrupts ends action) :
    Interrupts ends (Render.entering construct action) where
  style := fun _ => h.style _
  error := fun hrun hstyle => by
    obtain ⟨middle, hmiddle, rfl⟩ := entering_eq_iff.mp hrun
    obtain ⟨interruption, hends, herror, hremains⟩ := h.error hmiddle hstyle
    exact ⟨interruption, hends, herror, hremains.indexes, hremains.bulletCurrent⟩

/-- Nor is it of importance that none is open. -/
theorem isolated (h : Interrupts ends action) : Interrupts ends (Render.isolated action) where
  style := fun _ => h.style _
  error := fun hrun hstyle => by
    obtain ⟨middle, hmiddle, rfl⟩ := isolated_eq_iff.mp hrun
    obtain ⟨interruption, hends, herror, hremains⟩ := h.error hmiddle hstyle
    exact ⟨interruption, hends, herror, hremains.indexes, hremains.bulletCurrent⟩

/-- What is cut short behind an action that keeps its place is cut short in the same place. -/
theorem bind (hplace : Restores State.place action) (haction : Interrupts ends action)
    (hnext : ∀ value, Interrupts ends (next value)) : Interrupts ends (action >>= next) where
  style := style_bind haction.style fun value => (hnext value).style
  error := fun {state error after} h hstyle => by
    obtain hfailed | ⟨value, middle, hrun, hrest⟩ := bind_eq_error.mp h
    · exact haction.error hfailed hstyle
    · have hmiddle : middle.style = state.style := by
        have hkept := haction.style state
        rwa [hrun] at hkept
      obtain ⟨hindexes, hbullet⟩ := Prod.mk.inj (hplace.view_eq hrun)
      obtain ⟨interruption, hends, herror, hremains⟩ := (hnext value).error hrest (hmiddle ▸ hstyle)
      refine ⟨interruption, hmiddle ▸ hends, herror, ?_, ?_⟩
      · rw [hremains.indexes, hindexes]
      · rw [hremains.bulletCurrent, hbullet]

/-- What is thrown leaves the state as it is. -/
theorem throw {error : RenderError} (h : ∀ style, ∃ interruption, ends style interruption ∧
    interruption.error = error ∧ interruption.path = [] ∧ interruption.marker = none) :
    Interrupts ends (MonadExcept.throw error : Render α) where
  style := fun _ => rfl
  error := fun {state thrown after} hrun _ => by
    obtain ⟨hthrown, rfl⟩ := outcome_eq_iff.mp hrun
    obtain ⟨interruption, hends, herror, hpath, hmarker⟩ := h state.style
    refine ⟨interruption, hends, herror.trans (Except.error.inj hthrown), ?_, ?_⟩
    · rw [hpath, List.nil_append]
    · rw [hmarker, Option.none_or]

/-- So a layout is cut short as the writing of the children in it is. -/
theorem surrounds : Surrounds (Interrupts ends) where
  quietly := quietly
  andThen := andThen
  entering := entering
  isolated := isolated

end Render.Interrupts

/-! ## Lists -/

namespace Layout

/-- A list fails while its items are written with the marker it takes. -/
theorem list_eq_error {list : ListStyle} {items : List Node} {hasParent : Bool} {site : Site}
    {blocks : Blocks} {state after : State} {error : RenderError}
    (h : Layout.list list items hasParent site blocks state = (.error error, after))
    (hstyle : state.style.validate = .ok ()) :
    ∃ bullet middle, listBullet list items hasParent state = .ok bullet ∧
      blocks site.position (openList bullet state) = (.error error, middle) ∧
      { middle with constructs := middle.constructs.tail } = after := by
  have hlooks (usual : Char) :
      Quiet (if list.ordered then pure false else looksLikeRule usual items) := by
    split
    · exact .pure _
    · exact quiet_looksLikeRule _ _
  unfold Layout.list at h
  obtain ⟨usual, husual, h⟩ := (quiet_usualMarker _).bind_eq_error h hstyle
  obtain ⟨other, hother, h⟩ := (quiet_otherMarker _).bind_eq_error h hstyle
  rw [bind_run_ok (get_run _)] at h
  obtain ⟨middle, h, hafter⟩ := entering_eq_iff.mp h
  rw [bind_run_ok (get_run _)] at h
  obtain ⟨misread, hrun, h⟩ := (hlooks usual).ite_bind_eq_error h hstyle
  dsimp only at h
  rw [bind_run_ok (modify_run _ _)] at h
  obtain hblocks | ⟨value, behind, -, hreturn⟩ := Render.bind_eq_error.mp h
  · exact ⟨_, middle, listBullet_of_eq_ok (ofStyle_eq_ok.mp husual).1 (ofStyle_eq_ok.mp hother).1
      (misreads_eq_ok hrun).1, hblocks, hafter⟩
  · rw [bind_run_ok (modify_run _ _)] at hreturn
    cases congrArg Prod.fst hreturn

end Layout

/-! ## The recursion -/

namespace Writer

variable {writer : Writer}

/-- A writer that lays a node out has it done by its handler. -/
theorem LaysOut.plan_eq {kind : Kind} (hwriter : writer.LaysOut kind) {node : Node}
    (hkind : node.kind? = some kind) {handler : Handler}
    (hhandler : writer.handler node = .ok handler) (parent : Option Node) (state : State)
    (site : Site) : handler.plan node parent state site = .layout kind := by
  rw [hwriter.handler_eq hkind] at hhandler
  obtain rfl := Except.ok.inj hhandler
  rfl

/-- Looking ahead at a node fails if it is refused or cut short. -/
theorem interrupts_peek {node : Node} {rendered : Render (List Char)}
    (h : Interrupts (writer.Interrupted · node) rendered) :
    Interrupts (writer.Interrupted · node) (writer.peek node rendered) := by
  unfold peek
  split
  · exact .of_quiet (.pure _)
  · next handler hhandler =>
      refine .steadily (.ofState _) ⟨fun state => by rw [ofState_run],
        fun {state error after} hrun _ => ?_⟩
        fun first => ?_
      · rw [ofState_run] at hrun
        cases hpeek : handler.peek node state with
        | error refused =>
            rw [hpeek] at hrun
            obtain ⟨herror, rfl⟩ := outcome_eq_iff.mp hrun
            exact ⟨.here node error,
              .refused (Except.error.inj herror ▸ .unknownFront hhandler ⟨state, rfl, hpeek⟩), rfl,
              Interruption.remains_here _ _ _⟩
        | ok first =>
            rw [hpeek] at hrun
            cases congrArg Prod.fst hrun
      · split
        · exact .of_quiet (.pure _)
        · exact h.andThen fun _ => .pure _

section children

variable {parent : Node} {children : List Node} {outer state after : State} {i index : Nat}
  {error : RenderError}

/-- What a failure while children are written from an index on leaves behind. -/
theorem exists_of_blocksFrom_eq_error
    (hchildren : ∀ child ∈ children, ∀ parent site, Interrupts (writer.Interrupted · child)
      (writer.render child parent site))
    (hstate : state.IsWithin i outer) (hstyle : outer.style.validate = .ok ()) {position : Position}
    (h : blocksFrom writer parent children index position state = (.error error, after)) :
    ∃ n child inner, children[n]? = some child ∧ writer.Interrupted outer.style child inner ∧
      inner.error = error ∧ (inner.within (index + n) none).Remains outer after := by
  induction children generalizing i index position state with
  | nil =>
      rw [blocksFrom] at h
      cases congrArg Prod.fst h
  | cons child rest ih =>
      obtain ⟨hchild, hrest⟩ := List.forall_mem_cons.mp hchildren
      have hstart := hstate.goTo index
      rw [blocksFrom, bind_run_ok (goTo_run _ _)] at h
      obtain hfailed | ⟨text, middle, hrender, h⟩ := bind_eq_error.mp h
      · obtain ⟨inner, hinner, herror, hremains⟩ :=
          (hchild _ _).error hfailed (hstart.style ▸ hstyle)
        exact ⟨0, child, inner, rfl, hstart.style ▸ hinner, herror, hremains.within hstart⟩
      · have hmiddle := hstart.restored (restores_render writer _ _ _) hrender
        have hforgotten := hmiddle.restored (restores_forgetBullet child) (forgetBullet_run _ _)
        rw [bind_run_ok (forgetBullet_run _ _)] at h
        cases hnext : rest.head? with
        | none =>
            rw [hnext] at h
            cases congrArg Prod.fst h
        | some next =>
            rw [hnext] at h
            dsimp only at h
            obtain ⟨behind, hbetween, -⟩ := exists_between writer child next parent
              { middle with bulletLastUsed := if child.isList then middle.bulletLastUsed else none }
            have hbehind := hforgotten.restored (restores_between writer _ _ _) hbetween
            rw [bind_run_ok hbetween] at h
            obtain hfailed | ⟨following, last, -, hreturn⟩ := bind_eq_error.mp h
            · obtain ⟨n, other, inner, hother, hinner, herror, hremains⟩ := ih hrest hbehind hfailed
              rw [show index + 1 + n = index + (n + 1) by omega] at hremains
              exact ⟨n + 1, other, inner, hother, hinner, herror, hremains⟩
            · cases congrArg Prod.fst hreturn

/-- To look ahead fails for the next child, if there is one. -/
theorem interrupts_ahead {rest : List Node} {site : Site} {position : Position}
    (hrest : ∀ child ∈ rest, ∀ parent site, Interrupts (writer.Interrupted · child)
      (writer.render child parent site)) :
    Interrupts (fun style interruption => ∃ next, rest.head? = some next ∧
      writer.Interrupted style next interruption) (writer.ahead parent site rest position) := by
  unfold ahead
  split
  · exact .of_quiet (.pure _)
  · next next hnext =>
      rw [map_eq_pure_bind]
      have hpeek :=
        interrupts_peek (hrest next (List.mem_of_mem_head? hnext) (some parent) ⟨[], [], position⟩)
      exact (hpeek.mono fun h => ⟨next, hnext, h⟩).andThen fun _ => .pure _

/-- What a failure of inline content leaves behind: the index may be that of the child in front of
the one that is cut short, which has been looked ahead at. -/
theorem exists_of_inlinesFrom_eq_error
    (hchildren : ∀ child ∈ children, ∀ parent site, Interrupts (writer.Interrupted · child)
      (writer.render child parent site))
    (hstate : state.IsWithin i outer) (hstyle : outer.style.validate = .ok ()) {site : Site}
    {progress : Progress}
    (h : inlinesFrom writer parent site children index progress state = (.error error, after)) :
    ∃ n child inner, Node.IsReached children True n child ∧
      writer.Interrupted outer.style child inner ∧ inner.error = error ∧
      (inner.within (index + n) none).Remains outer after := by
  induction children generalizing i index progress state with
  | nil =>
      rw [inlinesFrom] at h
      cases congrArg Prod.fst h
  | cons child rest ih =>
      obtain ⟨hchild, hrest⟩ := List.forall_mem_cons.mp hchildren
      have hstart := hstate.goTo index
      rw [inlinesFrom_cons, bind_run_ok (goTo_run _ _)] at h
      obtain hfailed | ⟨told, middle, hahead, h⟩ := bind_eq_error.mp h
      · obtain ⟨inner, ⟨next, hnext, hinner⟩, herror, hremains⟩ :=
          (interrupts_ahead hrest).error hfailed (hstart.style ▸ hstyle)
        rw [List.head?_eq_getElem?] at hnext
        exact ⟨0, next, inner, .inr ⟨trivial, hnext⟩, hstart.style ▸ hinner, herror,
          hremains.within hstart⟩
      · have hmiddle := hstart.restored (restores_ahead writer _ _ _ _) hahead
        obtain hfailed | ⟨text, behind, hrender, h⟩ := bind_eq_error.mp h
        · obtain ⟨inner, hinner, herror, hremains⟩ :=
            (hchild _ _).error hfailed (hmiddle.style ▸ hstyle)
          exact ⟨0, child, inner, .inl rfl, hmiddle.style ▸ hinner, herror, hremains.within hmiddle⟩
        · have hbehind := hmiddle.restored (restores_render writer _ _ _) hrender
          obtain ⟨n, other, inner, hother, hinner, herror, hremains⟩ := ih hrest hbehind h
          rw [show index + 1 + n = index + (n + 1) by omega] at hremains
          exact ⟨n + 1, other, inner, hother, hinner, herror, hremains⟩

end children

section node

variable {node : Node}
  (hchildren : ∀ child ∈ node.children, ∀ parent site, Interrupts (writer.Interrupted · child)
    (writer.render child parent site))

include hchildren

/-- Blocks are cut short at the child whose index is left behind. -/
theorem interrupts_blocks (position : Position) :
    Interrupts (writer.InterruptedAmong node.children False) (writer.blocks node position) where
  style := (restores_blocks writer _ _).style
  error := fun {state error after} hrun hstyle => by
    have hstate : State.IsWithin { state with indexes := 0 :: state.indexes } 0 state :=
      ⟨rfl, rfl, rfl, rfl⟩
    obtain ⟨n, child, inner, hchild, hinner, herror, hremains⟩ :=
      exists_of_blocksFrom_eq_error hchildren hstate hstyle (counting_eq_error.mp hrun)
    rw [Nat.zero_add] at hremains
    exact ⟨_, ⟨n, child, inner, .inl hchild, hinner, rfl⟩, herror, hremains⟩

/-- Inline content is cut short there, or at the next child. -/
theorem interrupts_inlines (site : Site) :
    Interrupts (writer.InterruptedAmong node.children True) (writer.inlines node site) where
  style := (restores_inlines writer _ _).style
  error := fun {state error after} hrun hstyle => by
    have hstate : State.IsWithin { state with indexes := 0 :: state.indexes } 0 state :=
      ⟨rfl, rfl, rfl, rfl⟩
    obtain ⟨n, child, inner, hchild, hinner, herror, hremains⟩ :=
      exists_of_inlinesFrom_eq_error hchildren hstate hstyle (counting_eq_error.mp hrun)
    rw [Nat.zero_add] at hremains
    exact ⟨_, ⟨n, child, inner, hchild, hinner, rfl⟩, herror, hremains⟩

end node

/-- A node other than a list, and one that another handler writes, is cut short as its children are.
-/
theorem Interrupted.of_among {node : Node} {ahead : Prop} {style : Style}
    {interruption : Interruption} (hahead : ahead → ¬ writer.WritesBlocks node)
    (hlist : node.isList = true → ¬ writer.LaysOut .list)
    (h : writer.InterruptedAmong node.children ahead style interruption) :
    writer.Interrupted style node interruption := by
  obtain ⟨index, child, inner, hchild, hinner, rfl⟩ := h
  refine .within (hchild.imp id fun h => ⟨hahead h.1, h.2⟩) ?_ hinner
  unfold MarksWith
  split
  · exact .inr ⟨rfl, hlist rfl⟩
  · rfl

/-- A list that is laid out is cut short as its items are, with the marker that it takes. -/
theorem interrupts_list {list : ListStyle} {items : List Node} {hasParent : Bool} {site : Site}
    (hblocks : ∀ position, Interrupts (writer.InterruptedAmong items False)
      (writer.blocks (.branch (.list list) items) position)) :
    Interrupts (writer.Interrupted · (.branch (.list list) items))
      (Layout.list list items hasParent site (writer.blocks (.branch (.list list) items))) where
  style := (Layout.restores_list (restores_blocks writer _) _ _ _).style
  error := fun {state error after} hrun hstyle => by
    obtain ⟨bullet, middle, hbullet, hitems, rfl⟩ := Layout.list_eq_error hrun hstyle
    obtain ⟨interruption, ⟨index, child, inner, hchild, hinner, rfl⟩, herror, hremains⟩ :=
      (hblocks _).error hitems hstyle
    refine ⟨inner.within index (some bullet), .within (hchild.imp id fun h => h.1.elim) ?_ hinner,
      herror, ?_⟩
    · exact .inl ⟨bullet, hasParent, state, rfl, rfl, hbullet⟩
    · exact ⟨hremains.openList.indexes, hremains.openList.bulletCurrent⟩

/-- Of a container only the children it holds are written, as blocks or as inline content. -/
theorem interrupts_layout {content : Container} {kind : Kind} (hkind : content.kind? = some kind)
    {children : List Node} {parent : Option Node} {site : Site}
    (hblocks : ∀ position, Interrupts (writer.InterruptedAmong children False)
      (writer.blocks (.branch content children) position))
    (hinline : ∀ site, Interrupts (writer.InterruptedAmong children True)
      (writer.inlines (.branch content children) site)) :
    Interrupts (writer.Interrupted · (.branch content children))
      (content.layout writer.references writer.rules children parent site
        (writer.blocks (.branch content children))
        (writer.inlines (.branch content children))) := by
  by_cases hlist : (Node.branch content children).isList = true
  · cases content with
    | list list => exact interrupts_list hblocks
    | _ => contradiction
  · apply Interrupts.surrounds.container hkind
    · intro hholds site
      refine (hinline site).mono (.of_among (fun _ hwrites => hwrites.1 ?_) fun h => absurd h hlist)
      rw [Node.blocks, hholds, if_neg Bool.false_ne_true]
    · intro _ position
      exact (hblocks position).mono (.of_among False.elim fun h => absurd h hlist)
    · rintro list rfl
      exact absurd rfl hlist

/-- The library's own handler wants nothing but the layout of its kind. -/
theorem LaysOut.eq_of_wants {kind : Kind} (hwriter : writer.LaysOut kind) {node : Node}
    (hkind : node.kind? = some kind) {handler : Handler}
    (hhandler : writer.handler node = .ok handler) {part : Plan} (h : handler.Wants node part) :
    part = .layout kind := by
  obtain ⟨parent, state, site, hpart⟩ := h
  rw [hwriter.plan_eq hkind hhandler] at hpart
  cases hpart
  rfl

/-- Whatever its handler wants done with a node, it is refused, or cut short as its children are.
The induction is on the parts of what is wanted. -/
theorem interrupts_run {node : Node} {handler : Handler}
    (hhandler : writer.handler node = .ok handler)
    (hblocks : ∀ position,
      Interrupts (writer.InterruptedAmong node.children False) (writer.blocks node position))
    (hinline : ∀ site,
      Interrupts (writer.InterruptedAmong node.children True) (writer.inlines node site))
    {plan : Plan} (hwants : ∀ part, plan.HasPart part → handler.Wants node part)
    (parent : Option Node) (site : Site) :
    Interrupts (writer.Interrupted · node)
      (plan.run writer.references writer.rules node parent site (writer.blocks node)
        (writer.inlines node)) := by
  have hlist {part : Plan} (hpart : handler.Wants node part) (h : node.isList = true)
      (hwriter : writer.LaysOut .list) : part = .layout .list := by
    refine hwriter.eq_of_wants ?_ hhandler hpart
    unfold Node.isList at h
    split at h
    · rfl
    · contradiction
  have hplace (plan : Plan) (site : Site) : Restores State.place
      (plan.run writer.references writer.rules node parent site (writer.blocks node)
        (writer.inlines node)) :=
    plan.restores_run (restores_inlines writer node) (restores_blocks writer node) node
  induction plan generalizing site with
  | text value => exact .of_quiet (.pure _)
  | literal value around => exact .of_quiet (.literal _ _ _)
  | refuse error =>
      exact .throw fun style =>
        ⟨.here node error, .refused (.declined hhandler (hwants _ (.whole _))), rfl, rfl, rfl⟩
  | blocks =>
      have hpart := hwants _ (.whole _)
      exact (hblocks _).mono (.of_among False.elim fun h hwriter => nomatch hlist hpart h hwriter)
  | inline =>
      have hpart := hwants _ (.whole _)
      refine (hinline _).mono (.of_among ?_ fun h hwriter => nomatch hlist hpart h hwriter)
      rintro - ⟨-, kind, hkind, hwriter⟩
      exact nomatch hwriter.eq_of_wants hkind hhandler hpart
  | layout kind =>
      simp only [Plan.run]
      split
      · next hkind =>
          cases node with
          | leaf content => exact .of_quiet content.quiet_layout
          | branch content children => exact interrupts_layout hkind hblocks hinline
      · next hkind =>
          have hpart := hwants _ (.whole _)
          exact .throw fun style =>
            ⟨.here node _, .refused (.mismatched hhandler hpart hkind), rfl, rfl, rfl⟩
  | entering construct plan ih =>
      exact .entering (ih (fun part h => hwants part (.entering h)) site)
  | isolated plan ih => exact .isolated (ih (fun part h => hwants part (.isolated h)) site)
  | placed place plan ih => exact ih (fun part h => hwants part (.placed h)) place
  | andThen plan next ihPlan ihNext =>
      exact .bind (hplace plan site) (ihPlan (fun part h => hwants part (.first h)) site)
        fun text =>
        ihNext text (fun part h => hwants part (.next text h)) site

/-- A node that is not refused is cut short among its children. -/
theorem interrupts_render_of_children (node : Node)
    (hchildren : ∀ child ∈ node.children, ∀ parent site, Interrupts (writer.Interrupted · child)
      (writer.render child parent site)) (parent : Option Node) (site : Site) :
    Interrupts (writer.Interrupted · node) (writer.render node parent site) where
  style := (restores_render writer _ _ _).style
  error := fun {state error after} hrun hstyle => by
    cases hhandler : writer.handler node with
    | error refused =>
        rw [render_eq_throw hhandler] at hrun
        obtain ⟨herror, rfl⟩ := outcome_eq_iff.mp hrun
        obtain rfl := Except.error.inj herror
        exact ⟨.here node _, .refused (.unhandled hhandler), rfl, Interruption.remains_here _ _ _⟩
    | ok handler =>
        rw [render_eq_answer hhandler] at hrun
        exact (interrupts_run hhandler (interrupts_blocks hchildren) (interrupts_inlines hchildren)
          (fun part hpart => ⟨_, _, _, hpart⟩) parent site).error hrun hstyle

mutual

/-- **A node is cut short as it is refused, or as a child of it is.** -/
theorem interrupts_render (node : Node) (parent : Option Node) (site : Site) :
    Interrupts (writer.Interrupted · node) (writer.render node parent site) :=
  match node with
  | .leaf content =>
      interrupts_render_of_children (.leaf content) (fun _ hchild => absurd hchild List.not_mem_nil)
        parent site
  | .branch content children =>
      interrupts_render_of_children (.branch content children)
        (interrupts_renderAll children) parent site

/-- The same of several nodes. -/
theorem interrupts_renderAll (nodes : List Node) :
    ∀ node ∈ nodes, ∀ parent site, Interrupts (writer.Interrupted · node)
      (writer.render node parent site) :=
  match nodes with
  | [] => fun _ hnode => absurd hnode List.not_mem_nil
  | node :: nodes => List.forall_mem_cons.mpr ⟨interrupts_render node, interrupts_renderAll nodes⟩

end

/-- Only a node that is refused itself leaves no index. -/
theorem Interrupted.path_eq_nil_iff {style : Style} {node : Node} {interruption : Interruption}
    (h : writer.Interrupted style node interruption) :
    interruption.path = [] ↔ interruption = .here node interruption.error := by
  cases h with
  | refused => exact iff_of_true rfl rfl
  | within =>
      exact iff_of_false (Interruption.path_within_ne_nil _ _ _) fun heq =>
        Interruption.path_within_ne_nil _ _ _ (congrArg Interruption.path heq)

/-- **What a failure leaves behind.** The indexes of the children on the way to the node that is
refused stay in front of those there were, and the marker of the innermost list on that way stays
instead of the one there was. Nothing is left exactly if the node itself is refused, and never
behind the children of a node. -/
theorem remains_of_error (writer : Writer) {state : State}
    (hstyle : state.style.validate = .ok ()) (node : Node) :
    (∀ parent site error after, writer.render node parent site state = (.error error, after) →
      ∃ interruption, writer.Interrupted state.style node interruption ∧
        interruption.error = error ∧ interruption.Remains state after ∧
        (after.indexes = state.indexes ↔ interruption = .here node error)) ∧
    (∀ position error after, writer.blocks node position state = (.error error, after) →
      ∃ interruption, writer.InterruptedAmong node.children False state.style interruption ∧
        interruption.error = error ∧ interruption.Remains state after ∧
        after.indexes ≠ state.indexes) ∧
    (∀ site error after, writer.inlines node site state = (.error error, after) →
      ∃ interruption, writer.InterruptedAmong node.children True state.style interruption ∧
        interruption.error = error ∧ interruption.Remains state after ∧
        after.indexes ≠ state.indexes) := by
  have hindexes {interruption : Interruption} {after : State}
      (hremains : interruption.Remains state after) :
      after.indexes = state.indexes ↔ interruption.path = [] := by
    rw [hremains.indexes, List.append_left_eq_self]
  have hamong {ahead : Prop} {interruption : Interruption} {after : State}
      (h : writer.InterruptedAmong node.children ahead state.style interruption)
      (hremains : interruption.Remains state after) : after.indexes ≠ state.indexes := by
    obtain ⟨index, child, inner, -, -, rfl⟩ := h
    exact fun hkept => inner.path_within_ne_nil index none ((hindexes hremains).mp hkept)
  refine ⟨fun parent site error after hrun => ?_, fun position error after hrun => ?_,
    fun site error after hrun => ?_⟩
  · obtain ⟨interruption, hinterrupted, rfl, hremains⟩ :=
      (interrupts_render node parent site).error hrun hstyle
    exact ⟨interruption, hinterrupted, rfl, hremains,
      (hindexes hremains).trans hinterrupted.path_eq_nil_iff⟩
  · obtain ⟨interruption, hinterrupted, herror, hremains⟩ :=
      (interrupts_blocks (interrupts_renderAll node.children) position).error hrun hstyle
    exact ⟨interruption, hinterrupted, herror, hremains, hamong hinterrupted hremains⟩
  · obtain ⟨interruption, hinterrupted, herror, hremains⟩ :=
      (interrupts_inlines (interrupts_renderAll node.children) site).error hrun hstyle
    exact ⟨interruption, hinterrupted, herror, hremains, hamong hinterrupted hremains⟩

end Writer

/-! ## A list with an item that cannot be written -/

/-- A list with an item that begins with a thematic break, and one with a node there is no handler
for. -/
def unknownItem : Node :=
  .branch (.list {}) [.branch (.listItem false) [.leaf .thematicBreak],
    .branch (.listItem false) [.branch (.custom "x" none) []]]

/-- A paragraph with such a node in a block quote behind a text. -/
def unknownQuote : Node :=
  .branch .paragraph [.leaf (.text "a"), .branch .blockquote [.branch (.custom "x" none) []]]

/-- A state in which lists have a dash where they cannot have the usual marker. -/
def dashState : State :=
  { style := { bulletOther := some '-' } }

/-- Of the second item two indexes are left, and the dash if the list is written with its marker. Of
the block quote, which is looked ahead at, an index is left behind that of the text. -/
theorem remains_of_unknownItem :
    dashState.style.validate = .ok () ∧
      (∃ interruption, Writer.standard.Interrupted dashState.style unknownItem interruption ∧
        interruption.error = .unknownNode "x" ∧
        interruption.Remains dashState
          { dashState with indexes := [0, 1], bulletCurrent := some '-' }) ∧
      (∃ interruption,
        Writer.standard.InterruptedAmong unknownItem.children False dashState.style interruption ∧
        interruption.error = .unknownNode "x" ∧
        interruption.Remains dashState { dashState with indexes := [0, 1] }) ∧
      ∃ interruption,
        Writer.standard.InterruptedAmong unknownQuote.children True dashState.style interruption ∧
        interruption.error = .unknownNode "x" ∧
        interruption.Remains dashState { dashState with indexes := [0, 0] } := by
  have hstyle : dashState.style.validate = .ok () := by decide
  have hlist : Writer.standard.render unknownItem none (Writer.blockSite {}) dashState =
      (.error (.unknownNode "x"),
        { dashState with indexes := [0, 1], bulletCurrent := some '-' }) :=
    Prod.ext (by decide +kernel) (by decide +kernel)
  have hitems : Writer.standard.blocks unknownItem {} dashState =
      (.error (.unknownNode "x"), { dashState with indexes := [0, 1] }) :=
    Prod.ext (by decide +kernel) (by decide +kernel)
  have hquote : Writer.standard.inlines unknownQuote ⟨[], [], {}⟩ dashState =
      (.error (.unknownNode "x"), { dashState with indexes := [0, 0] }) :=
    Prod.ext (by decide +kernel) (by decide +kernel)
  obtain ⟨hrender, hblocks, -⟩ := Writer.standard.remains_of_error hstyle unknownItem
  obtain ⟨-, -, hinlines⟩ := Writer.standard.remains_of_error hstyle unknownQuote
  obtain ⟨list, hlist, hlistError, hlistRemains, -⟩ := hrender _ _ _ _ hlist
  obtain ⟨items, hitems, hitemsError, hitemsRemains, -⟩ := hblocks _ _ _ hitems
  obtain ⟨quote, hquote, hquoteError, hquoteRemains, -⟩ := hinlines _ _ _ hquote
  exact ⟨hstyle, ⟨list, hlist, hlistError, hlistRemains⟩,
    ⟨items, hitems, hitemsError, hitemsRemains⟩, ⟨quote, hquote, hquoteError, hquoteRemains⟩⟩

/-- Whoever goes on behind such a list finds other indexes and another marker than before it, and
writes an item with a dash where it had an asterisk. -/
theorem render_behind_unknownItem :
    (Options.node { style := { bulletOther := some '-' } } []).writer =
        .ok (Writer.standard, dashState) ∧
      (¬ ∀ node parent site error after,
        Writer.standard.render node parent site dashState = (.error error, after) →
          after.indexes = dashState.indexes ∧ after.bulletCurrent = dashState.bulletCurrent) ∧
      (Writer.standard.render (.branch (.listItem false) []) none (Writer.blockSite {})
        dashState).1 = .ok ['*'] ∧
      (Writer.standard.render (.branch (.listItem false) []) none (Writer.blockSite {})
        (Writer.standard.render unknownItem none (Writer.blockSite {}) dashState).2).1 =
          .ok ['-'] := by
  refine ⟨rfl, fun hkept => ?_, by decide +kernel, by decide +kernel⟩
  have hrun : Writer.standard.render unknownItem none (Writer.blockSite {}) dashState =
      (.error (.unknownNode "x"),
        { dashState with indexes := [0, 1], bulletCurrent := some '-' }) :=
    Prod.ext (by decide +kernel) (by decide +kernel)
  exact absurd (hkept _ _ _ _ _ hrun).1 (List.cons_ne_nil _ _)

end MarkdownWriter
