import MarkdownWriter.Proofs.Render.AdjacentLists
import MarkdownWriter.Proofs.Render.Failing
import MarkdownWriter.Proofs.Render.Frames

/-!
# Looking ahead

To escape inline content against what follows it, a writer asks how the next child begins. Some
nodes are written for that, and then written again in their turn. In between the state is not always
the one it was.

* **What a rendering leaves behind** (`Node.trail`): the marker that is remembered behind a node is
  the one before it, or none, or that of a list.
* **What looking ahead changes**: nothing for a node that begins in a known way, and the trail of
  any other one (`Writer.peeked`), so that it changes nothing in any state exactly for the former
  and for those that leave no trail (`Writer.peekAt_unchanged_iff`). A list that is written behind
  that may take another marker (`Layout.listBullet_ne_iff`).
-/

namespace MarkdownWriter

open Render Layout

/-! ## Trails -/

/-- What becomes of the remembered marker. -/
inductive Trail where
  /-- It stays what it is, and so does all else in the state. -/
  | kept
  /-- There is none any more. -/
  | forgotten
  /-- It is that of another list. -/
  | marked
  deriving DecidableEq, Repr

namespace Trail

/-- What becomes of it in one step and another. -/
def andThen : Trail → Trail → Trail
  | trail, .kept => trail
  | _, trail => trail

@[simp] theorem andThen_kept (trail : Trail) : trail.andThen .kept = trail := by
  cases trail <;> rfl

@[simp] theorem kept_andThen (trail : Trail) : kept.andThen trail = trail := by
  cases trail <;> rfl

/-- A step that changes the marker hides what the one before it did. -/
theorem andThen_of_ne_kept {first second : Trail} (h : second ≠ .kept) :
    first.andThen second = second := by
  cases second with
  | kept => contradiction
  | forgotten | marked => cases first <;> rfl

/-- Two steps keep the marker if both of them do. -/
theorem andThen_eq_kept_iff {first second : Trail} :
    first.andThen second = .kept ↔ first = .kept ∧ second = .kept := by
  cases first <;> cases second <;> decide

/-- Where the second step keeps the marker only if the first one does, the second says it all. -/
theorem andThen_eq_right {first second : Trail} (h : second = .kept → first = .kept) :
    first.andThen second = second := by
  by_cases hsecond : second = .kept
  · rw [h hsecond, kept_andThen]
  · exact andThen_of_ne_kept hsecond

/-- Two states with such a step between them. The notes about comments are looked at too, but not
the place. -/
def Leaves (trail : Trail) (state after : State) : Prop :=
  match trail with
  | .kept => after.bulletLastUsed = state.bulletLastUsed ∧ after.comments = state.comments
  | .forgotten => after.bulletLastUsed = none
  | .marked => after.bulletLastUsed.isSome = true

/-- Steps follow each other as their trails do. -/
theorem Leaves.trans {first second : Trail} {state middle after : State}
    (h : first.Leaves state middle) (h' : second.Leaves middle after) :
    (first.andThen second).Leaves state after := by
  cases second with
  | forgotten | marked => rwa [andThen_of_ne_kept (by decide)]
  | kept =>
      obtain ⟨hlast, hcomments⟩ := h'
      rw [andThen_kept]
      cases first with
      | kept => exact ⟨hlast.trans h.1, hcomments.trans h.2⟩
      | forgotten => exact hlast.trans h
      | marked => exact (congrArg Option.isSome hlast).trans h

/-- The place may be changed before and behind the step. -/
theorem Leaves.congr {trail : Trail} {state state' after after' : State}
    (h : trail.Leaves state after)
    (hstate : state'.bulletLastUsed = state.bulletLastUsed ∧ state'.comments = state.comments)
    (hafter : after'.bulletLastUsed = after.bulletLastUsed ∧ after'.comments = after.comments) :
    trail.Leaves state' after' := by
  cases trail with
  | kept =>
      exact ⟨hafter.1.trans (h.1.trans hstate.1.symm), hafter.2.trans (h.2.trans hstate.2.symm)⟩
  | forgotten => exact hafter.1.trans h
  | marked => exact (congrArg Option.isSome hafter.1).trans h

end Trail

namespace Node

/-- What becomes of the marker behind blocks: it is that of the last one if that is a list. -/
def blocksTrail (children : List Node) : Trail :=
  match children.getLast? with
  | none => .kept
  | some last => if last.isList then .marked else .forgotten

mutual

/-- What becomes of the marker behind a node. -/
def trail : Node → Trail
  | .leaf _ => .kept
  | .branch content children =>
      match content with
      | .list _ => .marked
      | .blockquote | .listItem _ => blocksTrail children
      | .root => if children.any isPhrasing then trailOfAll children else blocksTrail children
      | .custom .. => .kept
      | _ => trailOfAll children

/-- What becomes of the marker behind inline content. -/
def trailOfAll : List Node → Trail
  | [] => .kept
  | node :: nodes => node.trail.andThen (trailOfAll nodes)

end

/-- Whether the children of a node are written to see how the node begins. -/
def isWrittenAhead : Node → Bool
  | .branch .root _ | .branch .paragraph _ | .branch (.heading _) _ | .branch .blockquote
    _ | .branch (.list _) _
  | .branch (.listItem _) _ => true
  | _ => false

end Node

namespace Node

/-- A list leaves its own marker, whatever is in it. -/
theorem trail_of_isList {node : Node} (h : node.isList = true) : node.trail = .marked := by
  unfold isList at h
  split at h
  · rfl
  · contradiction

/-- The only block is the last one: behind its own trail the marker is forgotten unless it is a
list. -/
theorem blocksTrail_singleton (child : Node) :
    blocksTrail [child] = child.trail.andThen (if child.isList then .kept else .forgotten) := by
  change (if child.isList then Trail.marked else .forgotten) = _
  split
  · next hlist => rw [trail_of_isList hlist, Trail.andThen_kept]
  · rw [Trail.andThen_of_ne_kept (by decide)]

/-- Blocks in front of others leave nothing of their own. -/
theorem blocksTrail_cons_cons (child next : Node) (others : List Node) :
    blocksTrail (child :: next :: others) = blocksTrail (next :: others) := by
  unfold blocksTrail
  rw [List.getLast?_cons_cons]

/-- Behind some block the marker is never the one before it. -/
theorem blocksTrail_cons_ne_kept (child : Node) (others : List Node) :
    blocksTrail (child :: others) ≠ .kept := by
  unfold blocksTrail
  rw [List.getLast?_eq_some_getLast (List.cons_ne_nil _ _)]
  dsimp only
  split
  · nofun
  · nofun

/-- A child that is written twice does not leave more than its own trail. -/
theorem andThen_trailOfAll (child next : Node) (rest : List Node) :
    (if next.isWrittenAhead then next.trail else .kept).andThen
      (child.trail.andThen (trailOfAll (next :: rest))) =
      trailOfAll (child :: next :: rest) := by
  conv_rhs => rw [trailOfAll]
  apply Trail.andThen_eq_right
  intro hkept
  rw [trailOfAll, Trail.andThen_eq_kept_iff, Trail.andThen_eq_kept_iff] at hkept
  split
  · exact hkept.2.1
  · rfl

end Node

/-! ## Actions with a trail -/

/-- An action that keeps the style and the number of indexes, and that leaves `grown` indexes more
than there were if it fails with an accepted style. -/
structure Render.Counts {α : Type} (grown : Nat) (action : Render α) : Prop where
  style : ∀ state, (action state).2.style = state.style
  length : ∀ {state value after}, action state = (.ok value, after) →
    after.indexes.length = state.indexes.length
  error : ∀ {state error after}, action state = (.error error, after) →
    state.style.validate = .ok () → state.indexes.length + grown ≤ after.indexes.length

/-- Such an action that leaves a trail if it succeeds. -/
structure Render.Trails {α : Type} (grown : Nat) (trail : Trail) (action : Render α) : Prop
    extends Counts grown action where
  leaves : ∀ {state value after}, action state = (.ok value, after) → trail.Leaves state after

namespace Render

variable {α β : Type} {grown : Nat} {trail trail' : Trail} {action : Render α} {next : α → Render β}

/-- One action after the other: an index more is left behind by whichever of them fails. -/
theorem Counts.bind (haction : Counts grown action) (hnext : ∀ value, Counts grown (next value)) :
    Counts grown (action >>= next) where
  style := style_bind haction.style fun value => (hnext value).style
  length := fun h => by
    obtain ⟨first, middle, hfirst, hrest⟩ := bind_eq_ok.mp h
    exact ((hnext first).length hrest).trans (haction.length hfirst)
  error := fun {state error after} h hstyle => by
    obtain hfailed | ⟨first, middle, hfirst, hrest⟩ := bind_eq_error.mp h
    · exact haction.error hfailed hstyle
    · have hmiddle := haction.style state
      rw [hfirst] at hmiddle
      rw [← haction.length hfirst]
      exact (hnext first).error hrest (hmiddle ▸ hstyle)

/-- A change to other parts of the state counts as any number, as it does not fail. -/
theorem Counts.modifying {change : State → State}
    (hstyle : ∀ state, (change state).style = state.style)
    (hlength : ∀ state, (change state).indexes.length = state.indexes.length) :
    Counts grown (modify change : Render Unit) where
  style := hstyle
  length := fun {state value after} hrun => by
    obtain rfl : change state = after := congrArg Prod.snd hrun
    exact hlength state
  error := fun hrun => by cases congrArg Prod.fst hrun

namespace Trails

/-- One trail after the other. -/
theorem bind (haction : Trails grown trail action)
    (hnext : ∀ value, Trails grown trail' (next value)) :
    Trails grown (trail.andThen trail') (action >>= next) where
  toCounts := haction.toCounts.bind fun value => (hnext value).toCounts
  leaves := fun h => by
    obtain ⟨first, middle, hfirst, hrest⟩ := bind_eq_ok.mp h
    exact (haction.leaves hfirst).trans ((hnext first).leaves hrest)

/-- What comes before an action that does not keep the marker leaves no trail. -/
theorem behind (haction : Counts grown action) (htrail : trail ≠ .kept)
    (hnext : ∀ value, Trails grown trail (next value)) : Trails grown trail (action >>= next) where
  toCounts := haction.bind fun value => (hnext value).toCounts
  leaves := fun h => by
    obtain ⟨first, middle, -, hrest⟩ := bind_eq_ok.mp h
    have hleaves := (hnext first).leaves hrest
    cases trail with
    | kept => contradiction
    | forgotten | marked => exact hleaves

/-- What changes nothing leaves no trail. -/
theorem of_steady (h : Steady action) : Trails 0 .kept action where
  style := fun state => by rw [h]
  length := fun {state value after} hrun => by
    obtain rfl : state = after := (h state).symm.trans (congrArg Prod.snd hrun)
    rfl
  error := fun {state error after} hrun _ => by
    obtain rfl : state = after := (h state).symm.trans (congrArg Prod.snd hrun)
    exact Nat.le_refl _
  leaves := fun {state value after} hrun => by
    obtain rfl : state = after := (h state).symm.trans (congrArg Prod.snd hrun)
    exact ⟨rfl, rfl⟩

/-- A quiet action leaves no trail. -/
theorem of_quiet (h : Quiet action) : Trails grown .kept action where
  style := h.fails.style
  length := (of_steady h.steady).length
  error := fun hrun hstyle => absurd hrun (h.ne_error hstyle)
  leaves := (of_steady h.steady).leaves

/-- A change of the marker and the notes is a step of its own. -/
theorem modifying {change : State → State} (hstyle : ∀ state, (change state).style = state.style)
    (hlength : ∀ state, (change state).indexes.length = state.indexes.length)
    (hleaves : ∀ state, trail.Leaves state (change state)) :
    Trails grown trail (modify change : Render Unit) where
  toCounts := .modifying hstyle hlength
  leaves := fun {state value after} hrun => by
    obtain rfl : change state = after := congrArg Prod.snd hrun
    exact hleaves state

/-- To go on to a child leaves no trail. -/
theorem goTo (index : Nat) : Trails grown .kept (Render.goTo index) :=
  modifying (fun _ => rfl) (fun _ => List.length_modifyHead ..) fun _ => ⟨rfl, rfl⟩

/-- A quiet action in front changes no trail. -/
theorem quietly (haction : Quiet action) (hnext : ∀ value, Trails grown trail (next value)) :
    Trails grown trail (action >>= next) := by
  have h := (of_quiet haction).bind hnext
  rwa [Trail.kept_andThen] at h

/-- A quiet action behind changes no trail. -/
theorem andThen (haction : Trails grown trail action) (hnext : ∀ value, Quiet (next value)) :
    Trails grown trail (action >>= next) := by
  have h := haction.bind fun value => of_quiet (hnext value)
  rwa [Trail.andThen_kept] at h

/-- What leaves more indexes behind when it fails leaves at least as many. -/
theorem mono (h : Trails grown trail action) : Trails 0 trail action where
  style := h.style
  length := h.length
  error := fun hrun hstyle => Nat.le_trans (Nat.le_add_right _ _) (h.error hrun hstyle)
  leaves := h.leaves

/-- An open construct is no part of a trail. -/
theorem entering {construct : Construct} (h : Trails grown trail action) :
    Trails grown trail (Render.entering construct action) where
  style := fun _ => h.style _
  length := fun {state value after} hrun => by
    obtain ⟨middle, hmiddle, rfl⟩ := entering_eq_ok.mp hrun
    have hlength := h.length hmiddle
    exact hlength
  error := fun {state error after} hrun hstyle => by
    obtain ⟨middle, hmiddle, rfl⟩ := entering_eq_iff.mp hrun
    have herror := h.error hmiddle hstyle
    exact herror
  leaves := fun {state value after} hrun => by
    obtain ⟨middle, hmiddle, rfl⟩ := entering_eq_ok.mp hrun
    exact (h.leaves hmiddle).congr ⟨rfl, rfl⟩ ⟨rfl, rfl⟩

/-- Nor is it when no construct is open. -/
theorem isolated (h : Trails grown trail action) : Trails grown trail (Render.isolated action) where
  style := fun _ => h.style _
  length := fun {state value after} hrun => by
    obtain ⟨middle, hmiddle, rfl⟩ := isolated_eq_ok.mp hrun
    have hlength := h.length hmiddle
    exact hlength
  error := fun {state error after} hrun hstyle => by
    obtain ⟨middle, hmiddle, rfl⟩ := isolated_eq_iff.mp hrun
    have herror := h.error hmiddle hstyle
    exact herror
  leaves := fun {state value after} hrun => by
    obtain ⟨middle, hmiddle, rfl⟩ := isolated_eq_ok.mp hrun
    exact (h.leaves hmiddle).congr ⟨rfl, rfl⟩ ⟨rfl, rfl⟩

/-- The index of the children is left behind by a failure. -/
theorem counting (h : Trails 0 trail action) : Trails 1 trail (Render.counting action) where
  style := fun state => by
    have hstyle := h.style { state with indexes := 0 :: state.indexes }
    rcases hrun : Render.counting action state with ⟨error | value, after⟩
    · rwa [counting_eq_error.mp hrun] at hstyle
    · obtain ⟨middle, hmiddle, rfl⟩ := counting_eq_ok.mp hrun
      rwa [hmiddle] at hstyle
  length := fun {state value after} hrun => by
    obtain ⟨middle, hmiddle, rfl⟩ := counting_eq_ok.mp hrun
    have hlength := h.length hmiddle
    rw [List.length_tail, hlength, List.length_cons, Nat.add_sub_cancel]
  error := fun {state error after} hrun hstyle => by
    have herror := h.error (counting_eq_error.mp hrun) hstyle
    exact herror
  leaves := fun {state value after} hrun => by
    obtain ⟨middle, hmiddle, rfl⟩ := counting_eq_ok.mp hrun
    exact (h.leaves hmiddle).congr ⟨rfl, rfl⟩ ⟨rfl, rfl⟩

end Trails

end Render

/-! ## Layouts -/

section Layouts

variable {references : Text.References} {rules : List Rule} {site : Site} {blocks : Blocks}
  {inline : Inline}
  {grown : Nat} {trail : Trail}

/-- A layout adds nothing to the trail of the children in it. -/
theorem Render.Trails.surrounds : Surrounds (Trails grown trail) where
  quietly := .quietly
  andThen := .andThen
  entering := .entering
  isolated := .isolated

/-- Whatever its items leave behind, a list leaves its own marker. -/
theorem Layout.trails_list (hblocks : ∀ position, Trails grown trail (blocks position))
    (style : ListStyle) (items : List Node) (hasParent : Bool) :
    Trails grown .marked (list style items hasParent site blocks) := by
  apply Trails.surrounds.list
  intro bullet outer
  have hopen :
      Trails grown .kept (modify fun state =>
        { state with bulletCurrent := some bullet } : Render Unit) :=
    .modifying (fun _ => rfl) (fun _ => rfl) fun _ => ⟨rfl, rfl⟩
  refine .behind hopen.toCounts (by decide) fun _ =>
    .behind (hblocks _).toCounts (by decide) fun _ => ?_
  exact .andThen (.modifying (fun _ => rfl) (fun _ => rfl) fun _ => rfl) fun _ => .pure _

/-- A container other than a list leaves the trail of the children it holds. -/
theorem Node.trail_branch {content : Container} {kind : Kind} (hkind : content.kind? = some kind)
    (hlist : ∀ style, content ≠ .list style) (children : List Node) :
    (branch content children).trail =
      if content.holdsBlocks children then blocksTrail children else trailOfAll children := by
  cases content with
  | root =>
      cases hphrasing : children.any isPhrasing <;> simp [trail, Container.holdsBlocks, hphrasing]
  | list style => exact absurd rfl (hlist style)
  | custom name value => contradiction
  | _ => rfl

/-- **A container leaves the trail of its children**, unless it is a list. -/
theorem Container.trails_layout {content : Container} {kind : Kind}
    (hkind : content.kind? = some kind) {children : List Node}
    (hinline : ∀ site, Trails 1 (Node.trailOfAll children) (inline site))
    (hblocks : ∀ position, Trails 1 (Node.blocksTrail children) (blocks position))
    {parent : Option Node} :
    Trails 1 (Node.branch content children).trail
      (content.layout references rules children parent site blocks inline) := by
  by_cases hlist : ∃ style, content = .list style
  · obtain ⟨style, rfl⟩ := hlist
    exact Layout.trails_list hblocks _ _ _
  · have htrail := Node.trail_branch hkind (fun style hstyle => hlist ⟨style, hstyle⟩) children
    refine Trails.surrounds.container hkind (fun hholds => ?_)
      (fun hholds => ?_) fun style hstyle => ?_
    · rw [htrail, hholds, if_neg Bool.false_ne_true]
      exact hinline
    · rw [htrail, hholds, if_pos rfl]
      exact hblocks
    · exact absurd ⟨style, hstyle⟩ hlist

end Layouts

/-! ## Handlers that look ahead -/

namespace Writer

variable {writer : Writer}

/-- What is rendered steadily is looked ahead at steadily. -/
theorem steady_peek_of_rendered {node : Node} {rendered : Render (List Char)}
    (h : Steady rendered) : Steady (writer.peek node rendered) := by
  unfold peek
  split
  · exact .pure _
  · apply Steady.bind (.ofState _)
    intro first
    split
    · exact .pure _
    · exact .bind h fun _ => .pure _

/-- A handler that knows how its nodes begin does not render them. -/
theorem steady_peek_of_ne_none {node : Node} {handler : Handler} {rendered : Render (List Char)}
    (hhandler : writer.handler node = .ok handler)
    (h : ∀ state, handler.peek node state ≠ .ok none) :
    Steady (writer.peek node rendered) := by
  intro state
  unfold peek
  rw [hhandler]
  dsimp only
  rcases hfirst : handler.peek node state with error | first
  · rw [bind_run_error (show ofState (handler.peek node) state =
      (.error error, state) by rw [ofState_run, hfirst])]
  · rw [bind_run_ok (ofState_eq_ok.mpr ⟨hfirst, rfl⟩)]
    cases first with
    | none => exact absurd hfirst (h state)
    | some c => rfl

/-- A handler that never knows it renders them. -/
theorem peek_eq_of_eq_none {node : Node} {handler : Handler} (rendered : Render (List Char))
    (hhandler : writer.handler node = .ok handler)
    (h : ∀ state, handler.peek node state = .ok none) :
    writer.peek node rendered = do return (← rendered).head? := by
  unfold peek
  rw [hhandler]
  dsimp only
  rw [show handler.peek node = fun _ => .ok none from funext h]
  rfl

/-- A choice of the style is always some character, or an error. -/
theorem map_some_ne_none (choice : Except StyleError Char) :
    (some <$> choice).mapError RenderError.style ≠ .ok none := by
  cases choice with
  | error refused => nofun
  | ok marker => exact fun h => nomatch Except.ok.inj h

section defaults

variable (hwriter : writer.handlers = Handler.defaults) (node : Node)

include hwriter

/-- A node that does not begin in a known way is rendered, and its first character is taken. -/
theorem peek_eq_of_isWrittenAhead (h : node.isWrittenAhead = true) (rendered : Render (List Char)) :
    writer.peek node rendered = do return (← rendered).head? := by
  obtain ⟨kind, hkind, hpeek⟩ : ∃ kind, node.kind? = some kind ∧
      ∀ style, kind.peek node style = .ok none := by
    cases node with
    | leaf content => contradiction
    | branch content children =>
        cases content with
        | root | paragraph | heading _ | blockquote | list _ | listItem _ =>
            exact ⟨_, rfl, fun _ => rfl⟩
        | _ => contradiction
  exact peek_eq_of_eq_none rendered ((laysOut_of_defaults hwriter kind).handler_eq hkind)
    fun state =>
    mapError_eq_ok.mpr (hpeek state.style)

/-- Looking ahead at a node that begins in a known way changes nothing. -/
theorem steady_peek (h : node.isWrittenAhead = false) (parent : Option Node) (site : Site) :
    Steady (writer.peek node (writer.render node parent site)) := by
  cases node with
  | leaf content =>
      apply steady_peek_of_rendered
      rw [(laysOut_of_defaults hwriter content.kind).render_eq_layout rfl]
      exact content.quiet_layout.steady
  | branch content children =>
      cases content with
      | root | paragraph | heading depth | blockquote | list style | listItem spread =>
          contradiction
      | emphasis =>
          exact steady_peek_of_ne_none ((laysOut_of_defaults hwriter .emphasis).handler_eq rfl)
            fun _ => map_some_ne_none _
      | strong =>
          exact steady_peek_of_ne_none ((laysOut_of_defaults hwriter .strong).handler_eq rfl)
            fun _ => map_some_ne_none _
      | link target =>
          exact steady_peek_of_ne_none ((laysOut_of_defaults hwriter .link).handler_eq rfl)
            fun _ hnone => nomatch hnone
      | linkReference association form =>
          exact steady_peek_of_ne_none ((laysOut_of_defaults hwriter .linkReference).handler_eq rfl)
            fun _ hnone => nomatch hnone
      | custom kind value =>
          apply steady_peek_of_rendered
          rw [render_custom_eq hwriter rfl]
          exact .throw _

/-- What becomes of the marker when a node is looked ahead at. -/
theorem trails_peek {parent : Option Node} {site : Site}
    (h : Trails 0 node.trail (writer.render node parent site)) :
    Trails 0 (if node.isWrittenAhead then node.trail else .kept)
      (writer.peek node (writer.render node parent site)) := by
  split
  · next hahead =>
      rw [peek_eq_of_isWrittenAhead hwriter node hahead]
      exact h.andThen fun _ => .pure _
  · next hahead => exact .of_steady (steady_peek hwriter node (by simpa using hahead) parent site)

end defaults

/-! ## The recursion -/

/-- To separate two blocks changes neither the style nor the indexes, and does not fail. -/
theorem counts_between (left right parent : Node) :
    Counts 0 (writer.between left right parent) := by
  apply Counts.bind (Trails.of_quiet .get).toCounts
  intro state
  dsimp only
  split
  · exact .bind (.modifying (fun _ => rfl) fun _ => rfl) fun _ =>
      (Trails.of_quiet (.pure _)).toCounts
  · exact (Trails.of_quiet (.pure _)).toCounts

/-- Behind a child that is no list the marker is forgotten. -/
theorem trails_forgetBullet (child : Node) :
    Trails 0 (if child.isList then .kept else .forgotten) (forgetBullet child) := by
  unfold forgetBullet
  split
  · exact .of_quiet (.pure _)
  · exact .modifying (fun _ => rfl) (fun _ => rfl) fun _ => rfl

/-- A branch is written as its container is laid out, around its children. -/
theorem trails_branch (hwriter : writer.handlers = Handler.defaults) {content : Container}
    {kind : Kind} (hkind : content.kind? = some kind) {children : List Node} {parent : Option Node}
    {site : Site}
    (hinlines : ∀ site progress, Trails 0 (Node.trailOfAll children)
      (inlinesFrom writer (.branch content children) site children 0 progress))
    (hblocks : ∀ position, Trails 0 (Node.blocksTrail children)
      (blocksFrom writer (.branch content children) children 0 position)) :
    Trails 1 (Node.branch content children).trail
      (writer.render (.branch content children) parent site) := by
  have hkind' : (Node.branch content children).kind? = some kind := hkind
  have hinline (site : Site) :
      Trails 1 (Node.trailOfAll children) (writer.inlines (.branch content children) site) :=
    .counting (hinlines site _)
  rw [(laysOut_of_defaults hwriter kind).render_eq_layout hkind']
  exact Container.trails_layout hkind hinline fun position => .counting (hblocks position)

mutual

/-- **A rendering leaves the trail of its node.** -/
theorem trails_render (hwriter : writer.handlers = Handler.defaults) (node : Node)
    (parent : Option Node) (site : Site) : Trails 0 node.trail (writer.render node parent site) :=
  match node with
  | .leaf content => by
      rw [(laysOut_of_defaults hwriter content.kind).render_eq_layout rfl]
      exact .of_steady content.quiet_layout.steady
  | .branch content children => by
      cases hkind : content.kind? with
      | none =>
          cases content with
          | custom name value =>
              rw [render_custom_eq hwriter rfl]
              exact .of_steady (.throw _)
          | _ => contradiction
      | some kind =>
          exact (trails_branch hwriter hkind (fun site =>
            trails_inlinesFrom hwriter _ site children 0)
              (trails_blocksFrom hwriter _ children 0)).mono

/-- Blocks leave what the last of them does. -/
theorem trails_blocksFrom (hwriter : writer.handlers = Handler.defaults) (parent : Node)
    (children : List Node) (index : Nat) (position : Position) :
    Trails 0 (Node.blocksTrail children) (blocksFrom writer parent children index position) :=
  match children with
  | [] => by
      rw [blocksFrom]
      exact .of_quiet (.pure _)
  | [child] => by
      rw [blocksFrom, Node.blocksTrail_singleton, ← Trail.kept_andThen (Trail.andThen _ _)]
      exact .bind (.goTo _) fun _ => .bind (trails_render hwriter child _ _) fun _ =>
        .andThen (trails_forgetBullet child) fun _ => .pure _
  | child :: next :: others => by
      rw [blocksFrom, Node.blocksTrail_cons_cons]
      have hne := Node.blocksTrail_cons_ne_kept next others
      exact .behind (Trails.goTo _).toCounts hne fun _ =>
        .behind (trails_render hwriter child _ _).toCounts hne fun _ =>
        .behind (trails_forgetBullet child).toCounts hne fun _ =>
          .behind (counts_between _ _ _) hne fun _ =>
        .andThen (trails_blocksFrom hwriter parent (next :: others) _ _) fun _ => .pure _

/-- Inline content leaves one trail after the other, although a child may be written twice. -/
theorem trails_inlinesFrom (hwriter : writer.handlers = Handler.defaults) (parent : Node)
    (site : Site) (children : List Node) (index : Nat) (progress : Progress) :
    Trails 0 (Node.trailOfAll children) (inlinesFrom writer parent site children index progress) :=
  match children with
  | [] => by
      rw [inlinesFrom]
      exact .of_quiet (.pure _)
  | [child] => by
      rw [inlinesFrom, Node.trailOfAll, ← Trail.kept_andThen (Trail.andThen _ _)]
      exact .bind (.goTo _) fun _ => .bind (trails_render hwriter child _ _) fun _ =>
        trails_inlinesFrom hwriter parent site [] _ _
  | child :: next :: rest => by
      -- The next child is looked ahead at, and what that leaves behind is what its own rendering
      -- leaves.
      rw [inlinesFrom, ← Node.andThen_trailOfAll, ← Trail.kept_andThen (Trail.andThen _ _)]
      exact .bind (.goTo _) fun _ =>
        .bind (trails_peek hwriter next (trails_render hwriter next _ _)) fun _ =>
        .bind (trails_render hwriter child _ _) fun _ =>
          trails_inlinesFrom hwriter parent site (next :: rest) _ _

end

end Writer

/-! ## What looking ahead changes -/

attribute [ext] State

/-- A list that is opened again in its own place, behind itself, takes another marker if the other
one is chosen, unless the usual one is misread. -/
theorem Layout.listBullet_ne_iff {list : ListStyle} {items : List Node} {hasParent misread : Bool}
    {state behind : State} {usual bullet bullet' : Char}
    (husual : usualMarker list state.style = .ok usual)
    (hmisread : misreads list usual items state = .ok misread) (hstyle : behind.style = state.style)
    (hconstructs : behind.constructs = state.constructs)
    (hindexes : behind.indexes = state.indexes)
    (h : listBullet list items hasParent state = .ok bullet)
    (hlast : behind.bulletLastUsed = some bullet)
    (h' : listBullet list items hasParent behind = .ok bullet') :
    bullet' ≠ bullet ↔ hasParent = true ∧ (otherChoice list state.style).isSome = true ∧
      misread = false := by
  have hsame : misreads list usual items behind = misreads list usual items state := by
    unfold misreads isMisread isNestedFirst
    rw [hstyle, hconstructs, hindexes]
  obtain ⟨usual₁, other, misread₁, husual₁, hother, hmisread₁, hbullet⟩ := listBullet_eq_ok h
  obtain ⟨usual₂, other₂, misread₂, husual₂, hother₂, hmisread₂, hbullet'⟩ := listBullet_eq_ok h'
  rw [hstyle] at husual₂ hother₂ hbullet'
  obtain rfl := Except.ok.inj (husual.symm.trans husual₁)
  obtain rfl := Except.ok.inj (husual.symm.trans husual₂)
  obtain rfl := Except.ok.inj (hother.symm.trans hother₂)
  rw [hsame] at hmisread₂
  obtain rfl := Except.ok.inj (hmisread.symm.trans hmisread₁)
  obtain rfl := Except.ok.inj (hmisread.symm.trans hmisread₂)
  have hne := (otherMarker_eq_ok husual hother).2.1
  simp only [hlast, Option.some_inj] at hbullet'
  by_cases hmisread : misread = true
  · rw [if_pos (.inr hmisread)] at hbullet hbullet'
    exact iff_of_false (fun hswapped => hswapped (hbullet'.trans hbullet.symm)) fun hchosen => by
      rw [hchosen.2.2] at hmisread
      contradiction
  · simp only [or_iff_left hmisread] at hbullet hbullet'
    by_cases hchosen : hasParent = true ∧ (otherChoice list state.style).isSome = true
    · refine iff_of_true ?_ ⟨hchosen.1, hchosen.2, by simpa using hmisread⟩
      -- One of the two is the usual marker and the other one is not.
      split at hbullet
      · rw [if_neg fun hsame => hne (hbullet.symm.trans hsame.2.2)] at hbullet'
        rw [hbullet, hbullet']
        exact hne.symm
      · rw [if_pos ⟨hchosen.1, hchosen.2, hbullet⟩] at hbullet'
        rw [hbullet, hbullet']
        exact hne
    · have hneither {remembered : Prop} :
          ¬ (hasParent = true ∧ (otherChoice list state.style).isSome = true ∧ remembered) :=
        fun hmerges => hchosen ⟨hmerges.1, hmerges.2.1⟩
      rw [if_neg hneither] at hbullet hbullet'
      exact iff_of_false (fun hswapped => hswapped (hbullet'.trans hbullet.symm)) fun h =>
        hchosen ⟨h.1, h.2.1⟩

namespace Writer

variable {writer : Writer}

/-- What comes of looking ahead at a node in a state. -/
structure Peeked (node : Node) (state : State)
    (outcome : Except RenderError (Option Char) × State) : Prop where
  style : outcome.2.style = state.style
  constructs : outcome.2.constructs = state.constructs
  known : node.isWrittenAhead = false → outcome.2 = state
  failed : node.isWrittenAhead = true → node.customs ≠ [] →
    (∃ error, outcome.1 = .error error) ∧ state.indexes.length < outcome.2.indexes.length
  written : node.isWrittenAhead = true → node.customs = [] →
    (∃ first, outcome.1 = .ok first) ∧ outcome.2.indexes = state.indexes ∧
      outcome.2.bulletCurrent = state.bulletCurrent ∧ node.trail.Leaves state outcome.2

section defaults

variable (hwriter : writer.handlers = Handler.defaults) (node : Node) (parent : Option Node)
  (site : Site)

include hwriter

/-- Without custom nodes in it a node can be written in any accepted style. -/
theorem exists_render_eq_ok (hcustoms : node.customs = []) {state : State}
    (hstyle : state.style.validate = .ok ()) :
    ∃ text after, writer.render node parent site state = (.ok text, after) := by
  rcases hrun : writer.render node parent site state with ⟨error | text, after⟩
  · obtain ⟨custom, hcustom, -⟩ := (failsFor_render hwriter node parent site).error hrun hstyle
    rw [hcustoms] at hcustom
    contradiction
  · exact ⟨text, after, rfl⟩

/-- A rendering of a node that is written to see how it begins leaves an index more behind if it
fails. -/
theorem trails_render_of_isWrittenAhead (h : node.isWrittenAhead = true) :
    Trails 1 node.trail (writer.render node parent site) := by
  cases node with
  | leaf content => contradiction
  | branch content children =>
      obtain ⟨kind, hkind⟩ : ∃ kind, content.kind? = some kind := by
        cases content with
        | custom name value => contradiction
        | _ => exact ⟨_, rfl⟩
      exact trails_branch hwriter hkind (fun site => trails_inlinesFrom hwriter _ site children 0)
        (trails_blocksFrom hwriter _ children 0)

/-- What comes of looking ahead, for every node and in every state with an accepted style. -/
theorem peeked {state : State} (hstyle : state.style.validate = .ok ()) :
    Peeked node state (writer.peekAt node parent site state) := by
  have hrestores : Restores State.place (writer.peek node (writer.render node parent site)) :=
    restores_peek writer (restores_render writer node parent site)
  unfold peekAt
  refine ⟨hrestores.style state, hrestores.constructs state, ?_, fun hahead hcustoms => ?_,
    fun hahead hcustoms => ?_⟩
  · exact fun hknown => steady_peek hwriter node hknown parent site state
  · have htrails := trails_render_of_isWrittenAhead hwriter node parent site hahead
    have hfails := failsFor_render hwriter node parent site
    rw [peek_eq_of_isWrittenAhead hwriter node hahead]
    rcases hrun : writer.render node parent site state with ⟨error | text, after⟩
    · rw [bind_run_error hrun]
      exact ⟨⟨error, rfl⟩, htrails.error hrun hstyle⟩
    · exact absurd (hfails.ok hrun hstyle) hcustoms
  · obtain ⟨text, after, hrun⟩ := exists_render_eq_ok hwriter node parent site hcustoms hstyle
    have hplace := (restores_render writer node parent site).view_eq hrun
    rw [peek_eq_of_isWrittenAhead hwriter node hahead, bind_run_ok hrun]
    exact ⟨⟨text.head?, rfl⟩, congrArg Prod.fst hplace, congrArg Prod.snd hplace,
      (trails_render hwriter node parent site).leaves hrun⟩

/-- Looking ahead changes nothing, in whatever state, for nodes that begin in a known way, and for
those that are written and leave no trail. -/
theorem peekAt_unchanged_iff :
    (∀ state : State, state.style.validate = .ok () →
      (writer.peekAt node parent site state).2 = state) ↔
      (node.isWrittenAhead = true → node.customs = [] ∧ node.trail = .kept) := by
  constructor
  · intro hunchanged hahead
    have hplain : Peeked node {} (writer.peekAt node parent site {}) :=
      peeked hwriter node parent site rfl
    have hsame : (writer.peekAt node parent site {}).2 = {} := hunchanged {} rfl
    have hcustoms : node.customs = [] := by
      by_contra hcustoms
      have hgrown := (hplain.failed hahead hcustoms).2
      rw [hsame] at hgrown
      exact Nat.lt_irrefl _ hgrown
    refine ⟨hcustoms, ?_⟩
    cases htrail : node.trail with
    | kept => rfl
    | marked =>
        -- The mark is seen where none was.
        have hleaves := (hplain.written hahead hcustoms).2.2.2
        rw [hsame, htrail] at hleaves
        contradiction
    | forgotten =>
        -- That a marker is forgotten is seen where there was one.
        let marked : State := { bulletLastUsed := some '*' }
        have hmarked : Peeked node marked (writer.peekAt node parent site marked) :=
          peeked hwriter node parent site rfl
        have hleaves := (hmarked.written hahead hcustoms).2.2.2
        rw [hunchanged marked rfl, htrail] at hleaves
        contradiction
  · intro hkept state hstyle
    have hpeeked := peeked hwriter node parent site hstyle
    by_cases hahead : node.isWrittenAhead = true
    · obtain ⟨hcustoms, htrail⟩ := hkept hahead
      obtain ⟨-, hindexes, hbullet, hleaves⟩ := hpeeked.written hahead hcustoms
      rw [htrail] at hleaves
      exact State.ext hpeeked.style hpeeked.constructs hindexes hbullet hleaves.1 hleaves.2
    · exact hpeeked.known (by simpa using hahead)

/-- **What looking ahead does.** It keeps the style and the open constructs. It changes nothing for
nodes that begin in a known way; any other node is written, which fails for custom nodes in it and
leaves the indexes grown then, and which otherwise leaves the place as it was, but for the marker
only its trail. A list that is written behind that takes another marker than it would have taken
exactly if it is in a container, the other marker is chosen and the usual one is not misread. -/
theorem peekAt_effects :
    (∀ state : State, state.style.validate = .ok () →
      Peeked node state (writer.peekAt node parent site state)) ∧
      ((∀ state : State, state.style.validate = .ok () →
        (writer.peekAt node parent site state).2 = state) ↔
        (node.isWrittenAhead = true → node.customs = [] ∧ node.trail = .kept)) ∧
      ∀ list items, node = .branch (.list list) items → node.customs = [] →
        ∀ state : State, state.style.validate = .ok () → ∃ usual misread text text' bullet bullet',
          usualMarker list state.style = .ok usual ∧
          misreads list usual items state = .ok misread ∧
          (writer.render node parent site state).1 = .ok text ∧
          (writer.render node parent site (writer.peekAt node parent site state).2).1 = .ok text' ∧
          IsMarkedWith state.style list items bullet text ∧
          IsMarkedWith state.style list items bullet' text' ∧
          (bullet' ≠ bullet ↔
            parent.isSome = true ∧ (otherChoice list state.style).isSome = true ∧
              misread = false) := by
  refine ⟨fun state => peeked hwriter node parent site,
    peekAt_unchanged_iff hwriter node parent site, ?_⟩
  rintro list items rfl hcustoms state hstyle
  obtain ⟨text, middle, hrun⟩ := exists_render_eq_ok hwriter _ parent site hcustoms hstyle
  have hpeeked := peeked hwriter (.branch (.list list) items) parent site hstyle
  have hmiddle : (writer.peekAt (.branch (.list list) items) parent site state).2 = middle := by
    unfold peekAt
    rw [peek_eq_of_isWrittenAhead hwriter _ rfl, bind_run_ok hrun]
    rfl
  have hstyleMiddle : middle.style = state.style := hmiddle ▸ hpeeked.style
  have hconstructs : middle.constructs = state.constructs := hmiddle ▸ hpeeked.constructs
  have hindexes : middle.indexes = state.indexes := hmiddle ▸ (hpeeked.written rfl hcustoms).2.1
  rw [hmiddle]
  obtain ⟨text', after, hrun'⟩ :=
    exists_render_eq_ok hwriter _ parent site hcustoms (hstyleMiddle ▸ hstyle)
  have hlaysOut := laysOut_of_defaults hwriter
  obtain ⟨bullet, hbullet, hlast, hmarked⟩ :=
    (hlaysOut .list).isMarkedWith_of_list (hlaysOut .listItem) hrun
  obtain ⟨bullet', hbullet', -, hmarked'⟩ :=
    (hlaysOut .list).isMarkedWith_of_list (hlaysOut .listItem) hrun'
  rw [hstyleMiddle] at hmarked'
  obtain ⟨usual, -, misread, husual, -, hmisread, -⟩ := listBullet_eq_ok hbullet
  exact ⟨usual, misread, text, text', bullet, bullet', husual, hmisread, congrArg Prod.fst hrun,
    congrArg Prod.fst hrun', hmarked, hmarked',
    listBullet_ne_iff husual hmisread hstyleMiddle hconstructs hindexes hbullet hlast hbullet'⟩

end defaults

end Writer

/-! ## A list in a paragraph -/

/-- A list of one empty item. -/
def bareList : Node :=
  .branch (.list {}) [.branch (.listItem false) []]

/-- A paragraph with such a list behind a text. -/
def textList : Node :=
  .branch .paragraph [.leaf (.text "a"), bareList]

/-- The state in which the children of a paragraph are written, with another bullet chosen. -/
def plusState : State :=
  { style := { bulletOther := some '+' }, constructs := [.phrasing, .paragraph], indexes := [0] }

/-- The list that has been looked ahead at is then written with another marker. -/
theorem exists_markers_textList :
    Writer.standard.handlers = Handler.defaults ∧
      (¬ ∀ state : State, state.style.validate = .ok () →
        (Writer.standard.peekAt bareList (some textList) ⟨[], [], {}⟩ state).2 = state) ∧
      ∃ text text' bullet bullet',
        (Writer.standard.render bareList (some textList) ⟨[], [], {}⟩ plusState).1 = .ok text ∧
        (Writer.standard.render bareList (some textList) ⟨[], [], {}⟩
            (Writer.standard.peekAt bareList (some textList) ⟨[], [], {}⟩ plusState).2).1 =
          .ok text' ∧
        IsMarkedWith plusState.style {} [.branch (.listItem false) []] bullet text ∧
        IsMarkedWith plusState.style {} [.branch (.listItem false) []] bullet' text' ∧
        bullet' ≠ bullet := by
  have hwriter : Writer.standard.handlers = Handler.defaults := rfl
  obtain ⟨-, hunchanged, hlists⟩ :=
    Writer.peekAt_effects hwriter bareList (some textList) ⟨[], [], {}⟩
  refine ⟨hwriter, fun hsame => ?_, ?_⟩
  · have hkept := (hunchanged.mp hsame rfl).2
    contradiction
  · obtain ⟨usual, misread, text, text', bullet, bullet', husual, hmisread, htext, htext', hmarked,
        hmarked', hswapped⟩ := hlists {} _ rfl rfl plusState rfl
    obtain rfl : '*' = usual := Except.ok.inj husual
    obtain rfl : false = misread := Except.ok.inj hmisread
    exact ⟨text, text', bullet, bullet', htext, htext', hmarked, hmarked',
      hswapped.mpr ⟨rfl, rfl, rfl⟩⟩

/-- The list is expected to begin with one character, and is written with another. -/
theorem toMarkdown_textList :
    (Writer.standard.peekAt bareList (some textList) ⟨[], [], {}⟩ plusState).1 = .ok (some '*') ∧
      (Writer.standard.render bareList (some textList) ⟨[], [], {}⟩ plusState).1 = .ok ['*'] ∧
      (Writer.standard.render bareList (some textList) ⟨[], [], {}⟩
        (Writer.standard.peekAt bareList (some textList) ⟨[], [], {}⟩ plusState).2).1 = .ok ['+'] ∧
      toMarkdown (.node { style := plusState.style } []) textList = .ok "a+\n" := by
  refine ⟨rfl, rfl, rfl, ?_⟩
  decide +kernel

end MarkdownWriter
