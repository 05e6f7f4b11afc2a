import MarkdownWriter.Proofs.Render.Restoring

/-!
# Children one by one

What a container writes as blocks is put together from the texts of its children and what separates
them. `Writer.pieces` keeps these apart (`Writer.blocks_eq`).

* **The first step** (`Writer.piecesFrom_cons_eq_ok`): the first child is written where the
  container is, what separates it from the next one is decided in the state behind it, and the
  others follow. Everything below is by induction on the children with this step.
* **Every child** (`Writer.exists_run_of_pieces`) is written in a state of its own, which differs
  from the one of the container by its index and by the marker that is remembered
  (`State.IsWithin`).
* **Neighbours** (`Writer.exists_runs_of_pieces`): of two children that follow each other the second
  one's state is known from the first one's, and what separates them is what the join rules decide
  in a state inside the container.
-/

namespace MarkdownWriter

/-! ## Pieces -/

/-- The text of a child, and what separates it from the next one. -/
structure Piece where
  text : List Char
  separator : List Char
  deriving DecidableEq, Repr

/-- Pieces one behind the other. -/
def Piece.flatten (pieces : List Piece) : List Char :=
  pieces.flatMap fun piece => piece.text ++ piece.separator

namespace Writer

/-- The pieces of the children of `parent` from the one with the given index on. -/
def piecesFrom (writer : Writer) (parent : Node) : List Node → Nat → Position → Render (List Piece)
  | [], _, _ => pure []
  | child :: rest, index, position => do
      Render.goTo index
      let text ← writer.render child (some parent) (blockSite position)
      forgetBullet child
      match rest.head? with
      | none => return [⟨text, []⟩]
      | some next =>
          let separator ← writer.between child next parent
          let following ← piecesFrom writer parent rest (index + 1)
            ((position.advance text).advance separator)
          return ⟨text, separator⟩ :: following

/-- The pieces of the children of a node. -/
def pieces (writer : Writer) (node : Node) (position : Position) : Render (List Piece) :=
  Render.counting (piecesFrom writer node node.children 0 position)

variable {writer : Writer}

/-- The children as blocks are their pieces one behind the other. -/
theorem blocksFrom_eq (parent : Node) (children : List Node) (index : Nat) (position : Position) :
    blocksFrom writer parent children index position =
      Piece.flatten <$> piecesFrom writer parent children index position := by
  induction children generalizing index position with
  | nil => rw [blocksFrom, piecesFrom, map_pure, Piece.flatten, List.flatMap_nil]
  | cons child rest ih =>
      rw [blocksFrom, piecesFrom]
      simp only [map_bind]
      congr! 5
      cases rest with
      | nil => simp [Piece.flatten]
      | cons next rest => simp [ih, Piece.flatten]

theorem blocks_eq (node : Node) (position : Position) :
    writer.blocks node position = Piece.flatten <$> writer.pieces node position := by
  unfold blocks pieces Render.counting
  rw [blocksFrom_eq]
  simp only [map_bind, bind_map_left, map_pure]

/-- If the children are written as blocks, that is what their pieces are put together to. -/
theorem blocks_eq_ok {node : Node} {position : Position} {state after : State} {value : List Char}
    (h : writer.blocks node position state = (.ok value, after)) :
    ∃ pieces, writer.pieces node position state = (.ok pieces, after) ∧
      value = Piece.flatten pieces := by
  rw [blocks_eq, map_eq_pure_bind] at h
  obtain ⟨pieces, middle, hpieces, hreturn⟩ := Render.bind_eq_ok.mp h
  obtain ⟨rfl, rfl⟩ := Render.pure_eq_ok.mp hreturn
  exact ⟨pieces, hpieces, rfl⟩

end Writer

/-! ## The state a child is written in -/

/-- The state a child is written in, for a container that is written in `outer`. -/
structure State.IsWithin (state : State) (index : Nat) (outer : State) : Prop where
  style : state.style = outer.style
  constructs : state.constructs = outer.constructs
  bulletCurrent : state.bulletCurrent = outer.bulletCurrent
  indexes : state.indexes = index :: outer.indexes

namespace State.IsWithin

variable {state after outer : State} {index : Nat}

/-- What restores its place does not leave the container. -/
theorem restored {α : Type} {action : Render α} {value : α} (hstate : state.IsWithin index outer)
    (haction : Render.Restores State.place action) (h : action state = (.ok value, after)) :
    after.IsWithin index outer := by
  have hafter : (action state).2 = after := congrArg Prod.snd h
  have hplace := haction.view_eq h
  simp only [State.place, Prod.mk.injEq] at hplace
  constructor
  · rw [← hafter, haction.style, hstate.style]
  · rw [← hafter, haction.constructs, hstate.constructs]
  · rw [hplace.2, hstate.bulletCurrent]
  · rw [hplace.1, hstate.indexes]

theorem goTo (hstate : state.IsWithin index outer) (next : Nat) :
    { state with indexes := state.indexes.modifyHead fun _ => next }.IsWithin next outer := by
  constructor
  · exact hstate.style
  · exact hstate.constructs
  · exact hstate.bulletCurrent
  · rw [hstate.indexes, List.modifyHead_cons]

end State.IsWithin

namespace Writer

variable {writer : Writer}

/-- Behind a list its marker is remembered, behind any other child none is. -/
theorem forgetBullet_run (child : Node) (state : State) :
    forgetBullet child state =
      (.ok (), { state with
        bulletLastUsed := if child.isList then state.bulletLastUsed else none }) := by
  unfold forgetBullet
  split <;> rfl

/-- **The first step.** The first child is written where the container is. If there are others, what
separates it from the next one is decided in a state inside the container, and they are written in
one in which its marker is remembered if it is a list. -/
theorem piecesFrom_cons_eq_ok {parent child : Node} {rest : List Node} {i index : Nat}
    {position : Position} {state after outer : State} {pieces : List Piece}
    (hstate : state.IsWithin i outer)
    (h : writer.piecesFrom parent (child :: rest) index position state = (.ok pieces, after)) :
    ∃ start middle text separator following, start.IsWithin index outer ∧
      start.bulletLastUsed = state.bulletLastUsed ∧
      writer.render child (some parent) (blockSite position) start = (.ok text, middle) ∧
      pieces = ⟨text, separator⟩ :: following ∧
      ((rest = [] ∧ separator = [] ∧ following = []) ∨
        ∃ next between behind, rest.head? = some next ∧ between.IsWithin index outer ∧
          separator = (Join.decide writer.joins between child next parent).separator ∧
          behind.IsWithin index outer ∧
          behind.bulletLastUsed = (if child.isList then middle.bulletLastUsed else none) ∧
          writer.piecesFrom parent rest (index + 1)
            ((position.advance text).advance separator) behind =
            (.ok following, after)) := by
  rw [piecesFrom, Render.bind_run_ok (Render.goTo_run _ _)] at h
  obtain ⟨text, middle, hrender, h⟩ := Render.bind_eq_ok.mp h
  rw [Render.bind_run_ok (forgetBullet_run _ _)] at h
  have hmiddle := (hstate.goTo index).restored (restores_render writer _ _ _) hrender
  have hforgotten := hmiddle.restored (restores_forgetBullet child) (forgetBullet_run _ _)
  cases rest with
  | nil =>
      obtain ⟨rfl, -⟩ := Render.pure_eq_ok.mp h
      exact ⟨_, middle, text, [], [], hstate.goTo index, rfl, hrender, rfl, .inl ⟨rfl, rfl, rfl⟩⟩
  | cons next others =>
      rw [List.head?_cons] at h
      obtain ⟨behind, hbetween, hbullet⟩ := exists_between writer child next parent
        { middle with bulletLastUsed := if child.isList then middle.bulletLastUsed else none }
      dsimp only at h
      rw [Render.bind_run_ok hbetween] at h
      obtain ⟨following, last, hfollowing, hreturn⟩ := Render.bind_eq_ok.mp h
      obtain ⟨rfl, rfl⟩ := Render.pure_eq_ok.mp hreturn
      exact ⟨_, middle, text, _, following, hstate.goTo index, rfl, hrender, rfl,
        .inr ⟨next, _, behind, rfl, hforgotten, rfl,
          hforgotten.restored (restores_between writer _ _ _) hbetween, hbullet, hfollowing⟩⟩

/-- There is one piece for every child. -/
theorem length_piecesFrom {parent : Node} {children : List Node} {i index : Nat}
    {position : Position} {state after outer : State} {pieces : List Piece}
    (hstate : state.IsWithin i outer)
    (h : writer.piecesFrom parent children index position state = (.ok pieces, after)) :
    pieces.length = children.length := by
  induction children generalizing i index position state pieces with
  | nil =>
      rw [piecesFrom] at h
      obtain ⟨rfl, -⟩ := Render.pure_eq_ok.mp h
      rfl
  | cons child rest ih =>
      obtain ⟨_, _, _, _, following, -, -, -, rfl, ⟨rfl, -, rfl⟩ |
          ⟨next, _, behind, -, -, -, hbehind, -, hfollowing⟩⟩ :=
        piecesFrom_cons_eq_ok hstate h
      · rfl
      · rw [List.length_cons, List.length_cons, ih hbehind hfollowing]

/-- Every piece is what its child is written as. -/
theorem exists_run_of_piecesFrom {parent child : Node} {children : List Node} {i index n : Nat}
    {position : Position} {state after outer : State} {pieces : List Piece} {piece : Piece}
    (hstate : state.IsWithin i outer)
    (h : writer.piecesFrom parent children index position state = (.ok pieces, after))
    (hchild : children[n]? = some child) (hpiece : pieces[n]? = some piece) :
    ∃ place start middle, start.IsWithin (index + n) outer ∧
      writer.render child (some parent) (blockSite place) start = (.ok piece.text, middle) := by
  induction children generalizing i index position state pieces n with
  | nil => simp at hchild
  | cons first rest ih =>
      obtain ⟨start, middle, text, separator, following, hstart, -, hrender, rfl, hmore⟩ :=
        piecesFrom_cons_eq_ok hstate h
      cases n with
      | zero =>
          obtain rfl : first = child := by simpa using hchild
          obtain rfl : ⟨text, separator⟩ = piece := by simpa using hpiece
          exact ⟨_, start, middle, hstart, hrender⟩
      | succ n =>
          rw [List.getElem?_cons_succ] at hchild hpiece
          obtain ⟨rfl, -, rfl⟩ | ⟨next, _, behind, -, -, -, hbehind, -, hfollowing⟩ := hmore
          · simp at hchild
          · have hrun := ih hbehind hfollowing hchild hpiece
            rwa [show index + 1 + n = index + (n + 1) by omega] at hrun

/-- Of two pieces that follow each other, the second one is written in a state that remembers the
marker of the first one if that is a list. -/
theorem exists_runs_of_piecesFrom {parent left right : Node} {children : List Node}
    {i index n : Nat} {position : Position} {state after outer : State} {pieces : List Piece}
    {first second : Piece} (hstate : state.IsWithin i outer)
    (h : writer.piecesFrom parent children index position state = (.ok pieces, after))
    (hleft : children[n]? = some left) (hright : children[n + 1]? = some right)
    (hfirst : pieces[n]? = some first) (hsecond : pieces[n + 1]? = some second) :
    ∃ place start middle between place' start' middle', start.IsWithin (index + n) outer ∧
      writer.render left (some parent) (blockSite place) start = (.ok first.text, middle) ∧
      between.IsWithin (index + n) outer ∧
      first.separator = (Join.decide writer.joins between left right parent).separator ∧
      start'.IsWithin (index + n + 1) outer ∧
      start'.bulletLastUsed = (if left.isList then middle.bulletLastUsed else none) ∧
      writer.render right (some parent) (blockSite place') start' = (.ok second.text, middle') := by
  induction children generalizing i index position state pieces n with
  | nil => simp at hleft
  | cons child rest ih =>
      obtain ⟨start, middle, text, separator, following, hstart, -, hrender, rfl, hmore⟩ :=
        piecesFrom_cons_eq_ok hstate h
      rw [List.getElem?_cons_succ] at hright hsecond
      obtain ⟨rfl, -, rfl⟩ | ⟨next, between, behind, hnext, hbetween, hseparator, hbehind, hbullet,
          hfollowing⟩ := hmore
      · simp at hright
      · cases n with
        | zero =>
            obtain rfl : child = left := by simpa using hleft
            obtain rfl : ⟨text, separator⟩ = first := by simpa using hfirst
            obtain ⟨others, rfl⟩ : ∃ others, rest = right :: others := by
              rwa [← List.head?_eq_getElem?, List.head?_eq_some_iff] at hright
            obtain rfl : right = next := by simpa using hnext
            obtain ⟨start', middle', text', separator', others', hstart', hlast, hrender', rfl,
                -⟩ :=
              piecesFrom_cons_eq_ok hbehind hfollowing
            obtain rfl : ⟨text', separator'⟩ = second := by simpa using hsecond
            exact ⟨_, start, middle, between, _, start', middle', hstart, hrender, hbetween,
              hseparator, hstart', hlast.trans hbullet, hrender'⟩
        | succ n =>
            rw [List.getElem?_cons_succ] at hleft hfirst
            have hruns := ih hbehind hfollowing hleft hright hfirst hsecond
            rwa [show index + 1 + n = index + (n + 1) by omega] at hruns

section Container

variable {parent : Node} {position : Position} {state after : State} {pieces : List Piece}
variable (h : writer.pieces parent position state = (.ok pieces, after))

include h

/-- Children are counted from 0 while they are written. -/
theorem pieces_eq_ok :
    ∃ start middle, start.IsWithin 0 state ∧ start.bulletLastUsed = state.bulletLastUsed ∧
      writer.piecesFrom parent parent.children 0 position start = (.ok pieces, middle) := by
  obtain ⟨middle, hpieces, -⟩ := Render.counting_eq_ok.mp h
  exact ⟨{ state with indexes := 0 :: state.indexes }, middle, ⟨rfl, rfl, rfl, rfl⟩, rfl, hpieces⟩

theorem length_pieces : pieces.length = parent.children.length := by
  obtain ⟨start, middle, hstart, -, hpieces⟩ := pieces_eq_ok h
  exact length_piecesFrom hstart hpieces

/-- **Every child is written on its own**, in a state that differs from the one of the container by
its index. -/
theorem exists_run_of_pieces {child : Node} {n : Nat} {piece : Piece}
    (hchild : parent.children[n]? = some child) (hpiece : pieces[n]? = some piece) :
    ∃ place start middle, start.IsWithin n state ∧
      writer.render child (some parent) (blockSite place) start = (.ok piece.text, middle) := by
  obtain ⟨start, middle, hstart, -, hpieces⟩ := pieces_eq_ok h
  have hrun := exists_run_of_piecesFrom hstart hpieces hchild hpiece
  rwa [Nat.zero_add] at hrun

/-- **Neighbours.** What separates a child from the next one is what the rules decide in a state
inside the container, and the next one is written in a state that remembers the marker of the child
if that is a list. -/
theorem exists_runs_of_pieces {left right : Node} {n : Nat} {first second : Piece}
    (hleft : parent.children[n]? = some left) (hright : parent.children[n + 1]? = some right)
    (hfirst : pieces[n]? = some first) (hsecond : pieces[n + 1]? = some second) :
    ∃ place start middle between place' start' middle', start.IsWithin n state ∧
      writer.render left (some parent) (blockSite place) start = (.ok first.text, middle) ∧
      between.IsWithin n state ∧
      first.separator = (Join.decide writer.joins between left right parent).separator ∧
      start'.IsWithin (n + 1) state ∧
      start'.bulletLastUsed = (if left.isList then middle.bulletLastUsed else none) ∧
      writer.render right (some parent) (blockSite place') start' = (.ok second.text, middle') := by
  obtain ⟨start, middle, hstart, -, hpieces⟩ := pieces_eq_ok h
  have hruns := exists_runs_of_piecesFrom hstart hpieces hleft hright hfirst hsecond
  rwa [Nat.zero_add] at hruns

end Container

end Writer

end MarkdownWriter
