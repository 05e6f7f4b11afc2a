import MarkdownWriter.Render.Writer
import Mathlib.Tactic.Common

/-!
# Steps of a rendering

A rendering is put together from a few primitives. Here is what each of them does to a state
(`Render.bind_run_ok` and its like), when it succeeds (`Render.bind_eq_ok` and its like), and what
it leaves as it was.

`Render.Steady` says of an action that it changes nothing. `Render.Restores` says of it that it
changes neither the style nor the open constructs, be there an error or not, and that a part of the
state is the same again after a success. While children are written one after the other the
innermost index changes, so there are two such parts: `State.place` with that index and
`State.surroundings` without it.
-/

namespace MarkdownWriter

namespace Render

variable {α β : Type}

/-! ## Steps -/

@[simp] theorem pure_run (value : α) (state : State) :
    (pure value : Render α) state = (.ok value, state) :=
  rfl

@[simp] theorem get_run (state : State) : (get : Render State) state = (.ok state, state) :=
  rfl

@[simp] theorem modify_run (change : State → State) (state : State) :
    (modify change : Render Unit) state = (.ok (), change state) :=
  rfl

@[simp] theorem goTo_run (index : Nat) (state : State) :
    goTo index state = (.ok (),
      { state with indexes := state.indexes.modifyHead fun _ => index }) :=
  rfl

/-- What an action leads to is told apart by its result and its state. -/
@[simp] theorem outcome_eq_iff {result result' : Except RenderError α} {state state' : State} :
    @Eq (Id (Except RenderError α × State)) (result, state) (result', state') ↔ result = result' ∧
      state = state' :=
  Prod.mk.injEq .. ▸ Iff.rfl

/-- A value is given in the state that was there. -/
theorem pure_eq_ok {state after : State} {value result : α} :
    (pure value : Render α) state = (.ok result, after) ↔ value = result ∧ state = after := by
  rw [pure_run, outcome_eq_iff, Except.ok.injEq]

/-- What two actions lead to is made of what the first one leads to. -/
theorem bind_run_of_run {action : Render α} {next : α → Render β} {state middle : State}
    {result : Except RenderError α} (h : action state = (result, middle)) :
    (action >>= next) state = ExceptT.bindCont next result middle :=
  congrArg (fun outcome : Except RenderError α × State => ExceptT.bindCont next outcome.1 outcome.2)
    h

/-- After a success the second of two actions is taken. -/
theorem bind_run_ok {action : Render α} {next : α → Render β} {state middle : State} {value : α}
    (h : action state = (.ok value, middle)) : (action >>= next) state = next value middle :=
  bind_run_of_run h

/-- After an error it is not. -/
theorem bind_run_error {action : Render α} {next : α → Render β} {state middle : State}
    {error : RenderError} (h : action state = (.error error, middle)) :
    (action >>= next) state = (.error error, middle) :=
  bind_run_of_run h

/-- Two actions succeed if both do. -/
theorem bind_eq_ok {action : Render α} {next : α → Render β} {state after : State} {value : β} :
    (action >>= next) state = (.ok value, after) ↔
      ∃ first middle, action state = (.ok first, middle) ∧
        next first middle = (.ok value, after) := by
  rcases haction : action state with ⟨_ | first, middle⟩
  · rw [bind_run_error haction]
    simp
  · rw [bind_run_ok haction]
    simp

/-- Two actions fail if either of them does. -/
theorem bind_eq_error {action : Render α} {next : α → Render β} {state after : State}
    {error : RenderError} :
    (action >>= next) state = (.error error, after) ↔
      action state = (.error error, after) ∨
        ∃ first middle, action state = (.ok first, middle) ∧
          next first middle = (.error error, after) := by
  rcases haction : action state with ⟨_ | first, middle⟩
  · rw [bind_run_error haction]
    simp
  · rw [bind_run_ok haction]
    simp

/-- Two actions leave the style alone if both do. -/
theorem style_bind {action : Render α} {next : α → Render β}
    (haction : ∀ state, (action state).2.style = state.style)
    (hnext : ∀ value state, (next value state).2.style = state.style) (state : State) :
    ((action >>= next) state).2.style = state.style := by
  have hstyle := haction state
  rcases hrun : action state with ⟨_ | value, middle⟩
  · rw [bind_run_error hrun]
    rwa [hrun] at hstyle
  · rw [bind_run_ok hrun, hnext value middle]
    rwa [hrun] at hstyle

/-- Two ways to go about the first of two actions. -/
theorem ite_bind_eq_ok {p : Prop} [Decidable p] {action action' : Render α} {next : α → Render β}
    {state after : State} {value : β} :
    (if p then action >>= next else action' >>= next) state = (.ok value, after) ↔
      ∃ first middle, (if p then action else action') state = (.ok first, middle) ∧
        next first middle = (.ok value, after) := by
  by_cases h : p
  · simp only [if_pos h, bind_eq_ok]
  · simp only [if_neg h, bind_eq_ok]

/-- A choice leaves the state it depends on as it was. -/
theorem ofState_run (check : State → Except RenderError α) (state : State) :
    ofState check state = (check state, state) := by
  unfold ofState
  rw [bind_run_ok (get_run state)]
  cases check state <;> rfl

/-- A check of the state changes nothing when it succeeds. -/
theorem ofState_eq_ok {check : State → Except RenderError α} {state after : State} {value : α} :
    ofState check state = (.ok value, after) ↔ check state = .ok value ∧ state = after := by
  rw [ofState_run, Prod.mk.injEq]

/-- What an error is reported as makes no difference to what is accepted. -/
theorem mapError_eq_ok {ε ε' : Type} {f : ε → ε'} {result : Except ε α} {value : α} :
    result.mapError f = .ok value ↔ result = .ok value := by
  cases result <;> simp [Except.mapError]

/-- A choice of the style depends on the style alone. -/
theorem ofStyle_run (check : Style → Except StyleError α) (state : State) :
    ofStyle check state = ((check state.style).mapError .style, state) :=
  ofState_run _ state

/-- A check of the style changes nothing when it succeeds. -/
theorem ofStyle_eq_ok {check : Style → Except StyleError α} {state after : State} {value : α} :
    ofStyle check state = (.ok value, after) ↔ check state.style = .ok value ∧ state = after := by
  unfold ofStyle
  rw [ofState_eq_ok, mapError_eq_ok]

/-- While a construct is open it is the innermost one. -/
theorem entering_eq_iff {construct : Construct} {action : Render α} {state after : State}
    {result : Except RenderError α} :
    entering construct action state = (result, after) ↔
      ∃ middle, action { state with constructs := construct :: state.constructs } =
        (result, middle) ∧ { middle with constructs := middle.constructs.tail } = after := by
  unfold entering
  rcases action { state with constructs := construct :: state.constructs } with ⟨result, middle⟩
  simp

/-- Success within one more construct, which is closed behind it. -/
theorem entering_eq_ok {construct : Construct} {action : Render α} {state after : State}
    {value : α} :
    entering construct action state = (.ok value, after) ↔
      ∃ middle, action { state with constructs := construct :: state.constructs } =
        (.ok value, middle) ∧ { middle with constructs := middle.constructs.tail } = after :=
  entering_eq_iff

/-- What changes nothing with a construct open changes nothing. -/
theorem entering_run {construct : Construct} {action : Render α} {state : State} {value : α}
    (h : action { state with constructs := construct :: state.constructs } =
      (.ok value, { state with constructs := construct :: state.constructs })) :
    entering construct action state = (.ok value, state) :=
  entering_eq_ok.mpr ⟨_, h, rfl⟩

/-- In isolation no construct is open. -/
theorem isolated_eq_iff {action : Render α} {state after : State} {result : Except RenderError α} :
    isolated action state = (result, after) ↔
      ∃ middle, action { state with constructs := [] } = (result, middle) ∧
        { middle with constructs := state.constructs } = after := by
  unfold isolated
  rcases action { state with constructs := [] } with ⟨result, middle⟩
  simp

/-- Success with no construct open, after which those from before are open again. -/
theorem isolated_eq_ok {action : Render α} {state after : State} {value : α} :
    isolated action state = (.ok value, after) ↔
      ∃ middle, action { state with constructs := [] } = (.ok value, middle) ∧
        { middle with constructs := state.constructs } = after :=
  isolated_eq_iff

/-- Children are counted by an index of their own. -/
theorem counting_eq_ok {action : Render α} {state after : State} {value : α} :
    counting action state = (.ok value, after) ↔
      ∃ middle, action { state with indexes := 0 :: state.indexes } = (.ok value, middle) ∧
        { middle with indexes := middle.indexes.tail } = after := by
  unfold counting
  rw [bind_run_ok (modify_run _ _)]
  simp only [bind_eq_ok, modify_run, pure_run, outcome_eq_iff, Except.ok.injEq]
  constructor
  · rintro ⟨_, middle, haction, _, _, ⟨-, rfl⟩, rfl, rfl⟩
    exact ⟨middle, haction, rfl⟩
  · rintro ⟨middle, haction, rfl⟩
    exact ⟨value, middle, haction, (), _, ⟨trivial, rfl⟩, rfl, rfl⟩

/-- After an error their index is left. -/
theorem counting_eq_error {action : Render α} {state after : State} {error : RenderError} :
    counting action state = (.error error, after) ↔
      action { state with indexes := 0 :: state.indexes } = (.error error, after) := by
  unfold counting
  rw [bind_run_ok (modify_run _ _)]
  rcases haction : action { state with indexes := 0 :: state.indexes } with ⟨_ | value, middle⟩
  · rw [bind_run_error haction]
  · rw [bind_run_ok haction, bind_run_ok (modify_run _ _), pure_run]
    simp

end Render

/-- What separates two blocks is always decided by the rules, and only a comment is taken note of.
-/
theorem Writer.exists_between (writer : Writer) (left right parent : Node) (state : State) :
    ∃ after, writer.between left right parent state =
        (.ok (Join.decide writer.joins state left right parent).separator, after) ∧
      after.bulletLastUsed = state.bulletLastUsed := by
  unfold Writer.between
  rw [Render.bind_run_ok (Render.get_run _)]
  split
  · exact ⟨_, rfl, rfl⟩
  · exact ⟨_, rfl, rfl⟩

/-! ## Steady actions -/

/-- An action that leaves the whole state as it was, be there an error or not. -/
def Render.Steady {α : Type} (action : Render α) : Prop :=
  ∀ state, (action state).2 = state

namespace Render.Steady

variable {α β : Type} {action : Render α} {next : α → Render β}

/-- To give a value changes nothing. -/
theorem pure (value : α) : Steady (Pure.pure value : Render α) :=
  fun _ => rfl

theorem get : Steady (MonadState.get : Render State) :=
  fun _ => rfl

/-- An error changes nothing. -/
theorem throw (error : RenderError) : Steady (MonadExcept.throw error : Render α) :=
  fun _ => rfl

/-- A look at the state changes nothing. -/
theorem ofState (check : State → Except RenderError α) : Steady (Render.ofState check) :=
  fun state => by rw [ofState_run]

theorem ofStyle (check : Style → Except StyleError α) : Steady (Render.ofStyle check) :=
  ofState _

/-- Steady actions one after the other are steady. -/
theorem bind (haction : Steady action) (hnext : ∀ value, Steady (next value)) :
    Steady (action >>= next) := by
  intro state
  have hmiddle := haction state
  rcases hrun : action state with ⟨_ | value, middle⟩
  · rw [bind_run_error hrun]
    rwa [hrun] at hmiddle
  · rw [bind_run_ok hrun, hnext value middle]
    rwa [hrun] at hmiddle

/-- A construct that is opened is closed again. -/
theorem entering {construct : Construct} (h : Steady action) :
    Steady (Render.entering construct action) := by
  intro state
  change { (action { state with constructs := construct :: state.constructs }).2 with
    constructs :=
      (action { state with constructs := construct :: state.constructs }).2.constructs.tail } =
        state
  rw [h]
  rfl

/-- Constructs that are put aside are put back. -/
theorem isolated (h : Steady action) : Steady (Render.isolated action) := by
  intro state
  change { (action { state with constructs := [] }).2 with constructs := state.constructs } = state
  rw [h]

end Render.Steady

/-! ## Restoring -/

/-- Where a node is written: the indexes of the containers around it, its own first, and the marker
of its list. -/
def State.place (state : State) : List Nat × Option Char :=
  (state.indexes, state.bulletCurrent)

/-- What is around the children of one container. -/
def State.surroundings (state : State) : List Nat × Option Char :=
  (state.indexes.tail, state.bulletCurrent)

/-- What an action leaves as it was: the style and the open constructs in any case, and after a
success also what is seen of the state by `view`. -/
structure Render.Restores {α β : Type} (view : State → β) (action : Render α) : Prop where
  style : ∀ state, (action state).2.style = state.style
  constructs : ∀ state, (action state).2.constructs = state.constructs
  view_eq : ∀ {state after value}, action state = (.ok value, after) → view after = view state

namespace Render.Restores

variable {α β γ : Type} {view : State → γ} {action : Render α} {next : α → Render β}

/-- What changes nothing restores everything. -/
theorem of_steady (h : Steady action) : Restores view action where
  style := fun state => by rw [h]
  constructs := fun state => by rw [h]
  view_eq := fun {state after value} haction => by rw [← h state, haction]

theorem pure (value : α) : Restores view (Pure.pure value : Render α) :=
  of_steady (.pure _)

theorem get : Restores view (MonadState.get : Render State) :=
  of_steady .get

/-- An error restores everything. -/
theorem throw (error : RenderError) : Restores view (MonadExcept.throw error : Render α) :=
  of_steady (.throw _)

/-- So does a look at the state. -/
theorem ofState (check : State → Except RenderError α) : Restores view (Render.ofState check) :=
  of_steady (.ofState _)

theorem ofStyle (check : Style → Except StyleError α) : Restores view (Render.ofStyle check) :=
  ofState _

/-- What two actions restore, both together restore. -/
theorem bind (haction : Restores view action) (hnext : ∀ value, Restores view (next value)) :
    Restores view (action >>= next) where
  style := style_bind haction.style fun value => (hnext value).style
  constructs := fun state => by
    have hconstructs := haction.constructs state
    rcases hrun : action state with ⟨_ | value, middle⟩
    · rw [bind_run_error hrun]
      rwa [hrun] at hconstructs
    · rw [bind_run_ok hrun, (hnext value).constructs middle]
      rwa [hrun] at hconstructs
  view_eq := fun h => by
    obtain ⟨first, middle, hfirst, hrest⟩ := bind_eq_ok.mp h
    exact ((hnext first).view_eq hrest).trans (haction.view_eq hfirst)

/-- What restores a part of the state restores all that can be read off that part. -/
theorem map {δ : Type} (h : Restores view action) (f : γ → δ) :
    Restores (fun state => f (view state)) action where
  style := h.style
  constructs := h.constructs
  view_eq := fun haction => congrArg f (h.view_eq haction)

/-- A change that is not seen is as good as none. -/
theorem modifying {change : State → State} (hstyle : ∀ state, (change state).style = state.style)
    (hconstructs : ∀ state, (change state).constructs = state.constructs)
    (hview : ∀ state, view (change state) = view state) :
    Restores view (modify change : Render Unit) where
  style := hstyle
  constructs := hconstructs
  view_eq := fun {state after value} h => by
    obtain rfl := congrArg Prod.snd h
    exact hview state

/-- An open construct is taken away again, and nothing is seen of it if the constructs are no part
of the view. -/
theorem entering_of_view {construct : Construct} (h : Restores view action)
    (hview : ∀ state constructs, view { state with constructs := constructs } = view state) :
    Restores view (Render.entering construct action) where
  style := fun state => h.style _
  constructs := fun state => by
    change (action { state with constructs := construct :: state.constructs }).2.constructs.tail =
        state.constructs
    rw [h.constructs]
    rfl
  view_eq := fun haction => by
    obtain ⟨middle, hmiddle, rfl⟩ := entering_eq_ok.mp haction
    rw [hview, h.view_eq hmiddle, hview]

/-- The constructs are no part of the place. -/
theorem entering {construct : Construct} (h : Restores State.place action) :
    Restores State.place (Render.entering construct action) :=
  entering_of_view h fun _ _ => rfl

/-- Putting the constructs aside is restored where they are not seen. -/
theorem isolated_of_view (h : Restores view action)
    (hview : ∀ state constructs, view { state with constructs := constructs } = view state) :
    Restores view (Render.isolated action) where
  style := fun state => h.style _
  constructs := fun state => rfl
  view_eq := fun haction => by
    obtain ⟨middle, hmiddle, rfl⟩ := isolated_eq_ok.mp haction
    rw [hview, h.view_eq hmiddle, hview]

/-- What restores a place restores what is around it. -/
theorem surroundings (h : Restores State.place action) : Restores State.surroundings action :=
  h.map (Prod.map List.tail id)

/-- The own index is no part of the surroundings. -/
theorem goTo (index : Nat) : Restores State.surroundings (Render.goTo index) where
  style := fun _ => rfl
  constructs := fun _ => rfl
  view_eq := fun {state after value} h => by
    obtain rfl := congrArg Prod.snd h
    cases hindexes : state.indexes <;> simp [State.surroundings, hindexes]

/-- The index of the children is taken away again. -/
theorem counting (h : Restores State.surroundings action) :
    Restores State.place (Render.counting action) := by
  have hquiet : Restores (fun _ => ()) (Render.counting action) :=
    .bind (.modifying (fun _ => rfl) (fun _ => rfl) fun _ => rfl) fun _ =>
      .bind (h.map fun _ => ()) fun _ =>
        .bind (.modifying (fun _ => rfl) (fun _ => rfl) fun _ => rfl) fun _ => .pure _
  refine ⟨hquiet.style, hquiet.constructs, fun haction => ?_⟩
  obtain ⟨middle, hmiddle, rfl⟩ := counting_eq_ok.mp haction
  have hsurroundings := h.view_eq hmiddle
  exact hsurroundings

end Render.Restores

end MarkdownWriter
