import MarkdownWriter.Proofs.Render.Steps
import MarkdownWriter.Proofs.Style.Markers

/-!
# What an action fails for

With an accepted style only custom nodes are refused (`Node.customs`), each with an error of its own
(`Node.fault`). `Render.FailsFor` says of an action, taken with an accepted style, for which custom
nodes it has to fail and for which it may. The two are not the same: who looks ahead to see how the
next child begins may come by a custom node in that child before the one in front of it is written.

There is one lemma for each way in which actions are put together: values and changes of the state
fail for nothing, two actions fail for what either of them fails for (`Render.FailsFor.bind`), and
constructs and indexes make no difference (`Render.FailsFor.entering`, `Render.FailsFor.counting`).
A style that is accepted stays so, which is part of what is said of an action, so that the second of
two actions finds one as well.
-/

namespace MarkdownWriter

/-! ## Custom nodes -/

namespace Node

mutual

/-- The custom nodes in a tree, at any depth. -/
def customs : Node → List Node
  | .leaf _ => []
  | .branch content children =>
      match content.kind? with
      | none => .branch content children :: customsOfAll children
      | some _ => customsOfAll children

/-- The custom nodes in several trees. -/
def customsOfAll : List Node → List Node
  | [] => []
  | node :: nodes => node.customs ++ customsOfAll nodes

end

/-- The error a custom node is refused with. A kind that has the name of one of the known kinds
leads to the handler of that kind, which does not know what to do with the node. -/
def fault (custom : Node) : RenderError :=
  if custom.kindName.isEmpty then .invalidNode (String.ofList custom.description)
  else
    match Kind.ofName? custom.kindName with
    | some kind => .mismatchedNode kind custom.kindName
    | none => .unknownNode custom.kindName

/-- A custom node is never refused for the style. -/
theorem fault_ne_style (custom : Node) (refused : StyleError) : custom.fault ≠ .style refused := by
  unfold fault
  split
  · exact RenderError.noConfusion
  · split
    · exact RenderError.noConfusion
    · exact RenderError.noConfusion

end Node

namespace Render

variable {α β : Type}

/-- What can go wrong with an action in a state whose style is accepted. The style stays what it is,
be there an error or not; the action does not succeed if there is a node in `met`, and it only fails
for one in `possible`. -/
structure FailsFor (met possible : List Node) (action : Render α) : Prop where
  style : ∀ state, (action state).2.style = state.style
  ok : ∀ {state value after}, action state = (.ok value, after) → state.style.validate = .ok () →
    met = []
  error : ∀ {state error after}, action state = (.error error, after) →
    state.style.validate = .ok () → ∃ custom ∈ possible, error = custom.fault

namespace FailsFor

variable {met met' possible possible' : List Node} {action : Render α} {next : α → Render β}

/-! ## Steps -/

/-- What always succeeds and leaves the style alone fails for nothing. -/
theorem of_ok
    (h : ∀ state, ∃ value after, action state = (.ok value, after) ∧ after.style = state.style) :
    FailsFor [] possible action where
  style := fun state => by
    obtain ⟨value, after, hrun, hstyle⟩ := h state
    rw [hrun]
    exact hstyle
  ok := fun _ _ => rfl
  error := fun {state error after} hrun _ => by
    obtain ⟨value, after', hok, -⟩ := h state
    rw [hok] at hrun
    cases congrArg Prod.fst hrun

/-- To give a value does not fail. -/
theorem pure (value : α) : FailsFor [] [] (Pure.pure value : Render α) :=
  of_ok fun state => ⟨value, state, rfl, rfl⟩

theorem get : FailsFor [] [] (MonadState.get : Render State) :=
  of_ok fun state => ⟨state, state, rfl, rfl⟩

/-- Nor does a change of the state. -/
theorem modifying {change : State → State} (hstyle : ∀ state, (change state).style = state.style) :
    FailsFor [] [] (modify change : Render Unit) :=
  of_ok fun state => ⟨(), change state, rfl, hstyle state⟩

/-- Nor does it fail to go on to a child. -/
theorem goTo (index : Nat) : FailsFor [] [] (Render.goTo index) :=
  modifying fun _ => rfl

/-- Nor does it to escape a text. -/
theorem literal (rules : List Rule) (text : List Char) (around : Surroundings) :
    FailsFor [] [] (Render.literal rules text around) :=
  of_ok fun state => ⟨_, state, rfl, rfl⟩

/-- An accepted style is not refused. -/
theorem ofState {check : State → Except RenderError α}
    (h : ∀ {state : State}, state.style.Provides → ∃ value, check state = .ok value) :
    FailsFor [] [] (Render.ofState check) where
  style := fun state => by rw [ofState_run]
  ok := fun _ _ => rfl
  error := fun {state error after} hrun hstyle => by
    obtain ⟨value, hvalue⟩ := h (Style.provides_of_validate hstyle)
    rw [ofState_run, hvalue] at hrun
    cases congrArg Prod.fst hrun

/-- An accepted style provides what is asked of it. -/
theorem ofStyle {check : Style → Except StyleError α}
    (h : ∀ {style : Style}, style.Provides → ∃ value, check style = .ok value) :
    FailsFor [] [] (Render.ofStyle check) :=
  ofState fun hstyle => (h hstyle).imp fun _ => mapError_eq_ok.mpr

/-- What is thrown for a custom node fails for it. -/
theorem throw {custom : Node} {others : List Node} :
    FailsFor (custom :: others) (custom :: others) (MonadExcept.throw custom.fault : Render α) where
  style := fun _ => rfl
  ok := fun hrun _ => by cases congrArg Prod.fst hrun
  error := fun hrun _ =>
    ⟨custom, List.mem_cons_self, (Except.error.inj (congrArg Prod.fst hrun)).symm⟩

/-- An action may fail for more nodes than it does. -/
theorem mono (h : FailsFor met possible action) (hmet : met = [] → met' = [])
    (hpossible : possible ⊆ possible') : FailsFor met' possible' action where
  style := h.style
  ok := fun hrun hstyle => hmet (h.ok hrun hstyle)
  error := fun hrun hstyle =>
    let ⟨custom, hcustom, herror⟩ := h.error hrun hstyle
    ⟨custom, hpossible hcustom, herror⟩

/-- Two actions fail for what either of them fails for. -/
theorem bind (haction : FailsFor met possible action)
    (hnext : ∀ value, FailsFor met' possible' (next value)) :
    FailsFor (met ++ met') (possible ++ possible') (action >>= next) where
  style := style_bind haction.style fun value => (hnext value).style
  ok := fun {state value after} h hstyle => by
    obtain ⟨first, middle, hfirst, hrest⟩ := bind_eq_ok.mp h
    have hmiddle := haction.style state
    rw [hfirst] at hmiddle
    rw [haction.ok hfirst hstyle, (hnext first).ok hrest (hmiddle ▸ hstyle)]
    rfl
  error := fun {state error after} h hstyle => by
    obtain hfailed | ⟨first, middle, hfirst, hrest⟩ := bind_eq_error.mp h
    · obtain ⟨custom, hcustom, herror⟩ := haction.error hfailed hstyle
      exact ⟨custom, List.mem_append_left _ hcustom, herror⟩
    · have hmiddle := haction.style state
      rw [hfirst] at hmiddle
      obtain ⟨custom, hcustom, herror⟩ := (hnext first).error hrest (hmiddle ▸ hstyle)
      exact ⟨custom, List.mem_append_right _ hcustom, herror⟩

/-- What is done in front of an action adds no failure of its own, -/
theorem quietly (haction : FailsFor [] [] action)
    (hnext : ∀ value, FailsFor met possible (next value)) :
    FailsFor met possible (action >>= next) :=
  haction.bind hnext

/-- nor does what is done behind it. -/
theorem andThen (haction : FailsFor met possible action)
    (hnext : ∀ value, FailsFor [] [] (next value)) :
    FailsFor met possible (action >>= next) := by
  have h := haction.bind hnext
  rwa [List.append_nil, List.append_nil] at h

/-- With an accepted style no error is one of the style. -/
theorem ne_style (h : FailsFor met possible action) {state : State}
    (hstyle : state.style.validate = .ok ()) (refused : StyleError) :
    (action state).1 ≠ .error (.style refused) := by
  intro hrefused
  obtain ⟨custom, -, hcustom⟩ := h.error (Prod.ext hrefused rfl) hstyle
  exact custom.fault_ne_style refused hcustom.symm

/-- Whether a construct is open does not matter for what fails. -/
theorem entering {construct : Construct} (h : FailsFor met possible action) :
    FailsFor met possible (Render.entering construct action) where
  style := fun _ => h.style _
  ok := fun hrun hstyle =>
    let ⟨_, hmiddle, _⟩ := entering_eq_ok.mp hrun
    h.ok hmiddle hstyle
  error := fun hrun hstyle =>
    let ⟨_, hmiddle, _⟩ := entering_eq_iff.mp hrun
    h.error hmiddle hstyle

/-- Nor does it matter if none is. -/
theorem isolated (h : FailsFor met possible action) :
    FailsFor met possible (Render.isolated action) where
  style := fun _ => h.style _
  ok := fun hrun hstyle =>
    let ⟨_, hmiddle, _⟩ := isolated_eq_ok.mp hrun
    h.ok hmiddle hstyle
  error := fun hrun hstyle =>
    let ⟨_, hmiddle, _⟩ := isolated_eq_iff.mp hrun
    h.error hmiddle hstyle

/-- Nor does one more index. -/
theorem counting (h : FailsFor met possible action) :
    FailsFor met possible (Render.counting action) :=
  .quietly (modifying fun _ => rfl) fun _ => h.andThen fun _ =>
    .quietly (modifying fun _ => rfl) fun _ => .pure _

end FailsFor

end Render

end MarkdownWriter
