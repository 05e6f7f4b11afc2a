import MarkdownWriter.Proofs.Document.Rebuilding

/-!
# One stack of frames

A tree can be built on one stack, with the root as the frame at the bottom: what ends becomes a
child of the frame below it. A `FrameStack` says nothing of where the root is, or whether there is
one; the actions on it have to see to that. A `Builder` has the constructs that are open apart from
the children of the root, so it cannot lose its root.

Both are the same.

* **Actions** (`FrameStack.step_ofBuilder`): what an event does to a builder it does to the stack
  with the frames of that builder above its root.
* **The bottom frame is the root** (`FrameStack.hasRoot_run`): whatever the events are, behind them
  there is one root on the stack, and it is at the bottom. Ends that have no beginning do not take
  it away.
* **Trees** (`FrameStack.tree_eq`): the tree of a document is the one that is built on a stack.
-/

namespace MarkdownWriter

/-- A frame of a stack, with its children so far, the latest first. The root has no scope. -/
structure StackFrame where
  scope? : Option Scope
  children : List Node := []

/-- The node of a frame that ends. -/
def StackFrame.node (frame : StackFrame) : Node :=
  match frame.scope? with
  | none => .branch .root frame.children.reverse
  | some scope => scope.node frame.children.reverse

/-- The frames of a tree that is being built, the innermost first. -/
abbrev FrameStack := List StackFrame

namespace FrameStack

/-! ## Actions -/

/-- Whether only one frame is left. -/
def atTop (stack : FrameStack) : Bool :=
  stack.length == 1

/-- Add a node to the innermost frame. -/
def push (node : Node) : FrameStack → FrameStack
  | frame :: frames => { frame with children := node :: frame.children } :: frames
  | [] => []

/-- Add a text to the innermost frame: to its value, if it has one, or to its children. -/
def pushText (text : String) : FrameStack → FrameStack
  | ⟨some (.code lang attributes value), children⟩ :: frames =>
      ⟨some (.code lang attributes (value ++ text)), children⟩ :: frames
  | ⟨some (.html value), children⟩ :: frames => ⟨some (.html (value ++ text)), children⟩ :: frames
  | ⟨scope?, children⟩ :: frames => ⟨scope?, addText text children⟩ :: frames
  | [] => []

/-- Begin a construct. -/
def openScope (scope : Scope) (stack : FrameStack) : FrameStack :=
  ⟨some scope, []⟩ :: stack

/-- End the innermost frame, unless it is the only one. -/
def close (stack : FrameStack) : FrameStack :=
  if stack.atTop then stack
  else
    match stack with
    | frame :: frames => push frame.node frames
    | [] => []

/-- Begin a paragraph if inline content stands directly in an item. -/
def ensureParagraph (stack : FrameStack) : FrameStack :=
  match stack with
  | ⟨some (.item _), _⟩ :: _ => stack.openScope (.paragraph true)
  | _ => stack

/-- End the innermost frame if it is an implicit paragraph. -/
def closeImplicit (stack : FrameStack) : FrameStack :=
  match stack with
  | ⟨some (.paragraph true), _⟩ :: _ => stack.close
  | _ => stack

/-- Spread the item that is the innermost frame, if one is. -/
def spreadItem : FrameStack → FrameStack
  | ⟨some (.item _), children⟩ :: frames => ⟨some (.item true), children⟩ :: frames
  | stack => stack

/-- Begin the construct of a tag. -/
def start (tag : Tag) (stack : FrameStack) : FrameStack :=
  let stack := if tag.isBlock then stack.closeImplicit else stack.ensureParagraph
  let stack := if tag = .paragraph then stack.spreadItem else stack
  stack.openScope (.ofTag tag)

/-- Go on by one event. -/
def step (stack : FrameStack) : Event → FrameStack
  | .start tag _ => stack.start tag
  | .finish true => stack.close
  | .finish false => stack.closeImplicit.close
  | .text value => stack.ensureParagraph.pushText value
  | .code value => stack.ensureParagraph.push (.leaf (.inlineCode value))
  | .html value => stack.pushText value
  | .inlineHtml value => stack.ensureParagraph.push (.leaf (.html value))
  | .softBreak => stack.ensureParagraph.pushText "\n"
  | .hardBreak => stack.ensureParagraph.push (.leaf .hardBreak)
  | .rule _ => stack.closeImplicit.push (.leaf .thematicBreak)

/-- Go on by several events. -/
def run (stack : FrameStack) (events : List Event) : FrameStack :=
  events.foldl step stack

/-- End a number of frames. -/
def closeAll : Nat → FrameStack → FrameStack
  | 0, stack => stack
  | count + 1, stack => closeAll count stack.close

/-- The tree of all that was built. When all frames but one have ended, that one has the children of
the root. -/
def finish (stack : FrameStack) : Node :=
  match stack.closeAll (stack.length - 1) with
  | frame :: _ => .branch .root frame.children.reverse
  | [] => .branch .root []

/-- Add definitions to the innermost frame. -/
def pushAll (references : List Reference) (stack : FrameStack) : FrameStack :=
  references.foldl (fun stack reference => stack.push reference.node) stack

/-- Go on by one event, with the definitions that are still to be placed. Before a block begins at
the top, those are placed that come before it. -/
def place : List Reference × FrameStack → Event → List Reference × FrameStack
  | (pending, stack), event =>
      match stack.atTop, event.blockOffset? with
      | true, some offset =>
          (pending.dropWhile (Placement.isBefore offset),
            (stack.pushAll (pending.takeWhile (Placement.isBefore offset))).step event)
      | _, _ => (pending, stack.step event)

/-- The tree of a document, from its definitions and events. -/
def tree (definitions : List Reference) (events : List Event) : Node :=
  let sorted := definitions.mergeSort fun a b => a.offset ≤ b.offset
  let (pending, stack) := events.foldl place (sorted, [⟨none, []⟩])
  (stack.pushAll pending).finish

/-! ## Stacks with a root -/

/-- There is one root on the stack, and it is the bottom frame. -/
def HasRoot (stack : FrameStack) : Prop :=
  ∃ frames children, stack = frames ++ [⟨none, children⟩] ∧ ∀ frame ∈ frames,
    frame.scope?.isSome = true

/-- The stack of a builder: the constructs that are open above the root. -/
def ofBuilder (builder : Builder) : FrameStack :=
  builder.frames.map (fun frame => ⟨some frame.scope, frame.children⟩) ++ [⟨none, builder.top⟩]

variable {builder : Builder} {stack : FrameStack}

/-- The stack of a builder has its root at the bottom. -/
theorem hasRoot_ofBuilder (builder : Builder) : HasRoot (ofBuilder builder) := by
  refine ⟨_, _, rfl, fun frame hframe => ?_⟩
  obtain ⟨_, -, rfl⟩ := List.mem_map.mp hframe
  rfl

theorem ofBuilder_cons (frame : Frame) (frames : List Frame) (top : List Node) :
    ofBuilder ⟨frame :: frames, top⟩ = ⟨some frame.scope, frame.children⟩ :: ofBuilder
      ⟨frames, top⟩ := rfl

/-- Every stack with a root is that of a builder. -/
theorem HasRoot.exists_ofBuilder (h : HasRoot stack) : ∃ builder, ofBuilder builder = stack := by
  obtain ⟨frames, children, rfl, hframes⟩ := h
  induction frames with
  | nil => exact ⟨⟨[], children⟩, rfl⟩
  | cons frame frames ih =>
      obtain ⟨hframe, hframes⟩ := List.forall_mem_cons.mp hframes
      obtain ⟨scope, hscope⟩ := Option.isSome_iff_exists.mp hframe
      obtain ⟨⟨open', top⟩, hbuilder⟩ := ih hframes
      refine ⟨⟨⟨scope, frame.children⟩ :: open', top⟩, ?_⟩
      rw [ofBuilder_cons, hbuilder, ← hscope]
      rfl

/-! ## What builders do -/

/-- Only the root is left where no construct is open. -/
theorem atTop_ofBuilder (builder : Builder) : (ofBuilder builder).atTop = builder.atTop := by
  obtain ⟨_ | ⟨frame, frames⟩, top⟩ := builder
  · rfl
  · simp [atTop, Builder.atTop, ofBuilder]

/-- A node becomes a child of the innermost frame, be that the root or not. -/
theorem push_ofBuilder (node : Node) (builder : Builder) :
    (ofBuilder builder).push node = ofBuilder (builder.push node) := by
  obtain ⟨_ | ⟨frame, frames⟩, top⟩ := builder <;> rfl

/-- A text is added in the same place. -/
theorem pushText_ofBuilder (text : String) (builder : Builder) :
    (ofBuilder builder).pushText text = ofBuilder (builder.pushText text) := by
  obtain ⟨_ | ⟨⟨scope, children⟩, frames⟩, top⟩ := builder
  · rfl
  · cases scope <;> rfl

/-- A construct is opened above the others. -/
theorem openScope_ofBuilder (scope : Scope) (builder : Builder) :
    (ofBuilder builder).openScope scope = ofBuilder (builder.openScope scope) := rfl

/-- An end closes the innermost construct. The root is never closed. -/
theorem close_ofBuilder (builder : Builder) :
    (ofBuilder builder).close = ofBuilder builder.close := by
  obtain ⟨_ | ⟨frame, frames⟩, top⟩ := builder
  · rfl
  · have hopen : (ofBuilder ⟨frame :: frames, top⟩).atTop = false := atTop_ofBuilder _
    unfold close
    rw [hopen, if_neg Bool.false_ne_true]
    exact push_ofBuilder (frame.scope.node frame.children.reverse) ⟨frames, top⟩

/-- Both open a paragraph in an item, and nowhere else. -/
theorem ensureParagraph_ofBuilder (builder : Builder) :
    (ofBuilder builder).ensureParagraph = ofBuilder builder.ensureParagraph := by
  obtain ⟨_ | ⟨⟨scope, children⟩, frames⟩, top⟩ := builder
  · rfl
  · cases scope <;> rfl

/-- Both end it where a block begins. -/
theorem closeImplicit_ofBuilder (builder : Builder) :
    (ofBuilder builder).closeImplicit = ofBuilder builder.closeImplicit := by
  obtain ⟨_ | ⟨⟨scope, children⟩, frames⟩, top⟩ := builder
  · rfl
  · cases scope with
    | paragraph implicit =>
        cases implicit with
        | true => exact close_ofBuilder ⟨⟨.paragraph true, children⟩ :: frames, top⟩
        | false => rfl
    | _ => rfl

/-- Both spread the innermost item. -/
theorem spreadItem_ofBuilder (builder : Builder) :
    (ofBuilder builder).spreadItem = ofBuilder builder.spreadItem := by
  obtain ⟨_ | ⟨⟨scope, children⟩, frames⟩, top⟩ := builder
  · rfl
  · cases scope <;> rfl

/-- A tag begins the same construct. -/
theorem start_ofBuilder (tag : Tag) (builder : Builder) :
    (ofBuilder builder).start tag = ofBuilder (builder.start tag) := by
  unfold start Builder.start
  dsimp only
  rw [closeImplicit_ofBuilder, ensureParagraph_ofBuilder, ← apply_ite ofBuilder,
    spreadItem_ofBuilder, ← apply_ite ofBuilder, openScope_ofBuilder]

/-- **An event does the same to a builder and to its stack.** -/
theorem step_ofBuilder (builder : Builder) (event : Event) :
    (ofBuilder builder).step event = ofBuilder (builder.step event) := by
  cases event with
  | start tag offset => exact start_ofBuilder tag builder
  | finish paragraph =>
      cases paragraph with
      | true => exact close_ofBuilder builder
      | false => rw [step, closeImplicit_ofBuilder, close_ofBuilder, Builder.step]
  | text value | softBreak => rw [step, ensureParagraph_ofBuilder, pushText_ofBuilder, Builder.step]
  | code value | inlineHtml value | hardBreak =>
      rw [step, ensureParagraph_ofBuilder, push_ofBuilder, Builder.step]
  | html value => exact pushText_ofBuilder value builder
  | rule offset => rw [step, closeImplicit_ofBuilder, push_ofBuilder, Builder.step]

/-- What holds of one event holds of any number of them. -/
theorem run_ofBuilder (builder : Builder) (events : List Event) :
    (ofBuilder builder).run events = ofBuilder (builder.run events) := by
  induction events generalizing builder with
  | nil => rfl
  | cons event events ih =>
      change ((ofBuilder builder).step event).run events = _
      rw [step_ofBuilder, ih, Builder.run_cons]

/-- **The bottom frame is always the root.** -/
theorem hasRoot_run (h : HasRoot stack) (events : List Event) : HasRoot (stack.run events) := by
  obtain ⟨builder, rfl⟩ := h.exists_ofBuilder
  rw [run_ofBuilder]
  exact hasRoot_ofBuilder _

/-! ## Trees -/

/-- As many constructs end. -/
theorem closeAll_ofBuilder (count : Nat) (builder : Builder) :
    (ofBuilder builder).closeAll count = ofBuilder (builder.closeAll count) := by
  induction count generalizing builder with
  | zero => rfl
  | succ count ih => rw [closeAll, Builder.closeAll, close_ofBuilder, ih]

/-- As many ends as there are constructs open leave none. -/
theorem frames_closeAll (frames : List Frame) (top : List Node) :
    (Builder.closeAll frames.length ⟨frames, top⟩).frames = [] := by
  generalize hcount : frames.length = count
  induction count generalizing frames top with
  | zero => exact List.length_eq_zero_iff.mp hcount
  | succ count ih =>
      obtain ⟨frame, rest, rfl⟩ := List.exists_cons_of_length_eq_add_one hcount
      have hrest : rest.length = count := by simpa using hcount
      cases rest with
      | nil => exact ih [] _ hrest
      | cons outer rest => exact ih (⟨outer.scope, _⟩ :: rest) top hrest

/-- What is built in the end is the same, too. -/
theorem finish_ofBuilder (builder : Builder) : (ofBuilder builder).finish = builder.finish := by
  have hlength : (ofBuilder builder).length - 1 = builder.frames.length := by simp [ofBuilder]
  have hframes := frames_closeAll builder.frames builder.top
  unfold finish Builder.finish
  rw [hlength, closeAll_ofBuilder]
  generalize builder.closeAll builder.frames.length = closed at hframes ⊢
  obtain ⟨frames, top⟩ := closed
  obtain rfl : frames = [] := hframes
  rfl

/-- Definitions are added to the same frame. -/
theorem pushAll_ofBuilder (references : List Reference) (builder : Builder) :
    (ofBuilder builder).pushAll references =
      ofBuilder (references.foldl (fun builder reference => builder.push reference.node)
        builder) := by
  induction references generalizing builder with
  | nil => rfl
  | cons reference references ih =>
      change ((ofBuilder builder).push reference.node).pushAll references = _
      rw [push_ofBuilder, ih, List.foldl_cons]

/-- A document that is being built, on a stack. -/
def ofPlacement (placement : Placement) : List Reference × FrameStack :=
  (placement.pending, ofBuilder placement.builder)

/-- The definitions in front of an event are placed alike, and then the event is a step of both. -/
theorem place_ofPlacement (placement : Placement) (event : Event) :
    place (ofPlacement placement) event = ofPlacement (placement.step event) := by
  unfold place ofPlacement Placement.step
  dsimp only
  rw [atTop_ofBuilder]
  cases placement.builder.atTop with
  | true =>
      cases event.blockOffset? with
      | some offset =>
          dsimp only
          rw [pushAll_ofBuilder, step_ofBuilder]
      | none =>
          dsimp only
          rw [step_ofBuilder]
  | false =>
      dsimp only
      rw [step_ofBuilder]

/-- **The tree of a document is the one that is built on a stack.** -/
theorem tree_eq (definitions : List Reference) (events : List Event) :
    tree definitions events = Node.ofEvents definitions events := by
  have hrun : ∀ placement : Placement,
      events.foldl place (ofPlacement placement) = ofPlacement
        (events.foldl Placement.step placement) := by
    induction events with
    | nil => exact fun _ => rfl
    | cons event events ih =>
        intro placement
        rw [List.foldl_cons, place_ofPlacement, ih, List.foldl_cons]
  unfold tree Node.ofEvents Placement.finish
  have hevents := hrun { pending := definitions.mergeSort fun a b => a.offset ≤ b.offset }
  change events.foldl place (_, [⟨none, []⟩]) = _ at hevents
  dsimp only
  rw [hevents]
  exact (congrArg finish (pushAll_ofBuilder _ _)).trans (finish_ofBuilder _)

end FrameStack

end MarkdownWriter
