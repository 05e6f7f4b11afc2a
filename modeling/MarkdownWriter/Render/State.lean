import MarkdownWriter.Construct
import MarkdownWriter.Node.Describe
import MarkdownWriter.Text.Lines
import MarkdownWriter.Style.Check

/-!
# The state of a rendering

While a tree is rendered a `State` is passed along: the style, the constructs that are open, which
child of each open container is being rendered, and the markers of lists. A rendering may fail, and
then the state it had reached is kept, since whoever recovers from the failure goes on with it.

Constructs and child indexes are stacks with the innermost entry first. `entering` and `isolated`
put the constructs back in any case; `counting` and the markers of a list are put back only after a
success.
-/

namespace MarkdownWriter

/-! ## Errors -/

/-- Why a tree cannot be written. -/
inductive RenderError where
  /-- The style is not accepted. -/
  | style (error : StyleError)
  /-- No handler is registered for a kind. -/
  | unknownNode (kind : String)
  /-- A node without a kind, as it is shown in messages. -/
  | invalidNode (description : String)
  /-- A handler was given a node of another kind. -/
  | mismatchedNode (expected : Kind) (found : String)
  /-- The conditions for an unsafe character are not a regular expression. -/
  | pattern (character : Char)
  deriving DecidableEq, Repr

/-- The message of an error. -/
def RenderError.message : RenderError → String
  | .style error => error.message
  | .unknownNode kind => "Cannot handle unknown node `" ++ kind ++ "`"
  | .invalidNode description => "Cannot handle value `" ++ description ++ "`, expected node"
  | .mismatchedNode expected found =>
      "Handler for `" ++ expected.name ++ "` was given a `" ++ found ++ "` node"
  | .pattern character => "Invalid unsafe pattern for `" ++ toString character ++ "`: "

/-! ## State -/

/-- Where a node's text lands, and what stands directly before and after it (or a stand-in such as a
line ending). -/
structure Site where
  before : List Char
  after : List Char
  position : Position
  deriving DecidableEq, Repr

/-- What changes while a tree is rendered. -/
structure State where
  style : Style := {}
  /-- The open constructs, innermost first. -/
  constructs : List Construct := []
  /-- The index of the child being rendered for every open container, innermost first. -/
  indexes : List Nat := []
  /-- The marker of the list being rendered. -/
  bulletCurrent : Option Char := none
  /-- The marker of the previous sibling, if that was a list. -/
  bulletLastUsed : Option Char := none
  /-- The kinds of the neighbours that were kept apart by an empty comment, the latest first. -/
  comments : List (String × String) := []
  deriving DecidableEq, Repr, Inhabited

/-- A step of a rendering. -/
abbrev Render := ExceptT RenderError (StateM State)

namespace Render

/-- A choice that depends on the state and may be refused. -/
def ofState {α : Type} (check : State → Except RenderError α) : Render α := do
  match check (← get) with
  | .ok value => pure value
  | .error error => throw error

/-- A choice of the style that may be refused. -/
def ofStyle {α : Type} (check : Style → Except StyleError α) : Render α :=
  ofState fun state => (check state.style).mapError .style

/-- Render with one more construct open. -/
def entering {α : Type} (construct : Construct) (action : Render α) : Render α :=
  fun state =>
    let (result, after) := action { state with constructs := construct :: state.constructs }
    (result, { after with constructs := after.constructs.tail })

/-- Render as if no construct were open. -/
def isolated {α : Type} (action : Render α) : Render α :=
  fun state =>
    let (result, after) := action { state with constructs := [] }
    (result, { after with constructs := state.constructs })

/-- Render the children of one more container, of which the first child comes first. -/
def counting {α : Type} (action : Render α) : Render α := do
  modify fun state => { state with indexes := 0 :: state.indexes }
  let value ← action
  modify fun state => { state with indexes := state.indexes.tail }
  return value

/-- Go to the child with the given index in the innermost container. -/
def goTo (index : Nat) : Render Unit :=
  modify fun state => { state with indexes := state.indexes.modifyHead fun _ => index }

end Render

end MarkdownWriter
