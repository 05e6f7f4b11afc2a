import MarkdownWriter.Render.Form
import MarkdownWriter.Render.State

/-!
# What separates blocks

Two blocks that follow each other are separated by blank lines, and by an empty comment where they
would merge or continue one another even then (`Join`). Rules decide how many blank lines; a rule
may look at the state of the rendering, and it may leave the decision to the rules registered before
it (`JoinRule`, `Join.decide`).

The library has two rules of its own: `defaultRule` keeps blocks unambiguous and spreads the items
of lists as their parent says, and `tightDefinitions`, where the style asks for it, leaves no blank
line between definitions.
-/

namespace MarkdownWriter

/-- How two blocks are separated. -/
inductive Join where
  /-- By a number of blank lines, so by one more line ending. -/
  | blankLines (count : Nat)
  /-- By an empty comment, as they may not touch. -/
  | interrupt
  deriving DecidableEq, Repr, Inhabited

/-- The text between two blocks. -/
def Join.separator : Join → List Char
  | .blankLines count => List.replicate (count + 1) '\n'
  | .interrupt => "\n\n<!---->\n\n".toList

/-- Blocks that may touch get the usual blank line, others are interrupted. -/
def Join.ofAllowed (allowed : Bool) : Join :=
  if allowed then .blankLines 1 else .interrupt

/-- Decides how the blocks `left` and `right` inside `parent` are separated while a rendering is in
a state: `rule state left right parent`. -/
abbrev JoinRule := State → Node → Node → Node → Option Join

namespace Join

/-- Whether indented code on the right would continue what is on the left: a list, or other indented
code. -/
def continuesAsCode (style : Style) (left right : Node) : Bool :=
  match left, right with
  | .branch (.list _) _, .leaf (.code block) => block.isIndented style
  | .leaf (.code before), .leaf (.code block) => before.isIndented style && block.isIndented style
  | _, _ => false

/-- Whether two lists would merge. They do when they have the same marker, which a configured other
marker prevents. -/
def mergesAsList (style : Style) (left right : Node) : Bool :=
  match left, right with
  | .branch (.list before) _, .branch (.list after) _ =>
      before.ordered == after.ordered &&
        (if before.ordered then style.bulletOrderedOther else style.bulletOther).isNone
  | _, _ => false

/-- Whether a blank line has to stay between a paragraph and the block after it, even in a tight
list item. -/
def keepsBlankLine (style : Style) (left right : Node) : Bool :=
  match left, right with
  | .branch .paragraph _, .branch .paragraph _ => true
  | .branch .paragraph _, .leaf (.definition ..) => true
  | .branch .paragraph _, .branch (.heading _) _ => right.isSetext style
  | _, _ => false

/-- The rule every rendering needs to stay unambiguous; it also spreads the items of lists as their
parent says. -/
def defaultRule : JoinRule := fun state left right parent =>
  if continuesAsCode state.style left right ||
    mergesAsList state.style left right then some .interrupt
  else
    match parent.spread? with
    | none => none
    | some spread =>
        if keepsBlankLine state.style left right then
          none else some (.blankLines (if spread then 1 else 0))

/-- No blank line between consecutive definitions. -/
def tightDefinitions : JoinRule := fun _ left right _ =>
  match left, right with
  | .leaf (.definition ..), .leaf (.definition ..) => some (.blankLines 0)
  | _, _ => none

/-- What a list of rules decides: the rule registered last is asked first, and one blank line is
left if none decides. -/
def decide (rules : List JoinRule) (state : State) (left right parent : Node) : Join :=
  (rules.reverse.findSome? fun rule => rule state left right parent).getD (.blankLines 1)

end Join

end MarkdownWriter
