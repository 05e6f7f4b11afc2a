import MarkdownWriter.Escape.Rule
import MarkdownWriter.Regex.Engine
import MarkdownWriter.Text.Record

/-!
# Rules of extensions

An extension describes an unsafe character by a `Pattern`, whose conditions are fragments of regular
expressions in their written form. The fragments are put together as text, the character between
them, and an engine compiles the whole; a pattern is refused when the engine does not accept that
text. The conditions are in groups of their own, the one before the character in the first group of
all, so that a match tells where the character stands in it.
-/

namespace MarkdownWriter

/-- A rule about an unsafe character as an extension writes it. -/
structure Pattern where
  character : Char
  inside : List Construct := []
  outside : List Construct := []
  before : Option String := none
  after : Option String := none
  atBreak : Bool := false
  deriving DecidableEq, Repr

namespace Pattern

/-- A fragment in a group of its own. -/
def grouped (fragment : String) : List Char :=
  ['(', '?', ':'] ++ fragment.toList ++ [')']

/-- The part of the expression before the character. -/
def leading (pattern : Pattern) : List Char :=
  (if pattern.atBreak then "[\\r\\n][\\t ]*".toList else []) ++ (pattern.before.map grouped).getD []

/-- The whole expression. What is before the character is the first group. -/
def source (engine : Engine) (pattern : Pattern) : List Char :=
  (if pattern.leading.isEmpty then [] else '(' :: pattern.leading ++ [')']) ++
    engine.escape pattern.character ++ (pattern.after.map grouped).getD []

/-- The rule a pattern stands for, if an engine accepts its expression. -/
def rule? (engine : Engine) (pattern : Pattern) : Option Rule :=
  (engine.compile (pattern.source engine)).map fun expression =>
    { character := pattern.character
      inside := pattern.inside
      outside := pattern.outside
      atBreak := pattern.atBreak
      leading := pattern.atBreak || pattern.before.isSome
      trailing := pattern.after.isSome
      expression := expression }

end Pattern

/-! ## Patterns in messages -/

open Text

/-- A construct in a message. -/
def Construct.description : Construct → List Char
  | .custom name => tagged "Custom" (quotedString name)
  | construct =>
      match construct.name.toList with
      | [] => []
      | c :: rest => c.toUpper :: rest

/-- A pattern in the notation of `Text.Record`. -/
def Pattern.description (pattern : Pattern) : List Char :=
  record "UnsafePattern" [
    ("character", quotedLetter pattern.character),
    ("in_construct", listing (pattern.inside.map Construct.description)),
    ("not_in_construct", listing (pattern.outside.map Construct.description)),
    ("before", maybeString pattern.before),
    ("after", maybeString pattern.after),
    ("at_break", flag pattern.atBreak)]

end MarkdownWriter
