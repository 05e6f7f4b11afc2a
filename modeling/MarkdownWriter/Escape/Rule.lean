import MarkdownWriter.Construct
import MarkdownWriter.Regex.Search

/-!
# Rules about unsafe characters

A rule says where one character of a literal text would be taken for markup: in which constructs,
and between which neighbours. The neighbours are described by a regular expression for a stretch of
text that contains the character. What comes before the character there is the marked group, so that
its length leads from the start of a match to the character itself.
-/

namespace MarkdownWriter

/-- A rule about an unsafe character. -/
structure Rule where
  character : Char
  /-- The constructs the rule is for; it is for all if none is named. -/
  inside : List Construct := []
  /-- The constructs the rule is suspended in. -/
  outside : List Construct := []
  /-- Whether the character has to be the first on its line, after spaces and tabs. -/
  atBreak : Bool := false
  /-- Whether the expression says something about what comes before the character. -/
  leading : Bool := false
  /-- Whether the expression says something about what comes after the character. -/
  trailing : Bool := false
  expression : Expression

namespace Rule

/-- Whether a rule applies while the constructs of `stack` are open. -/
def applies (rule : Rule) (stack : List Construct) : Bool :=
  (rule.inside.isEmpty || stack.any rule.inside.contains) && !stack.any rule.outside.contains

/-- The offsets of the characters a rule flags in a text, in ascending order. -/
def positions (rule : Rule) (text : List Char) : List Nat :=
  (rule.expression.findAll text).map fun found =>
    found.first + if rule.leading then found.marked.getD 0 else 0

/-- What stands before a character that starts a line: the line ending, then spaces and tabs. -/
def lineStart : Regex :=
  .seq (.oneOf ['\r', '\n']) (.star (.oneOf ['\t', ' ']))

/-- The marked group of a rule, if anything is asked of what comes before the character. -/
def leadingGroup (atBreak : Bool) (before : Option Regex) : Option Regex :=
  match atBreak, before with
  | true, some regex => some (.marked (.seq lineStart regex))
  | true, none => some (.marked lineStart)
  | false, some regex => some (.marked regex)
  | false, none => none

/-- The expression for a character with what has to stand before and after it. -/
def expressionFor (c : Char) (leading trailing : Option Regex) : Regex :=
  let rest := trailing.elim (.character c) (.seq (.character c))
  leading.elim rest (.seq · rest)

/-- The rule about a character with the given conditions. -/
def make (c : Char) (inside outside : List Construct) (atBreak : Bool)
    (before after : Option Regex) : Rule where
  character := c
  inside := inside
  outside := outside
  atBreak := atBreak
  leading := atBreak || before.isSome
  trailing := after.isSome
  expression := (expressionFor c (leadingGroup atBreak before) after).compiled

end Rule

end MarkdownWriter
