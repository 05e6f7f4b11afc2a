import MarkdownWriter.Escape.Rule
import MarkdownWriter.Text.Reference

/-!
# Literal text

A literal text has to read back as itself, whatever stands directly before and after it in the
output. The rules that apply are matched against the text between its neighbours. A character of the
text that some rule flags is escaped, by a backslash if it is ASCII punctuation and by a character
reference otherwise, unless the character next to it is flagged unconditionally and escaping that
one already breaks what the rule is about. A backslash of the text that would escape what comes
after it is doubled.
-/

namespace MarkdownWriter

/-! ## Flagged characters -/

/-- What a flag hangs on: whether every rule behind it asks for something before or after the
character. -/
structure Reason where
  before : Bool
  after : Bool
  deriving DecidableEq, Repr

namespace Reason

/-- The reason of two rules that flag the same character. -/
def both (r s : Reason) : Reason :=
  ⟨r.before && s.before, r.after && s.after⟩

/-- Whether the flag stands whatever is around the character. -/
def isUnconditional (r : Reason) : Bool :=
  !r.before && !r.after

end Reason

/-- A character of a text and, if it is flagged, the reason. -/
structure Mark where
  char : Char
  reason : Option Reason
  deriving DecidableEq, Repr

namespace Mark

/-- Whether the character is flagged whatever is around it. -/
def isUnconditional (mark : Mark) : Bool :=
  mark.reason.any Reason.isUnconditional

/-- Whether the character is one of ASCII's. Only such a character shares an escape with the one
after it. -/
def isAscii (mark : Mark) : Bool :=
  mark.char.toNat < 0x80

/-- Whether a flagged character has to be escaped, given the characters on both sides of it. -/
def needsEscape (previous : Option Mark) (mark : Mark) (next : Option Mark) : Bool :=
  match mark.reason with
  | none => false
  | some reason =>
      !(reason.after && mark.isAscii && next.any isUnconditional) &&
        !(reason.before && previous.any fun p => p.isAscii && p.isUnconditional)

end Mark

/-- The offsets that rules flag in a text, with their reasons. -/
structure Flags where
  positions : List Nat
  reason : Reason

/-- What every rule that applies flags. -/
def Rule.flags (rules : List Rule) (stack : List Construct) (text : List Char) : List Flags :=
  (rules.filter (·.applies stack)).map fun rule =>
    ⟨rule.positions text, rule.leading, rule.trailing⟩

/-- The reason a character is flagged for, if any rule flags it. -/
def reasonAt (flags : List Flags) (offset : Nat) : Option Reason :=
  ((flags.filter (·.positions.contains offset)).map Flags.reason).foldl
    (fun found reason => some (found.elim reason (·.both reason))) none

/-- The characters of a text with what the rules say about them. -/
def marks (rules : List Rule) (stack : List Construct) (text : List Char) : List Mark :=
  let flags := Rule.flags rules stack text
  text.mapIdx fun i c => ⟨c, reasonAt flags i⟩

/-! ## Writing -/

/-- A character to be written, and whether it is escaped. -/
structure Letter where
  char : Char
  escaped : Bool
  deriving DecidableEq, Repr

/-- Which of the marked characters are escaped, when `previous` stands before them. -/
def letters (previous : Option Mark) : List Mark → List Letter
  | [] => []
  | mark :: rest => ⟨mark.char, mark.needsEscape previous rest.head?⟩ :: letters (some mark) rest

/-- The first character that is written for a letter. An escape may be written as a reference, but
counts as a backslash for the character before it. -/
def Letter.front (letter : Letter) : Char :=
  if letter.escaped then '\\' else letter.char

/-- A character that is not escaped itself, doubled if it is a backslash that would escape `next`.
-/
def plainChar (c : Char) (next : Option Char) : List Char :=
  if c == '\\' && next.any Text.isPunctuation then [c, c] else [c]

/-- A letter as it is written before `next`. The characters in `encode` are escaped by references,
for places where a backslash is literal. -/
def Letter.written (encode : List Char) (letter : Letter) (next : Option Char) : List Char :=
  if !letter.escaped then plainChar letter.char next
  else if Text.isPunctuation letter.char &&
    !encode.contains letter.char then '\\' :: plainChar letter.char next
  else Text.characterReference letter.char

/-- Letters one after the other, with `after` as the first character behind them. -/
def writeLetters (encode : List Char) (after : Option Char) : List Letter → List Char
  | [] => []
  | letter :: rest =>
      letter.written encode (rest.head?.elim after fun next => some next.front) ++ writeLetters
        encode after rest

/-- What stands around a literal text in the output, and which characters a backslash cannot escape
there. -/
structure Surroundings where
  before : List Char := []
  after : List Char := []
  encode : List Char := []

/-- The letters of a text between its surroundings. -/
def lettersBetween (rules : List Rule) (stack : List Construct) (input : List Char)
    (around : Surroundings) : List Letter :=
  let all := marks rules stack (around.before ++ input ++ around.after)
  let previous := (all.take around.before.length).getLast?
  letters previous ((all.drop around.before.length).take input.length)

/-- A literal text, escaped for the constructs that are open and for what stands around it. -/
def escapeLiteral (rules : List Rule) (stack : List Construct) (input : List Char)
    (around : Surroundings) : List Char :=
  writeLetters around.encode around.after.head? (lettersBetween rules stack input around)

end MarkdownWriter
