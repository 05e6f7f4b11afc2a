import MarkdownWriter.Style.Check
import MarkdownWriter.Toml.Basic

/-!
# Styles in configuration files

A style is kept as a table with one key for every choice that is made. A choice with a value of the
wrong type makes the whole table unreadable; keys that are no choices are passed over. Whether a
value is accepted is not checked here.
-/

namespace MarkdownWriter

open Toml

/-! ## Writing -/

/-- The choices of a style that are made, by their keys. -/
def Style.entries (style : Style) : Entries :=
  let letter (c : Char) : Value := .string (String.singleton c)
  let choices : List (String × Option Value) := [
    ("bullet", style.bullet.map letter),
    ("bullet-other", style.bulletOther.map letter),
    ("bullet-ordered", style.bulletOrdered.map letter),
    ("bullet-ordered-other", style.bulletOrderedOther.map letter),
    ("emphasis", style.emphasis.map letter),
    ("strong", style.strong.map letter),
    ("fence", style.fence.map letter),
    ("fences", style.fences.map .boolean),
    ("quote", style.quote.map letter),
    ("rule", style.rule.map letter),
    ("rule-repetition", style.ruleRepetition.map fun n => .integer n),
    ("rule-spaces", style.ruleSpaces.map .boolean),
    ("close-atx", style.closeAtx.map .boolean),
    ("setext", style.setext.map .boolean),
    ("list-item-indent", style.listItemIndent.map fun indent => .string indent.name),
    ("increment-list-marker", style.incrementListMarker.map .boolean),
    ("resource-link", style.resourceLink.map .boolean),
    ("tight-definitions", style.tightDefinitions.map .boolean)]
  choices.filterMap fun (key, value) => value.map (key, ·)

/-! ## Reading -/

/-- The value of a choice, if the key is there; nothing at all if it is there with another type. -/
def Toml.Entries.choice {α : Type} (entries : Entries) (key : String) (read : Value → Option α) :
    Option (Option α) :=
  match entries.lookup key with
  | none => some none
  | some value => (read value).map some

/-- The character of a string of one character. -/
def Toml.Value.letter? : Value → Option Char
  | .string text =>
      match text.toList with
      | [c] => some c
      | _ => none
  | _ => none

/-- The truth value of a boolean. -/
def Toml.Value.boolean? : Value → Option Bool
  | .boolean b => some b
  | _ => none

/-- The number of an integer that is not negative. -/
def Toml.Value.count? : Value → Option Nat
  | .integer (.ofNat n) => some n
  | _ => none

/-- The indent a string names. -/
def Toml.Value.indent? : Value → Option ItemIndent
  | .string name => (ItemIndent.ofName name).toOption
  | _ => none

/-- The style a table holds. -/
def Style.ofEntries (entries : Entries) : Option Style := do
  return {
    bullet := ← entries.choice "bullet" Value.letter?
    bulletOther := ← entries.choice "bullet-other" Value.letter?
    bulletOrdered := ← entries.choice "bullet-ordered" Value.letter?
    bulletOrderedOther := ← entries.choice "bullet-ordered-other" Value.letter?
    emphasis := ← entries.choice "emphasis" Value.letter?
    strong := ← entries.choice "strong" Value.letter?
    fence := ← entries.choice "fence" Value.letter?
    fences := ← entries.choice "fences" Value.boolean?
    quote := ← entries.choice "quote" Value.letter?
    rule := ← entries.choice "rule" Value.letter?
    ruleRepetition := ← entries.choice "rule-repetition" Value.count?
    ruleSpaces := ← entries.choice "rule-spaces" Value.boolean?
    closeAtx := ← entries.choice "close-atx" Value.boolean?
    setext := ← entries.choice "setext" Value.boolean?
    listItemIndent := ← entries.choice "list-item-indent" Value.indent?
    incrementListMarker := ← entries.choice "increment-list-marker" Value.boolean?
    resourceLink := ← entries.choice "resource-link" Value.boolean?
    tightDefinitions := ← entries.choice "tight-definitions" Value.boolean? }

end MarkdownWriter
