/-!
# Regular expressions

The conditions of unsafe characters are regular expressions. This module has the ones the library
itself is made of: their forms, and how they match at one place of a text. They match in
backtracking order: `Regex.ends` lists every way an expression can match at a place, the preferred
one first, so that an earlier alternative wins over a later one and a greedy repetition over a
shorter one.

One group of an expression may be marked, and a match tells how long the part was that the marked
group matched.

Matching only moves on inside the text (`Regex.reaches_of_mem_ends`); what searches for an
expression depends on that.
-/

namespace MarkdownWriter

/-! ## Expressions -/

/-- A set of characters, by ranges with both ends included, or all characters but those. -/
structure CharSet where
  negated : Bool := false
  ranges : List (Char × Char)
  deriving DecidableEq, Repr

namespace CharSet

/-- Whether a character belongs to the set. -/
def contains (set : CharSet) (c : Char) : Bool :=
  set.ranges.any (fun (first, last) => first ≤ c && c ≤ last) != set.negated

/-- The set of the given characters. -/
def of (characters : List Char) : CharSet :=
  ⟨false, characters.map fun c => (c, c)⟩

end CharSet

/-- A regular expression. -/
inductive Regex where
  /-- Matches the empty text. -/
  | empty
  /-- Matches one character of a set. -/
  | set (set : CharSet)
  /-- Matches at the start of the whole text. -/
  | start
  /-- Matches at the end of the whole text. -/
  | finish
  | seq (first second : Regex)
  /-- Matches what either side does, the left side preferred. -/
  | alt (left right : Regex)
  /-- Matches what the expression does and remembers the length. -/
  | marked (body : Regex)
  /-- Matches the expression at least `least` and, if there is a limit, at most `most` times in a
  row. -/
  | repeated (body : Regex) (least : Nat) (most : Option Nat) (greedy : Bool)
  deriving DecidableEq, Repr

/-! ## Matching at one place -/

/-- A place in a text, with the length the marked group matched on the way there. -/
structure Place where
  /-- The number of characters before the place. -/
  offset : Nat
  /-- What follows the place. -/
  rest : List Char
  marked : Option Nat := none
  deriving DecidableEq, Repr

/-- The two ways to go on, in the order a greedy or a sparing repetition prefers. -/
def prefer (greedy : Bool) (more done : List Place) : List Place :=
  if greedy then more ++ done else done ++ more

/-- One or more steps in a row. A step that gets nowhere may be the last one but is not repeated;
each of the others takes a character of the text, so the text bounds their number. -/
def manySteps (step : Place → List Place) (greedy : Bool) : List Char → Place → List Place
  | [], place => step place
  | _ :: text, place =>
      (step place).flatMap fun next =>
        prefer greedy (if next.offset = place.offset then [] else manySteps step greedy text next)
          [next]

/-- Up to `limit` steps in a row. -/
def someSteps (step : Place → List Place) (greedy : Bool) : Nat → Place → List Place
  | 0, place => [place]
  | limit + 1, place => prefer greedy ((step place).flatMap (someSteps step greedy limit)) [place]

/-- Exactly `count` steps in a row. -/
def exactSteps (step : Place → List Place) : Nat → Place → List Place
  | 0, place => [place]
  | count + 1, place => (step place).flatMap (exactSteps step count)

/-- The ways to take a step at least `least` and at most `most` times. -/
def repeatSteps (step : Place → List Place) (greedy : Bool) (least : Nat) (most : Option Nat)
    (place : Place) : List Place :=
  match most, least with
  | some most, _ => (exactSteps step least place).flatMap (someSteps step greedy (most - least))
  | none, 0 => prefer greedy (manySteps step greedy place.rest place) [place]
  | none, count + 1 =>
      (exactSteps step count place).flatMap fun next => manySteps step greedy next.rest next

namespace Regex

/-- The places where a match that begins at `place` can end, the preferred one first. -/
def ends : Regex → Place → List Place
  | empty, place => [place]
  | set s, place =>
      match place.rest with
      | c :: rest =>
          if s.contains c then [{ place with offset := place.offset + 1, rest := rest }] else []
      | [] => []
  | start, place => if place.offset = 0 then [place] else []
  | finish, place => if place.rest.isEmpty then [place] else []
  | seq first second, place => (first.ends place).flatMap second.ends
  | alt left right, place => left.ends place ++ right.ends place
  | marked body, place =>
      (body.ends place).map fun next => { next with marked := some (next.offset - place.offset) }
  | repeated body least most greedy, place => repeatSteps body.ends greedy least most place

end Regex

/-! ## What matching keeps -/

/-- Both orders of preference hold the same places. -/
theorem mem_prefer {greedy : Bool} {more done : List Place} {place : Place} :
    place ∈ prefer greedy more done ↔ place ∈ more ∨ place ∈ done := by
  unfold prefer
  split
  · rw [List.mem_append]
  · rw [List.mem_append, or_comm]

section keep

variable {step : Place → List Place} {keeps : Place → Prop}
  (h : ∀ place, keeps place → ∀ next ∈ step place, keeps next)

include h

/-- What every step keeps, any number of steps in a row keep. -/
theorem keeps_of_mem_exactSteps {count : Nat} {place last : Place} (hplace : keeps place)
    (hlast : last ∈ exactSteps step count place) : keeps last := by
  induction count generalizing place with
  | zero =>
      obtain rfl := List.mem_singleton.mp hlast
      exact hplace
  | succ count ih =>
      obtain ⟨middle, hmiddle, hlast⟩ := List.mem_flatMap.mp hlast
      exact ih (h place hplace middle hmiddle) hlast

/-- What every step keeps, up to `limit` steps keep. -/
theorem keeps_of_mem_someSteps {greedy : Bool} {limit : Nat} {place last : Place}
    (hplace : keeps place) (hlast : last ∈ someSteps step greedy limit place) : keeps last := by
  induction limit generalizing place with
  | zero =>
      obtain rfl := List.mem_singleton.mp hlast
      exact hplace
  | succ limit ih =>
      rcases mem_prefer.mp hlast with hlast | hlast
      · obtain ⟨middle, hmiddle, hlast⟩ := List.mem_flatMap.mp hlast
        exact ih (h place hplace middle hmiddle) hlast
      · obtain rfl := List.mem_singleton.mp hlast
        exact hplace

/-- What every step keeps, one or more steps keep. -/
theorem keeps_of_mem_manySteps {greedy : Bool} {bound : List Char} {place last : Place}
    (hplace : keeps place) (hlast : last ∈ manySteps step greedy bound place) : keeps last := by
  induction bound generalizing place with
  | nil => exact h place hplace last hlast
  | cons _ bound ih =>
      obtain ⟨middle, hmiddle, hlast⟩ := List.mem_flatMap.mp hlast
      have hkeeps := h place hplace middle hmiddle
      rcases mem_prefer.mp hlast with hlast | hlast
      · split at hlast
        · contradiction
        · exact ih hkeeps hlast
      · obtain rfl := List.mem_singleton.mp hlast
        exact hkeeps

/-- What every step keeps, a repetition keeps. -/
theorem keeps_of_mem_repeatSteps {greedy : Bool} {least : Nat} {most : Option Nat}
    {place last : Place} (hplace : keeps place)
    (hlast : last ∈ repeatSteps step greedy least most place) : keeps last := by
  match most, least with
  | some most, least =>
      obtain ⟨middle, hmiddle, hlast⟩ := List.mem_flatMap.mp hlast
      exact keeps_of_mem_someSteps h (keeps_of_mem_exactSteps h hplace hmiddle) hlast
  | none, 0 =>
      rcases mem_prefer.mp hlast with hlast | hlast
      · exact keeps_of_mem_manySteps h hplace hlast
      · obtain rfl := List.mem_singleton.mp hlast
        exact hplace
  | none, fewer + 1 =>
      obtain ⟨middle, hmiddle, hlast⟩ := List.mem_flatMap.mp hlast
      exact keeps_of_mem_manySteps h (keeps_of_mem_exactSteps h hplace hmiddle) hlast

end keep

/-- A later place of the same text. -/
structure Place.Reaches (place next : Place) : Prop where
  offset_le : place.offset ≤ next.offset
  length_eq : next.offset + next.rest.length = place.offset + place.rest.length

theorem Place.Reaches.refl (place : Place) : place.Reaches place :=
  ⟨Nat.le_refl _, rfl⟩

theorem Place.Reaches.trans {place middle next : Place} (h : place.Reaches middle)
    (h' : middle.Reaches next) : place.Reaches next :=
  ⟨Nat.le_trans h.offset_le h'.offset_le, h'.length_eq.trans h.length_eq⟩

namespace Regex

/-- An expression moves on inside the text. -/
theorem reaches_of_mem_ends : ∀ {regex : Regex} {place next : Place}, next ∈ regex.ends place →
    place.Reaches next
  | .empty, place, next, hnext => by
      obtain rfl := List.mem_singleton.mp hnext
      exact .refl _
  | .set s, place, next, hnext => by
      unfold ends at hnext
      split at hnext
      · next c rest hrest =>
          split at hnext
          · obtain rfl := List.mem_singleton.mp hnext
            refine ⟨Nat.le_succ _, ?_⟩
            simp only [hrest, List.length_cons]
            omega
          · contradiction
      · contradiction
  | .start, place, next, hnext => by
      unfold ends at hnext
      split at hnext
      · obtain rfl := List.mem_singleton.mp hnext
        exact .refl _
      · contradiction
  | .finish, place, next, hnext => by
      unfold ends at hnext
      split at hnext
      · obtain rfl := List.mem_singleton.mp hnext
        exact .refl _
      · contradiction
  | .seq first second, place, next, hnext => by
      obtain ⟨middle, hmiddle, hnext⟩ := List.mem_flatMap.mp hnext
      exact (reaches_of_mem_ends hmiddle).trans (reaches_of_mem_ends hnext)
  | .alt left right, place, next, hnext => by
      rcases List.mem_append.mp hnext with hnext | hnext
      · exact reaches_of_mem_ends hnext
      · exact reaches_of_mem_ends hnext
  | .marked body, place, next, hnext => by
      obtain ⟨last, hlast, rfl⟩ := List.mem_map.mp hnext
      have hreaches := reaches_of_mem_ends hlast
      exact ⟨hreaches.offset_le, hreaches.length_eq⟩
  | .repeated body least most greedy, place, next, hnext =>
      keeps_of_mem_repeatSteps (fun _ hother _ hlast => hother.trans (reaches_of_mem_ends hlast))
        (.refl place) hnext

/-! ## Building expressions -/

/-- One given character. -/
def character (c : Char) : Regex :=
  .set (CharSet.of [c])

/-- One of the given characters. -/
def oneOf (characters : List Char) : Regex :=
  .set (CharSet.of characters)

/-- Any number of times, as often as possible. -/
def star (body : Regex) : Regex :=
  .repeated body 0 none true

/-- At least once, as often as possible. -/
def plus (body : Regex) : Regex :=
  .repeated body 1 none true

end Regex

end MarkdownWriter
