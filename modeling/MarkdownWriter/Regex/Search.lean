import MarkdownWriter.Regex.Basic

/-!
# Searching a text

What a search needs to know of a regular expression is where the matches that begin at a place can
end, and how long the part is that the first group matches on the way: that is an `Expression`,
whatever engine has made it out of whatever notation. The library's own expressions are written down
as `Regex` (`Regex.compiled`), and those of extensions come from an `Engine`.

Of the matches at one place the preferred one counts (`Expression.matchAt`). `Expression.find` takes
the leftmost place with a match, and `Expression.findAll` goes on from the end of each match, so
matches do not overlap.
-/

namespace MarkdownWriter

/-! ## Expressions -/

/-- Where a match can end, with the length of the part that the first group matches, if it matches
anything. -/
structure End where
  stop : Nat
  marked : Option Nat
  deriving DecidableEq, Repr

/-- An expression, as far as a search goes. -/
structure Expression where
  /-- The ends of the matches in a text that begin at a place, the preferred one first. -/
  ends : List Char → Nat → List End
  /-- A match ends in the text, and not before it begins. -/
  bounds : ∀ {text first last}, first ≤ text.length → last ∈ ends text first →
    first ≤ last.stop ∧ last.stop ≤ text.length

/-- A regular expression of the library's own, as it is searched for. -/
def Regex.compiled (regex : Regex) : Expression where
  ends := fun text first =>
    (regex.ends ⟨first, text.drop first, none⟩).map fun place => ⟨place.offset, place.marked⟩
  bounds := by
    intro text first last hfirst hlast
    obtain ⟨place, hplace, rfl⟩ := List.mem_map.mp hlast
    have hle := (reaches_of_mem_ends hplace).offset_le
    have hlength := (reaches_of_mem_ends hplace).length_eq
    rw [List.length_drop] at hlength
    dsimp only at hle hlength ⊢
    omega

/-! ## Searching -/

/-- Where a match begins and ends, and how long the part of the first group is. -/
structure Match where
  first : Nat
  stop : Nat
  marked : Option Nat
  deriving DecidableEq, Repr

namespace Expression

/-- The preferred match that begins at a given place. -/
def matchAt (expression : Expression) (text : List Char) (first : Nat) : Option Match :=
  (expression.ends text first).head?.map fun last => ⟨first, last.stop, last.marked⟩

/-- The leftmost match in a text that begins at `offset` or later. -/
def find (expression : Expression) (text : List Char) (offset : Nat) : Option Match :=
  (List.range' offset (text.length + 1 - offset)).findSome? (expression.matchAt text)

/-- The matches in a text from `offset` on, each found from the end of the one before. An empty
match at the end of the match before it (`last`) does not count; the search goes on one character
later. -/
def findAllFrom (expression : Expression) (text : List Char) : Nat → Option Nat → Nat → List Match
  | 0, _, _ => []
  | fuel + 1, last, offset =>
      match expression.find text offset with
      | none => []
      | some found =>
          if found.first = found.stop ∧ last = some found.stop then
            findAllFrom expression text fuel none (offset + 1)
          else found :: findAllFrom expression text fuel (some found.stop) found.stop

/-- All matches in a text that do not overlap, from left to right. -/
def findAll (expression : Expression) (text : List Char) : List Match :=
  expression.findAllFrom text (2 * text.length + 2) none 0

end Expression

end MarkdownWriter
