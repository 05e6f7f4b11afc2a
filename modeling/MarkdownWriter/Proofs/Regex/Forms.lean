import MarkdownWriter.Proofs.Regex.Matching

/-!
# What the expressions of rules match

`Regex.Takes` says of every expression which stretches of a text it matches, by recursion on the
expression. The conditions of rules are made of few forms, and for each of them there is one lemma
that says which stretches those are, so that no later proof opens the relation:

* **Single characters** (`takes_character`, `takes_oneOf`, `takes_set`): the stretch is one
  character of the set.
* **Runs** (`takes_star_set`, `takes_plus_set`): the stretch is made of characters of the set only.
  Both are repetitions, which take a row of stretches (`takes_repeated`), and a row of single
  characters is as long as it has members (`takesInRow_set`).
* **Put together** (`takes_alt`, `takes_seq`, `takes_finish`): either of two, one
  after the other, the end of the text.
-/

namespace MarkdownWriter

namespace CharSet

/-- The set of some characters contains just those. -/
@[simp] theorem contains_of {characters : List Char} {c : Char} :
    (CharSet.of characters).contains c = true ↔ c ∈ characters := by
  simp only [CharSet.contains, CharSet.of, bne_iff_ne, ne_eq, Bool.not_eq_false, List.any_map,
    List.any_eq_true, Function.comp_apply, Bool.and_eq_true, decide_eq_true_eq]
  constructor
  · rintro ⟨d, hd, hle, hge⟩
    obtain rfl := Char.le_antisymm hle hge
    exact hd
  · intro h
    exact ⟨c, h, Char.le_refl c, Char.le_refl c⟩

end CharSet

namespace Regex

/-- A character takes itself. -/
@[simp] theorem takes_character {c : Char} {offset : Nat} {taken rest : List Char} :
    (character c).Takes offset taken rest ↔ taken = [c] := by
  simp [character, Takes]

/-- One of some characters. -/
@[simp] theorem takes_oneOf {characters : List Char} {offset : Nat} {taken rest : List Char} :
    (oneOf characters).Takes offset taken rest ↔ ∃ c ∈ characters, taken = [c] := by
  simp [oneOf, Takes]

/-- A character of a set. -/
@[simp] theorem takes_set {s : CharSet} {offset : Nat} {taken rest : List Char} :
    (set s).Takes offset taken rest ↔ ∃ c, s.contains c = true ∧ taken = [c] :=
  Iff.rfl

/-- The end of the text. -/
@[simp] theorem takes_finish {offset : Nat} {taken rest : List Char} :
    finish.Takes offset taken rest ↔ taken = [] ∧ rest = [] :=
  Iff.rfl

/-- Either of two. -/
@[simp] theorem takes_alt {left right : Regex} {offset : Nat} {taken rest : List Char} :
    (alt left right).Takes offset taken rest ↔ left.Takes offset taken rest ∨
      right.Takes offset taken rest :=
  Iff.rfl

/-- One after the other. -/
theorem takes_seq {first second : Regex} {offset : Nat} {taken rest : List Char} :
    (seq first second).Takes offset taken rest ↔
      ∃ front back, taken = front ++ back ∧ first.Takes offset front (back ++ rest) ∧
        second.Takes (offset + front.length) back rest :=
  Iff.rfl

/-- A number of characters of a set in a row. -/
theorem takesInRow_set {s : CharSet} {count offset : Nat} {taken rest : List Char} :
    TakesInRow (set s).Takes count offset taken rest ↔ taken.length = count ∧
      ∀ c ∈ taken, s.contains c = true := by
  induction count generalizing offset taken with
  | zero =>
      rw [TakesInRow, List.length_eq_zero_iff]
      constructor
      · rintro rfl
        exact ⟨rfl, by simp⟩
      · exact And.left
  | succ count ih =>
      simp only [TakesInRow, takes_set, ih]
      constructor
      · rintro ⟨_, back, rfl, ⟨c, hc, rfl⟩, rfl, hback⟩
        exact ⟨by simp, List.forall_mem_cons.mpr ⟨hc, hback⟩⟩
      · rintro ⟨hlength, hall⟩
        obtain ⟨c, back, rfl⟩ := List.exists_cons_of_length_eq_add_one hlength
        rw [List.forall_mem_cons] at hall
        exact ⟨[c], back, rfl, ⟨c, hall.1, rfl⟩, by simpa using hlength, hall.2⟩

/-- A repetition takes a row of stretches. -/
theorem takes_repeated {body : Regex} {least : Nat} {greedy : Bool} {offset : Nat}
    {taken rest : List Char} :
    (repeated body least none greedy).Takes offset taken rest ↔
      ∃ count, least ≤ count ∧ TakesInRow body.Takes count offset taken rest := by
  simp only [Takes, reduceCtorEq, false_implies, implies_true, true_and]

/-- Any number of characters of a set. -/
@[simp] theorem takes_star_set {s : CharSet} {offset : Nat} {taken rest : List Char} :
    (star (set s)).Takes offset taken rest ↔ ∀ c ∈ taken, s.contains c = true := by
  simp only [star, takes_repeated, takesInRow_set, Nat.zero_le, true_and, exists_eq_left']

/-- At least one character of a set. -/
@[simp] theorem takes_plus_set {s : CharSet} {offset : Nat} {taken rest : List Char} :
    (plus (set s)).Takes offset taken rest ↔ taken ≠ [] ∧ ∀ c ∈ taken, s.contains c = true := by
  simp only [plus, takes_repeated, takesInRow_set]
  constructor
  · rintro ⟨count, hcount, rfl, hall⟩
    exact ⟨List.length_pos_iff.mp hcount, hall⟩
  · rintro ⟨hne, hall⟩
    exact ⟨taken.length, List.length_pos_iff.mpr hne, rfl, hall⟩

end Regex

end MarkdownWriter
