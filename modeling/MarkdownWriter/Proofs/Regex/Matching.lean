import MarkdownWriter.Regex.Basic
import Mathlib.Tactic.Common

/-!
# What a regular expression matches

`Regex.ends` is a search: it lists the places a match can end at, in order of preference. This
module says what it searches for. `Regex.Takes` is the relation "the expression can match this
stretch of text here", with one clause for each form of expression and no order in it.

* **The search decides the relation** (`Regex.describes`): every end the search finds is the end of
  a stretch the expression takes (soundness), and every stretch it takes is found (completeness).
  There is one lemma about `Describes` for each form of expression, in terms of its parts.
* **Unmarked expressions keep the mark** (`Regex.marked_of_mem_ends`): only a marked group changes
  what a place remembers, so the length a match reports is that of the last marked group on the way.

The completeness half has one obstacle. A repetition does not go on after a step that took nothing,
although the relation allows such steps anywhere in a row. They change neither the place nor what
follows, so a row can be found without them (`Describes.many`).
-/

namespace MarkdownWriter

/-! ## The relation -/

/-- `count` stretches in a row, each taken by `takes`, make up `taken`. -/
def TakesInRow (takes : Nat → List Char → List Char → Prop) :
    Nat → Nat → List Char → List Char → Prop
  | 0, _, taken, _ => taken = []
  | count + 1, offset, taken, rest =>
      ∃ front back, taken = front ++ back ∧ takes offset front (back ++ rest) ∧
        TakesInRow takes count (offset + front.length) back rest

/-- `regex.Takes offset taken rest`: the expression can match `taken`, which has `offset` characters
of the text before it and `rest` after it. -/
def Regex.Takes : Regex → Nat → List Char → List Char → Prop
  | .empty, _, taken, _ => taken = []
  | .set s, _, taken, _ => ∃ c, s.contains c = true ∧ taken = [c]
  | .start, offset, taken, _ => offset = 0 ∧ taken = []
  | .finish, _, taken, rest => taken = [] ∧ rest = []
  | .seq first second, offset, taken, rest =>
      ∃ front back, taken = front ++ back ∧ first.Takes offset front (back ++ rest) ∧
        second.Takes (offset + front.length) back rest
  | .alt left right, offset, taken, rest =>
      left.Takes offset taken rest ∨ right.Takes offset taken rest
  | .marked body, offset, taken, rest => body.Takes offset taken rest
  | .repeated body least most _, offset, taken, rest =>
      ∃ count, least ≤ count ∧ (∀ limit, most = some limit → count ≤ max least limit) ∧
        TakesInRow body.Takes count offset taken rest

/-- A row of `m + n` stretches is one of `m` and one of `n`. -/
theorem takesInRow_add {takes : Nat → List Char → List Char → Prop} {m n offset : Nat}
    {taken rest : List Char} :
    TakesInRow takes (m + n) offset taken rest ↔
      ∃ front back, taken = front ++ back ∧ TakesInRow takes m offset front (back ++ rest) ∧
        TakesInRow takes n (offset + front.length) back rest := by
  induction m generalizing offset taken with
  | zero =>
      rw [Nat.zero_add]
      constructor
      · intro h
        exact ⟨[], taken, rfl, rfl, h⟩
      · rintro ⟨front, back, rfl, hfront, hback⟩
        obtain rfl : front = [] := hfront
        exact hback
  | succ m ih =>
      rw [Nat.add_right_comm]
      constructor
      · rintro ⟨front, back, rfl, hfront, hback⟩
        obtain ⟨middle, last, rfl, hmiddle, hlast⟩ := ih.mp hback
        refine ⟨front ++ middle, last, by simp,
          ⟨front, middle, rfl, by simpa using hfront, hmiddle⟩, ?_⟩
        rw [List.length_append, ← Nat.add_assoc]
        exact hlast
      · rintro ⟨_, last, rfl, ⟨front, middle, rfl, hfront, hmiddle⟩, hlast⟩
        refine ⟨front, middle ++ last, by simp, by simpa using hfront,
          ih.mpr ⟨middle, last, rfl, hmiddle, ?_⟩⟩
        rw [List.length_append, ← Nat.add_assoc] at hlast
        exact hlast

/-! ## Steps of the search -/

/-- Reading `taken` leads from one place to another. -/
structure Place.Reads (place : Place) (taken : List Char) (next : Place) : Prop where
  rest_eq : place.rest = taken ++ next.rest
  offset_eq : next.offset = place.offset + taken.length

namespace Place.Reads

/-- Reading nothing leads nowhere else. -/
theorem refl (place : Place) : place.Reads [] place :=
  ⟨rfl, rfl⟩

/-- Two readings one after the other. -/
theorem trans {place middle next : Place} {front back : List Char} (h : place.Reads front middle)
    (h' : middle.Reads back next) : place.Reads (front ++ back) next := by
  refine ⟨by rw [h.rest_eq, h'.rest_eq, List.append_assoc], ?_⟩
  rw [h'.offset_eq, h.offset_eq, List.length_append, Nat.add_assoc]

/-- A place that has only read nothing is at the same offset. -/
theorem eq_nil_iff {place next : Place} {taken : List Char} (h : place.Reads taken next) :
    next.offset = place.offset ↔ taken = [] := by
  rw [h.offset_eq, ← List.length_eq_zero_iff]
  omega

end Place.Reads

/-- A step of the search finds exactly the ends of the stretches that `takes` allows. -/
structure Describes (step : Place → List Place) (takes : Nat → List Char → List Char → Prop) :
    Prop where
  sound : ∀ {place next : Place}, next ∈ step place →
    ∃ taken, place.Reads taken next ∧ takes place.offset taken next.rest
  complete : ∀ {place : Place} {taken rest : List Char}, place.rest = taken ++ rest →
    takes place.offset taken rest → ∃ next ∈ step place, place.Reads taken next ∧ next.rest = rest

namespace Describes

variable {step next : Place → List Place} {takes takes' : Nat → List Char → List Char → Prop}

/-- One step after another. -/
theorem bind (h : Describes step takes) (h' : Describes next takes') :
    Describes (fun place => (step place).flatMap next) fun offset taken rest =>
      ∃ front back, taken = front ++ back ∧ takes offset front (back ++ rest) ∧
        takes' (offset + front.length) back rest where
  sound := by
    intro place last hlast
    obtain ⟨middle, hmiddle, hlast⟩ := List.mem_flatMap.mp hlast
    obtain ⟨front, hfront, htakes⟩ := h.sound hmiddle
    obtain ⟨back, hback, htakes'⟩ := h'.sound hlast
    refine ⟨front ++ back, hfront.trans hback, front, back, rfl, ?_, ?_⟩
    · rw [← hback.rest_eq]
      exact htakes
    · rw [← hfront.offset_eq]
      exact htakes'
  complete := by
    rintro place _ rest hrest ⟨front, back, rfl, htakes, htakes'⟩
    obtain ⟨middle, hmiddle, hfront, hmiddleRest⟩ :=
      h.complete (by rw [hrest, List.append_assoc]) htakes
    rw [← hfront.offset_eq] at htakes'
    obtain ⟨last, hlast, hback, hlastRest⟩ := h'.complete hmiddleRest htakes'
    exact ⟨last, List.mem_flatMap.mpr ⟨middle, hmiddle, hlast⟩, hfront.trans hback, hlastRest⟩

/-- Exactly `count` steps take `count` stretches in a row. -/
theorem exactly (h : Describes step takes) (count : Nat) :
    Describes (exactSteps step count) (TakesInRow takes count) := by
  induction count with
  | zero =>
      constructor
      · intro place next hnext
        obtain rfl := List.mem_singleton.mp hnext
        exact ⟨[], .refl next, rfl⟩
      · rintro place _ rest hrest rfl
        exact ⟨place, List.mem_singleton.mpr rfl, .refl place, hrest⟩
  | succ count ih => exact h.bind ih

/-- Up to `limit` steps take at most `limit` stretches in a row. -/
theorem upTo (h : Describes step takes) (greedy : Bool) (limit : Nat) :
    Describes (someSteps step greedy limit) fun offset taken rest =>
      ∃ count ≤ limit, TakesInRow takes count offset taken rest := by
  induction limit with
  | zero =>
      constructor
      · intro place next hnext
        obtain rfl := List.mem_singleton.mp hnext
        exact ⟨[], .refl next, 0, Nat.le_refl 0, rfl⟩
      · rintro place taken rest hrest ⟨count, hcount, htaken⟩
        obtain rfl := Nat.le_zero.mp hcount
        obtain rfl : taken = [] := htaken
        exact ⟨place, List.mem_singleton.mpr rfl, .refl place, hrest⟩
  | succ limit ih =>
      have hmore := h.bind ih
      constructor
      · intro place next hnext
        rcases mem_prefer.mp hnext with hnext | hnext
        · obtain ⟨taken, hreads, front, back, rfl, hfront, count, hcount, hback⟩ :=
            hmore.sound hnext
          exact ⟨_, hreads, count + 1, Nat.succ_le_succ hcount, front, back, rfl, hfront, hback⟩
        · obtain rfl := List.mem_singleton.mp hnext
          exact ⟨[], .refl next, 0, Nat.zero_le _, rfl⟩
      · rintro place taken rest hrest ⟨count, hcount, htaken⟩
        cases count with
        | zero =>
            obtain rfl : taken = [] := htaken
            exact ⟨place, mem_prefer.mpr (.inr (List.mem_singleton.mpr rfl)), .refl place, hrest⟩
        | succ count =>
            obtain ⟨front, back, rfl, hfront, hback⟩ := htaken
            obtain ⟨next, hnext, hreads⟩ := hmore.complete hrest
              ⟨front, back, rfl, hfront, count, Nat.le_of_succ_le_succ hcount, hback⟩
            exact ⟨next, mem_prefer.mpr (.inl hnext), hreads⟩

/-- Every end of one or more steps is the end of a row of one or more stretches, whatever bounds the
number of steps. -/
theorem many_sound (h : Describes step takes) (greedy : Bool) {bound : List Char}
    {place last : Place} (hlast : last ∈ manySteps step greedy bound place) :
    ∃ taken, place.Reads taken last ∧ ∃ count, 1 ≤ count ∧
      TakesInRow takes count place.offset taken last.rest := by
  induction bound generalizing place with
  | nil =>
      obtain ⟨taken, hreads, htaken⟩ := h.sound hlast
      exact ⟨taken, hreads, 1, Nat.le_refl 1, taken, [], by simp, htaken, rfl⟩
  | cons _ bound ih =>
      obtain ⟨middle, hmiddle, hlast⟩ := List.mem_flatMap.mp hlast
      obtain ⟨front, hfront, htakes⟩ := h.sound hmiddle
      rcases mem_prefer.mp hlast with hlast | hlast
      · split at hlast
        · contradiction
        · obtain ⟨back, hback, count, -, hrow⟩ := ih hlast
          refine ⟨front ++ back, hfront.trans hback, count + 1, Nat.le_add_left 1 count, front,
            back, rfl, ?_, ?_⟩
          · rw [← hback.rest_eq]
            exact htakes
          · rw [← hfront.offset_eq]
            exact hrow
      · obtain rfl := List.mem_singleton.mp hlast
        exact ⟨front, hfront, 1, Nat.le_refl 1, front, [], by simp, htakes, rfl⟩

/-- Every row of one or more stretches is found if the bound is as long as the text they take. The
induction is on the number of stretches: a first stretch without characters is left out, and any
other uses up part of the bound. -/
theorem many_complete (h : Describes step takes) (greedy : Bool) {count : Nat} {bound : List Char}
    {place : Place} {taken rest : List Char} (hbound : taken.length ≤ bound.length)
    (hrest : place.rest = taken ++ rest)
    (hrow : TakesInRow takes (count + 1) place.offset taken rest) :
    ∃ last ∈ manySteps step greedy bound place, place.Reads taken last ∧ last.rest = rest := by
  induction count generalizing bound place taken with
  | zero =>
      obtain ⟨front, back, rfl, hfront, hback⟩ := hrow
      obtain rfl : back = [] := hback
      rw [List.append_nil] at hrest ⊢
      obtain ⟨last, hlast, hreads⟩ := h.complete hrest hfront
      refine ⟨last, ?_, hreads⟩
      cases bound with
      | nil => exact hlast
      | cons _ bound =>
          exact List.mem_flatMap.mpr ⟨last, hlast,
            mem_prefer.mpr (.inr (List.mem_singleton.mpr rfl))⟩
  | succ count ih =>
      obtain ⟨front, back, rfl, hfront, hback⟩ := hrow
      by_cases hempty : front = []
      · subst hempty
        exact ih hbound hrest hback
      · obtain ⟨middle, hmiddle, hreads, hmiddleRest⟩ :=
          h.complete (by rw [hrest, List.append_assoc]) hfront
        have hpos := List.length_pos_iff.mpr hempty
        cases bound with
        | nil =>
            rw [List.length_append, List.length_nil] at hbound
            omega
        | cons c bound =>
            rw [← hreads.offset_eq] at hback
            obtain ⟨last, hlast, hreads', hlastRest⟩ := @ih bound _ _
              (by simp only [List.length_append, List.length_cons] at hbound; omega) hmiddleRest
                hback
            refine ⟨last, List.mem_flatMap.mpr ⟨middle, hmiddle, mem_prefer.mpr (.inl ?_)⟩,
              hreads.trans hreads', hlastRest⟩
            rw [if_neg (mt hreads.eq_nil_iff.mp hempty)]
            exact hlast

/-- One or more steps, with what follows the place as the bound on their number, take one or more
stretches in a row. -/
theorem many (h : Describes step takes) (greedy : Bool) :
    Describes (fun place => manySteps step greedy place.rest place) fun offset taken rest =>
      ∃ count, TakesInRow takes (count + 1) offset taken rest where
  sound := by
    intro place last hlast
    obtain ⟨taken, hreads, count, hcount, hrow⟩ := h.many_sound greedy hlast
    obtain ⟨count, rfl⟩ := Nat.exists_eq_add_of_le' hcount
    exact ⟨taken, hreads, count, hrow⟩
  complete := by
    rintro place taken rest hrest ⟨count, hrow⟩
    exact h.many_complete greedy (by rw [hrest, List.length_append]; omega) hrest hrow

/-- A repetition takes a row of stretches whose number is between its bounds. -/
theorem repeated (h : Describes step takes) (least : Nat) (most : Option Nat) (greedy : Bool) :
    Describes (repeatSteps step greedy least most) fun offset taken rest =>
      ∃ count, least ≤ count ∧ (∀ limit, most = some limit → count ≤ max least limit) ∧
        TakesInRow takes count offset taken rest := by
  match most, least with
  | some most, least =>
      have hboth := (h.exactly least).bind (h.upTo greedy (most - least))
      constructor
      · intro place last hlast
        obtain ⟨taken, hreads, front, back, rfl, hfront, count, hcount, hback⟩ := hboth.sound hlast
        refine ⟨_, hreads, least + count, Nat.le_add_right least count, ?_, takesInRow_add.mpr
          ⟨front, back, rfl, hfront, hback⟩⟩
        rintro limit ⟨⟩
        omega
      · rintro place taken rest hrest ⟨count, hleast, hlimit, hrow⟩
        obtain ⟨more, rfl⟩ := Nat.exists_eq_add_of_le hleast
        obtain ⟨front, back, rfl, hfront, hback⟩ := takesInRow_add.mp hrow
        have := hlimit most rfl
        exact hboth.complete hrest ⟨front, back, rfl, hfront, more, by omega, hback⟩
  | none, 0 =>
      have hmany := h.many greedy
      constructor
      · intro place last hlast
        rcases mem_prefer.mp hlast with hlast | hlast
        · obtain ⟨taken, hreads, count, hrow⟩ := hmany.sound hlast
          exact ⟨taken, hreads, count + 1, Nat.zero_le _, by simp, hrow⟩
        · obtain rfl := List.mem_singleton.mp hlast
          exact ⟨[], .refl last, 0, Nat.le_refl 0, by simp, rfl⟩
      · rintro place taken rest hrest ⟨count, -, -, hrow⟩
        cases count with
        | zero =>
            obtain rfl : taken = [] := hrow
            exact ⟨place, mem_prefer.mpr (.inr (List.mem_singleton.mpr rfl)), .refl place, hrest⟩
        | succ count =>
            obtain ⟨last, hlast, hreads⟩ := hmany.complete hrest ⟨count, hrow⟩
            exact ⟨last, mem_prefer.mpr (.inl hlast), hreads⟩
  | none, fewer + 1 =>
      have hboth := (h.exactly fewer).bind (h.many greedy)
      constructor
      · intro place last hlast
        obtain ⟨taken, hreads, front, back, rfl, hfront, count, hback⟩ := hboth.sound hlast
        exact ⟨_, hreads, fewer + (count + 1), by omega, by simp,
          takesInRow_add.mpr ⟨front, back, rfl, hfront, hback⟩⟩
      · rintro place taken rest hrest ⟨count, hleast, -, hrow⟩
        obtain ⟨more, rfl⟩ := Nat.exists_eq_add_of_le hleast
        rw [Nat.add_right_comm, Nat.add_assoc] at hrow
        obtain ⟨front, back, rfl, hfront, hback⟩ := takesInRow_add.mp hrow
        exact hboth.complete hrest ⟨front, back, rfl, hfront, more, hback⟩

/-- Nothing leads on from where it is. -/
theorem empty : Describes Regex.empty.ends Regex.empty.Takes := by
  constructor
  · intro place next hnext
    obtain rfl := List.mem_singleton.mp hnext
    exact ⟨[], .refl next, rfl⟩
  · rintro place _ rest hrest rfl
    exact ⟨place, List.mem_singleton.mpr rfl, .refl place, hrest⟩

/-- A character of a set leads behind it. -/
theorem set (s : CharSet) : Describes (Regex.set s).ends (Regex.set s).Takes := by
  constructor
  · intro place next hnext
    unfold Regex.ends at hnext
    split at hnext
    · next c rest hrest =>
        split at hnext
        · next hc =>
            obtain rfl := List.mem_singleton.mp hnext
            exact ⟨[c], ⟨hrest, rfl⟩, c, hc, rfl⟩
        · contradiction
    · contradiction
  · rintro place _ rest hrest ⟨c, hc, rfl⟩
    refine ⟨{ place with offset := place.offset + 1, rest := rest }, ?_, ⟨hrest, rfl⟩, rfl⟩
    unfold Regex.ends
    rw [hrest]
    simp [hc]

/-- The start of a text leads nowhere, and is at its first place only. -/
theorem start : Describes Regex.start.ends Regex.start.Takes := by
  constructor
  · intro place next hnext
    unfold Regex.ends at hnext
    split at hnext
    · next hzero =>
        obtain rfl := List.mem_singleton.mp hnext
        exact ⟨[], .refl next, hzero, rfl⟩
    · contradiction
  · rintro place _ rest hrest ⟨hzero, rfl⟩
    exact ⟨place, by simp [Regex.ends, hzero], .refl place, hrest⟩

/-- The end of a text leads nowhere either, and is where nothing is left. -/
theorem finish : Describes Regex.finish.ends Regex.finish.Takes := by
  constructor
  · intro place next hnext
    unfold Regex.ends at hnext
    split at hnext
    · next hempty =>
        obtain rfl := List.mem_singleton.mp hnext
        exact ⟨[], .refl next, rfl, List.isEmpty_iff.mp hempty⟩
    · contradiction
  · rintro place _ rest hrest ⟨rfl, rfl⟩
    exact ⟨place, by simp [Regex.ends, hrest], .refl place, hrest⟩

/-- Of two alternatives either may be taken. -/
theorem alt {left right : Regex} (hleft : Describes left.ends left.Takes)
    (hright : Describes right.ends right.Takes) :
    Describes (Regex.alt left right).ends (Regex.alt left right).Takes := by
  constructor
  · intro place next hnext
    rcases List.mem_append.mp hnext with hnext | hnext
    · obtain ⟨taken, hreads, htaken⟩ := hleft.sound hnext
      exact ⟨taken, hreads, .inl htaken⟩
    · obtain ⟨taken, hreads, htaken⟩ := hright.sound hnext
      exact ⟨taken, hreads, .inr htaken⟩
  · rintro place taken rest hrest (htaken | htaken)
    · obtain ⟨next, hnext, hreads⟩ := hleft.complete hrest htaken
      exact ⟨next, List.mem_append.mpr (.inl hnext), hreads⟩
    · obtain ⟨next, hnext, hreads⟩ := hright.complete hrest htaken
      exact ⟨next, List.mem_append.mpr (.inr hnext), hreads⟩

/-- A mark does not change where a group leads to. -/
theorem marked {body : Regex} (h : Describes body.ends body.Takes) :
    Describes (Regex.marked body).ends (Regex.marked body).Takes := by
  constructor
  · intro place next hnext
    obtain ⟨last, hlast, rfl⟩ := List.mem_map.mp hnext
    obtain ⟨taken, hreads, htaken⟩ := h.sound hlast
    exact ⟨taken, ⟨hreads.rest_eq, hreads.offset_eq⟩, htaken⟩
  · intro place taken rest hrest htaken
    obtain ⟨last, hlast, hreads, hlastRest⟩ := h.complete hrest htaken
    exact ⟨_, List.mem_map.mpr ⟨last, hlast, rfl⟩, ⟨hreads.rest_eq, hreads.offset_eq⟩, hlastRest⟩

end Describes

/-! ## The search decides the relation -/

namespace Regex

/-- The ends of an expression at a place are exactly those of the stretches it takes there. -/
theorem describes : ∀ regex : Regex, Describes regex.ends regex.Takes
  | empty => .empty
  | set s => .set s
  | start => .start
  | finish => .finish
  | seq first second => (describes first).bind (describes second)
  | alt left right => (describes left).alt (describes right)
  | marked body => (describes body).marked
  | repeated body least most greedy => (describes body).repeated least most greedy

end Regex

/-! ## Marks -/

namespace Regex

/-- Whether an expression has no marked group in it. -/
def isUnmarked : Regex → Bool
  | .empty | .set _ | .start | .finish => true
  | .seq first second => first.isUnmarked && second.isUnmarked
  | .alt left right => left.isUnmarked && right.isUnmarked
  | .marked _ => false
  | .repeated body _ _ _ => body.isUnmarked

/-- An expression without marked groups leaves alone what a place remembers. -/
theorem marked_of_mem_ends : ∀ {regex : Regex}, regex.isUnmarked = true → ∀ {place next : Place},
    next ∈ regex.ends place → next.marked = place.marked
  | .empty, _, place, next, hnext => by
      obtain rfl := List.mem_singleton.mp hnext
      rfl
  | .set s, _, place, next, hnext => by
      unfold ends at hnext
      split at hnext
      · split at hnext
        · obtain rfl := List.mem_singleton.mp hnext
          rfl
        · contradiction
      · contradiction
  | .start, _, place, next, hnext => by
      unfold ends at hnext
      split at hnext
      · obtain rfl := List.mem_singleton.mp hnext
        rfl
      · contradiction
  | .finish, _, place, next, hnext => by
      unfold ends at hnext
      split at hnext
      · obtain rfl := List.mem_singleton.mp hnext
        rfl
      · contradiction
  | .seq first second, h, place, next, hnext => by
      rw [isUnmarked, Bool.and_eq_true] at h
      obtain ⟨middle, hmiddle, hnext⟩ := List.mem_flatMap.mp hnext
      rw [marked_of_mem_ends h.2 hnext, marked_of_mem_ends h.1 hmiddle]
  | .alt left right, h, place, next, hnext => by
      rw [isUnmarked, Bool.and_eq_true] at h
      rcases List.mem_append.mp hnext with hnext | hnext
      · exact marked_of_mem_ends h.1 hnext
      · exact marked_of_mem_ends h.2 hnext
  | .repeated body least most greedy, h, place, next, hnext => by
      have hkeeps : ∀ other : Place, other.marked = place.marked → ∀ last ∈ body.ends other,
          last.marked = place.marked := by
        intro other hother last hlast
        rw [@marked_of_mem_ends body h _ _ hlast, hother]
      exact keeps_of_mem_repeatSteps hkeeps rfl hnext

end Regex

end MarkdownWriter
