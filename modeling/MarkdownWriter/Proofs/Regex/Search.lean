import MarkdownWriter.Proofs.Regex.Matching
import MarkdownWriter.Regex.Search

/-!
# Which matches a search reports

`Expression.findAll` goes from match to match, and a match it has passed may overlap one it never
sees. Whatever engine the expression comes from, some facts say which matches are reported:

* every reported match is the preferred one at its own offset (`matchAt_of_mem_findAll`);
* reported matches do not overlap (`pairwise_findAll`);
* some match is reported if there is any (`findAll_ne_nil`);
* for an expression that always takes at least one character, a match that is not reported begins
  strictly inside a reported one (`mem_findAll_or_inside`).

The library's own expressions are searched for by what they take: `Regex.exists_takes_of_mem_ends`
and `Regex.exists_end_of_takes` say so both ways.
-/

namespace MarkdownWriter

namespace Expression

variable {expression : Expression} {text : List Char}

/-! ## Matches at one place -/

/-- A match is one of the ends of the expression at its place. -/
theorem exists_mem_ends_of_matchAt {offset : Nat} {found : Match}
    (h : expression.matchAt text offset = some found) :
    ∃ last ∈ expression.ends text offset, found = ⟨offset, last.stop, last.marked⟩ := by
  obtain ⟨last, hlast, rfl⟩ := Option.map_eq_some_iff.mp h
  exact ⟨last, List.mem_of_head? hlast, rfl⟩

/-- Where an expression has an end it has a match. -/
theorem exists_matchAt_of_mem_ends {offset : Nat} {last : End}
    (h : last ∈ expression.ends text offset) :
    ∃ found, expression.matchAt text offset = some found := by
  unfold matchAt
  cases hends : expression.ends text offset with
  | nil =>
      rw [hends] at h
      contradiction
  | cons first others => exact ⟨_, rfl⟩

/-- A match at a place begins there. -/
theorem first_of_matchAt {offset : Nat} {found : Match}
    (h : expression.matchAt text offset = some found) :
    found.first = offset := by
  obtain ⟨last, -, rfl⟩ := exists_mem_ends_of_matchAt h
  rfl

/-- An expression that takes at least one character wherever it matches. -/
def Consumes (expression : Expression) : Prop :=
  ∀ text first, ∀ last ∈ expression.ends text first, first < last.stop

/-- The bounds of a match. -/
theorem stop_of_matchAt {offset : Nat} {found : Match} (hoffset : offset ≤ text.length)
    (h : expression.matchAt text offset = some found) :
    offset ≤ found.stop ∧ found.stop ≤ text.length := by
  obtain ⟨last, hlast, rfl⟩ := exists_mem_ends_of_matchAt h
  exact expression.bounds hoffset hlast

/-- A match of an expression that takes something is not empty. -/
theorem lt_stop_of_matchAt (hexpression : expression.Consumes) {offset : Nat} {found : Match}
    (h : expression.matchAt text offset = some found) : offset < found.stop := by
  obtain ⟨last, hlast, rfl⟩ := exists_mem_ends_of_matchAt h
  exact hexpression _ _ _ hlast

/-! ## The leftmost match -/

/-- The leftmost match is a match, and there is none before it. -/
theorem find_eq_some {offset : Nat} {found : Match} (h : expression.find text offset = some found) :
    offset ≤ found.first ∧ found.first ≤ text.length ∧
      expression.matchAt text found.first = some found ∧
      ∀ i, offset ≤ i → i < found.first → expression.matchAt text i = none := by
  unfold find at h
  obtain ⟨before, place, after, hplaces, hmatch, hnone⟩ := List.findSome?_eq_some_iff.mp h
  obtain rfl := first_of_matchAt hmatch
  obtain ⟨count, hcount, hbefore, hrest⟩ := List.range'_eq_append_iff.mp hplaces
  obtain ⟨hfirst, hlength, -⟩ := List.range'_eq_cons_iff.mp hrest.symm
  refine ⟨by omega, by omega, hmatch, fun i hi hlt => hnone i ?_⟩
  rw [hbefore, List.mem_range'_1]
  omega

/-- When no match is found there is none. -/
theorem find_eq_none {offset : Nat} (h : expression.find text offset = none) {i : Nat}
    (hi : offset ≤ i) (hlength : i ≤ text.length) : expression.matchAt text i = none := by
  refine List.findSome?_eq_none_iff.mp h i (List.mem_range'_1.mpr ?_)
  omega

/-! ## All matches -/

/-- One round of the search. -/
theorem findAllFrom_succ (expression : Expression) (text : List Char) (fuel : Nat)
    (last : Option Nat) (offset : Nat) :
    expression.findAllFrom text (fuel + 1) last offset =
      match expression.find text offset with
      | none => []
      | some found =>
          if found.first = found.stop ∧ last = some found.stop then
            expression.findAllFrom text fuel none (offset + 1)
          else found :: expression.findAllFrom text fuel (some found.stop) found.stop :=
  rfl

/-- A reported match is the preferred one at its own offset, at or behind the place where the search
began. -/
theorem matchAt_of_mem_findAllFrom {fuel : Nat} {last : Option Nat} {offset : Nat} {found : Match}
    (h : found ∈ expression.findAllFrom text fuel last offset) :
    offset ≤ found.first ∧ found.first ≤ text.length ∧
      expression.matchAt text found.first = some found := by
  induction fuel generalizing last offset with
  | zero => contradiction
  | succ fuel ih =>
      rw [findAllFrom_succ] at h
      cases hfind : expression.find text offset with
      | none =>
          rw [hfind] at h
          contradiction
      | some first =>
          obtain ⟨hle, hlength, hmatch, -⟩ := find_eq_some hfind
          rw [hfind] at h
          dsimp only at h
          split at h
          · -- an empty match at the end of the one before: the search goes on one character later
            obtain ⟨hnext, hfound⟩ := ih h
            exact ⟨by omega, hfound⟩
          · rcases List.mem_cons.mp h with rfl | h
            · exact ⟨hle, hlength, hmatch⟩
            · obtain ⟨hnext, hfound⟩ := ih h
              have := (stop_of_matchAt hlength hmatch).1
              exact ⟨by omega, hfound⟩

/-- Reported matches follow one another without overlap. -/
theorem pairwise_findAllFrom {fuel : Nat} {last : Option Nat} {offset : Nat} :
    (expression.findAllFrom text fuel last offset).Pairwise fun before after =>
      before.stop ≤ after.first := by
  induction fuel generalizing last offset with
  | zero => exact .nil
  | succ fuel ih =>
      rw [findAllFrom_succ]
      cases hfind : expression.find text offset with
      | none => exact .nil
      | some first =>
          dsimp only
          split
          · exact ih
          · exact .cons (fun after hafter => (matchAt_of_mem_findAllFrom hafter).1) ih

/-- A match of an expression that takes something is reported or begins inside a reported one. The
fuel has to last for one match a character, as every match takes one. -/
theorem mem_findAllFrom_or_inside (hexpression : expression.Consumes) {fuel : Nat}
    {last : Option Nat} {offset i : Nat} {found : Match} (hfuel : text.length - offset < fuel)
    (hi : offset ≤ i) (hlength : i ≤ text.length) (h : expression.matchAt text i = some found) :
    found ∈ expression.findAllFrom text fuel last offset ∨
      ∃ other ∈ expression.findAllFrom text fuel last offset, other.first < i ∧ i < other.stop := by
  induction fuel generalizing last offset with
  | zero => omega
  | succ fuel ih =>
      rw [findAllFrom_succ]
      cases hfind : expression.find text offset with
      | none =>
          rw [find_eq_none hfind hi hlength] at h
          contradiction
      | some first =>
          obtain ⟨hle, hfirst, hmatch, hnone⟩ := find_eq_some hfind
          have hstop := (stop_of_matchAt hfirst hmatch).2
          have hlt := lt_stop_of_matchAt hexpression hmatch
          dsimp only
          rw [if_neg (by omega)]
          rcases Nat.lt_trichotomy i first.first with hbefore | rfl | hbehind
          · rw [hnone i hi hbefore] at h
            contradiction
          · rw [hmatch] at h
            obtain rfl := Option.some.inj h
            exact .inl List.mem_cons_self
          · by_cases hinside : i < first.stop
            · exact .inr ⟨first, List.mem_cons_self, hbehind, hinside⟩
            · rcases @ih (some first.stop) first.stop (by omega) (by omega) with hmem |
                  ⟨other, hother, hin⟩
              · exact .inl (List.mem_cons_of_mem first hmem)
              · exact .inr ⟨other, List.mem_cons_of_mem first hother, hin⟩

/-- A reported match is the preferred one at its own offset. -/
theorem matchAt_of_mem_findAll {found : Match} (h : found ∈ expression.findAll text) :
    found.first ≤ text.length ∧ expression.matchAt text found.first = some found :=
  (matchAt_of_mem_findAllFrom h).2

/-- Reported matches follow one another without overlap. -/
theorem pairwise_findAll :
    (expression.findAll text).Pairwise fun before after => before.stop ≤ after.first :=
  pairwise_findAllFrom

/-- The first match of a text is always reported. -/
theorem findAll_ne_nil {i : Nat} {found : Match} (hlength : i ≤ text.length)
    (h : expression.matchAt text i = some found) : expression.findAll text ≠ [] := by
  unfold findAll
  rw [findAllFrom_succ]
  cases hfind : expression.find text 0 with
  | none =>
      rw [find_eq_none hfind (Nat.zero_le i) hlength] at h
      contradiction
  | some first => simp

/-- A match of an expression that takes something is reported or begins inside a reported one. -/
theorem mem_findAll_or_inside (hexpression : expression.Consumes) {i : Nat} {found : Match}
    (hlength : i ≤ text.length) (h : expression.matchAt text i = some found) :
    found ∈ expression.findAll text ∨ ∃ other ∈ expression.findAll text, other.first < i ∧
      i < other.stop :=
  mem_findAllFrom_or_inside hexpression (by omega) (Nat.zero_le _) hlength h

/-- Of two reported matches the one that begins first ends before the other begins. -/
theorem stop_le_first_of_mem_findAll (hexpression : expression.Consumes) {before after : Match}
    (hbefore : before ∈ expression.findAll text) (hafter : after ∈ expression.findAll text)
    (hlt : before.first < after.first) : before.stop ≤ after.first := by
  obtain ⟨i, hi, rfl⟩ := List.mem_iff_getElem.mp hbefore
  obtain ⟨j, hj, rfl⟩ := List.mem_iff_getElem.mp hafter
  have hpairs := List.pairwise_iff_getElem.mp (@pairwise_findAll expression text)
  rcases Nat.lt_trichotomy i j with hij | rfl | hji
  · exact hpairs i j hi hj hij
  · omega
  · have hoverlap := hpairs j i hj hi hji
    have := lt_stop_of_matchAt hexpression (matchAt_of_mem_findAll hafter).2
    omega

end Expression

/-! ## Expressions of the library -/

namespace Regex

variable {regex : Regex} {text : List Char} {first : Nat}

/-- An end is that of a stretch of the text that the expression takes. -/
theorem exists_takes_of_mem_ends {last : End} (h : last ∈ regex.compiled.ends text first) :
    ∃ taken post, text.drop first = taken ++ post ∧ last.stop = first + taken.length ∧
      regex.Takes first taken post := by
  obtain ⟨place, hplace, rfl⟩ := List.mem_map.mp h
  obtain ⟨taken, hreads, htakes⟩ := (describes regex).sound hplace
  exact ⟨taken, place.rest, hreads.rest_eq, hreads.offset_eq, htakes⟩

/-- Where the expression takes a stretch of the text, there is an end behind it. -/
theorem exists_end_of_takes {taken post : List Char} (hdrop : text.drop first = taken ++ post)
    (h : regex.Takes first taken post) : ∃ last ∈ regex.compiled.ends text first,
      last.stop = first + taken.length := by
  obtain ⟨place, hplace, hreads, -⟩ := @(describes regex).complete ⟨first, _, none⟩ _ _ hdrop h
  exact ⟨_, List.mem_map.mpr ⟨place, hplace, rfl⟩, hreads.offset_eq⟩

end Regex

end MarkdownWriter
