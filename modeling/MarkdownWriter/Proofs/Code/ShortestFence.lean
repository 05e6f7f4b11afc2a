import MarkdownWriter.Layout.Code
import MarkdownWriter.Proofs.Text.Runs
import Mathlib.Data.Finset.Card
import Mathlib.Order.Bounds.Defs
import Mathlib.Order.Interval.Finset.Nat

/-!
# The shortest fence

A code span can be fenced by any number of backticks that is not the length of a maximal run of them
in the value. The lengths that are taken are finite in number, so there is a least one that is not
(`isLeast_shortestMissingRun`), and it is at most one more than there are different lengths taken
(`shortestMissingRun_le_card`).

* **Runs** (`IsMaximalRun`): somewhere in a text there are just so many of a character in a row,
  with another character or the edge of the text on both sides. This says nothing of how they are
  counted.
* **The scan** (`mem_runs_iff`): runs are counted by a scan that carries the length of an unfinished
  run along; it meets the maximal runs and no others.
* **Both together** (`Layout.exists_isLeast_codeSpan`): on either side of a code span there are as
  many backticks as the least length that no run has.
-/

namespace MarkdownWriter

namespace Text

variable {c : Char} {n : Nat} {text : List Char}

/-! ## Maximal runs -/

/-- Somewhere in a text there are just so many of a character in a row, and at least one. -/
def IsMaximalRun (c : Char) (n : Nat) (text : List Char) : Prop :=
  0 < n ∧ ∃ front back, text = front ++ (List.replicate n c ++ back) ∧ front.getLast? ≠ some c ∧
    back.head? ≠ some c

/-- A run stays maximal behind another text, unless it begins its own one and the other one ends
with its character. -/
theorem IsMaximalRun.append (h : IsMaximalRun c n text) (front : List Char)
    (hlast : text.head? = some c → front.getLast? ≠ some c) : IsMaximalRun c n (front ++ text) := by
  obtain ⟨hn, before, back, rfl, hbefore, hback⟩ := h
  refine ⟨hn, front ++ before, back, (List.append_assoc ..).symm, ?_, hback⟩
  rcases List.eq_nil_or_concat before with rfl | ⟨before, e, rfl⟩
  · rw [List.append_nil]
    obtain ⟨m, rfl⟩ := Nat.exists_eq_succ_of_ne_zero (Nat.ne_of_gt hn)
    exact hlast rfl
  · rw [List.getLast?_append_of_ne_nil _ (by simp)]
    exact hbefore

/-- A run stops at another character. -/
theorem head?_dropWhile_ne (c : Char) (text : List Char) :
    (text.dropWhile (· == c)).head? ≠ some c := by
  have hstop := List.head?_dropWhile_not (· == c) text
  intro hhead
  rw [hhead] at hstop
  simp at hstop

/-- A text that begins with a character begins with a run of it. -/
theorem isMaximalRun_takeWhile (hhead : text.head? = some c) :
    IsMaximalRun c (text.takeWhile (· == c)).length text := by
  obtain ⟨rest, rfl⟩ := List.head?_eq_some_iff.mp hhead
  refine ⟨by simp, [], (c :: rest).dropWhile (· == c), ?_, by simp, ?_⟩
  · have hrun := List.eq_replicate_of_mem fun e (he : e ∈ (c :: rest).takeWhile (· == c)) =>
      eq_of_beq (List.all_eq_true.mp List.all_takeWhile e he)
    rw [← hrun]
    exact (List.takeWhile_append_dropWhile ..).symm
  · exact head?_dropWhile_ne c (c :: rest)

/-- A run at the front that goes no further is scanned as one. -/
theorem mem_runs_replicate_append (hn : 0 < n) (htext : text.head? ≠ some c) :
    n ∈ runs c (List.replicate n c ++ text) := by
  obtain ⟨m, rfl⟩ := Nat.exists_eq_succ_of_ne_zero (Nat.ne_of_gt hn)
  have hstop : text.takeWhile (· == c) = [] := by
    cases text with
    | nil => rfl
    | cons d text => exact List.takeWhile_cons_of_neg (by simpa using htext)
  rw [List.replicate_succ, List.cons_append, runs_eq_cons, ← List.cons_append,
    ← List.replicate_succ, List.takeWhile_append_of_pos (by simp), hstop, List.append_nil,
    List.length_replicate]
  exact List.mem_cons_self

/-- **The scan meets the maximal runs.** -/
theorem mem_runs_iff : n ∈ runs c text ↔ IsMaximalRun c n text := by
  constructor
  · intro h
    -- a run is scanned as a whole, so what is left of the text is shorter by all of it
    induction hlength : text.length using Nat.strongRecOn generalizing text with
    | ind length ih =>
        subst hlength
        cases text with
        | nil => simp [runs, runsFrom] at h
        | cons d text =>
            by_cases hd : d = c
            · subst hd
              rw [runs_eq_cons] at h
              rcases List.mem_cons.mp h with rfl | h
              · exact isMaximalRun_takeWhile rfl
              · have hshort := (List.dropWhile_suffix (· == d) (l := text)).length_le
                have hrest := ih _ (Nat.lt_succ_of_le hshort) h rfl
                have hwhole := hrest.append (d :: text.takeWhile (· == d)) fun hhead =>
                  absurd hhead (head?_dropWhile_ne d text)
                rwa [List.cons_append, List.takeWhile_append_dropWhile] at hwhole
            · rw [runs_cons_of_ne hd] at h
              have hrest := ih _ (Nat.lt_succ_self text.length) h rfl
              exact hrest.append [d] fun _ => by simpa using hd
  · rintro ⟨hn, front, back, rfl, hfront, hback⟩
    have hrun := mem_runs_replicate_append hn hback
    rcases List.eq_nil_or_concat front with rfl | ⟨front, e, rfl⟩
    · exact hrun
    · have he : e ≠ c := by simpa using hfront
      rw [List.concat_eq_append, List.append_assoc, List.singleton_append, runs_append_cons he]
      exact List.mem_append_right _ hrun

/-! ## The least missing length -/

/-- **The search finds the least missing length.** All lengths below it are those of runs. -/
theorem isLeast_shortestMissingRun (c : Char) (text : List Char) :
    IsLeast {n | 0 < n ∧ ¬ IsMaximalRun c n text} (shortestMissingRun c text) := by
  obtain ⟨hpos, hmissing⟩ := shortestMissingRun_spec c text
  refine ⟨⟨hpos, fun h => hmissing (mem_runs_iff.mpr h)⟩, ?_⟩
  rintro n ⟨hn, hfree⟩
  unfold shortestMissingRun
  dsimp only
  rw [List.find?_map]
  cases hfound :
    (List.range ((runs c text).length + 1)).find? ((!(runs c text).contains ·) ∘ (· + 1)) with
  | none => exact hn
  | some k =>
      obtain ⟨-, -, hbelow⟩ := List.find?_range_eq_some.mp hfound
      -- a smaller length would have been passed over by the search
      by_contra hlt
      rw [Option.map_some, Option.getD_some, Nat.not_le] at hlt
      have htaken := hbelow (n - 1) (by omega)
      rw [Function.comp_apply, Nat.sub_add_cancel hn, Bool.not_not, List.contains_iff_mem] at htaken
      exact hfree (mem_runs_iff.mp htaken)

/-- There are at least as many different lengths of runs as there are lengths below the least
missing one. -/
theorem shortestMissingRun_le_card {lengths : Finset Nat}
    (h : ∀ m, m ∈ lengths ↔ IsMaximalRun c m text) :
    shortestMissingRun c text ≤ lengths.card + 1 := by
  obtain ⟨-, hleast⟩ := isLeast_shortestMissingRun c text
  have hbelow : Finset.Ico 1 (shortestMissingRun c text) ⊆ lengths := by
    intro m hm
    obtain ⟨hpos, hlt⟩ := Finset.mem_Ico.mp hm
    rw [h]
    by_contra hfree
    exact absurd (hleast ⟨hpos, hfree⟩) (Nat.not_le_of_gt hlt)
  have hcard := Finset.card_le_card hbelow
  rw [Nat.card_Ico] at hcard
  omega

end Text

open Text

/-- **The fence of a code span is the shortest possible.** On either side there are as many
backticks as the least positive number that is not the length of a maximal run of backticks in the
value, and that is at most one more than there are different such lengths. -/
theorem Layout.exists_isLeast_codeSpan (rules : List Rule) (value : List Char) :
    ∃ n content,
      codeSpan rules value =
        List.replicate n '\x60' ++ content ++ List.replicate n '\x60' ∧
      n = shortestMissingRun '\x60' value ∧
      IsLeast {n | 0 < n ∧ ¬ IsMaximalRun '\x60' n value} n ∧
      ∃ lengths : Finset Nat, (∀ m, m ∈ lengths ↔ IsMaximalRun '\x60' m value) ∧
        n ≤ lengths.card + 1 := by
  refine ⟨_, _, rfl, rfl, isLeast_shortestMissingRun '\x60' value, (runs '\x60' value).toFinset, ?_⟩
  have hlengths : ∀ m, m ∈ (runs '\x60' value).toFinset ↔ IsMaximalRun '\x60' m value :=
    fun m => List.mem_toFinset.trans mem_runs_iff
  exact ⟨hlengths, shortestMissingRun_le_card hlengths⟩

/-- Runs of one and of three backticks leave two. -/
example : shortestMissingRun '\x60' "\x60a\x60\x60\x60b".toList = 2 := by decide

end MarkdownWriter
