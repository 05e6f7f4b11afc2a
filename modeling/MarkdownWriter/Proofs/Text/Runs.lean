import MarkdownWriter.Text.Character
import Mathlib.Data.List.Nodup
import Mathlib.Data.List.Perm.Subperm
import Mathlib.Tactic.Common

/-!
# Runs of one character, cut and counted

Fences are longer than the runs of their character in what they hold, and the delimiters of a code
span differ from all of them. So the runs of a text are counted, and the counting is followed where
a text is cut.

* **Cuts.** The runs of a text are those of its parts if it is cut at another character
  (`runs_append_cons`), and a text that begins with a run has the length of that run first
  (`runs_eq_cons`).
* **Maximal runs.** A run that is not maximal is a part of one that is
  (`exists_runsFrom_of_replicate`), so it is no longer than the longest one
  (`le_longestRun_of_infix`).
* **Missing lengths.** There are fewer runs than candidates for a missing length, so the search for
  one succeeds (`shortestMissingRun_spec`).
-/

namespace MarkdownWriter.Text

variable {c d : Char}

/-! ## Runs -/

theorem runsFrom_append_cons (hd : d ≠ c) (n : Nat) (front back : List Char) :
    runsFrom c n (front ++ d :: back) = runsFrom c n front ++ runs c back := by
  induction front generalizing n with
  | nil =>
      simp only [List.nil_append, runsFrom, if_neg hd]
      split
      · rfl
      · rfl
  | cons e front ih =>
      rw [List.cons_append, runsFrom, runsFrom]
      simp only [ih]
      split
      · rfl
      · split
        · rfl
        · rfl

/-- No run goes through another character. -/
theorem runs_append_cons (hd : d ≠ c) (front back : List Char) :
    runs c (front ++ d :: back) = runs c front ++ runs c back :=
  runsFrom_append_cons hd 0 front back

theorem runs_cons_of_ne (hd : d ≠ c) (text : List Char) : runs c (d :: text) = runs c text :=
  runs_append_cons hd [] text

theorem runsFrom_succ_eq (n : Nat) (text : List Char) :
    runsFrom c (n + 1) text =
      (n + 1 + (text.takeWhile (· == c)).length) :: runs c (text.dropWhile (· == c)) := by
  induction text generalizing n with
  | nil => simp [runsFrom, runs]
  | cons e text ih =>
      rw [runsFrom]
      by_cases he : e = c
      · rw [if_pos he, ih]
        simp [he]
        omega
      · have hrest : runsFrom c 0 (e :: text) = runsFrom c 0 text := runs_cons_of_ne he text
        simp [he, hrest, runs]

/-- A run at the front comes first. -/
theorem runs_eq_cons (text : List Char) :
    runs c (c :: text) = ((c :: text).takeWhile (· == c)).length :: runs c
      (text.dropWhile (· == c)) := by
  rw [runs, runsFrom, if_pos rfl, runsFrom_succ_eq]
  simp
  omega

/-! ## The longest run -/

/-- A run that is not maximal is a part of one that is. -/
theorem exists_runsFrom_of_replicate {n : Nat} (hn : 0 < n) (k : Nat) (pre post : List Char) :
    ∃ m ∈ runsFrom c k (pre ++ (List.replicate n c ++ post)), n ≤ m := by
  induction pre generalizing k with
  | nil =>
      obtain ⟨n, rfl⟩ := Nat.exists_eq_succ_of_ne_zero (Nat.ne_of_gt hn)
      rw [List.nil_append, List.replicate_succ, List.cons_append, runsFrom, if_pos rfl,
        runsFrom_succ_eq]
      refine ⟨_, List.mem_cons_self, ?_⟩
      rw [List.takeWhile_append_of_pos (by simp), List.length_append, List.length_replicate]
      omega
  | cons d pre ih =>
      rw [List.cons_append, runsFrom]
      split
      · exact ih (k + 1)
      · split
        · exact ih 0
        · obtain ⟨m, hm, hle⟩ := ih 0
          exact ⟨m, List.mem_cons_of_mem k hm, hle⟩

theorem le_longestRun_of_mem {n : Nat} {text : List Char} (h : n ∈ runs c text) :
    n ≤ longestRun c text := by
  have hfold : ∀ (lengths : List Nat) (m : Nat), m ≤ lengths.foldl max m ∧
      (n ∈ lengths → n ≤ lengths.foldl max m) := by
    intro lengths
    induction lengths with
    | nil => simp
    | cons k lengths ih =>
        intro m
        obtain ⟨hle, hmem⟩ := ih (max m k)
        simp only [List.foldl_cons, List.mem_cons]
        refine ⟨by omega, ?_⟩
        rintro (rfl | hin)
        · omega
        · exact hmem hin
  exact (hfold _ 0).2 h

/-- No run is longer than the longest one. -/
theorem le_longestRun_of_infix {n : Nat} {text : List Char} (h : List.replicate n c <:+: text) :
    n ≤ longestRun c text := by
  obtain ⟨pre, post, rfl⟩ := h
  rcases Nat.eq_zero_or_pos n with rfl | hn
  · exact Nat.zero_le _
  · obtain ⟨m, hm, hle⟩ := exists_runsFrom_of_replicate hn 0 pre post
    rw [← List.append_assoc] at hm
    exact Nat.le_trans hle (le_longestRun_of_mem hm)

/-! ## A missing length -/

/-- **The search for a missing length succeeds.** Among one candidate more than there are runs at
least one is the length of none. -/
theorem shortestMissingRun_spec (c : Char) (text : List Char) :
    0 < shortestMissingRun c text ∧ shortestMissingRun c text ∉ runs c text := by
  unfold shortestMissingRun
  dsimp only
  generalize hcandidates : (List.range ((runs c text).length + 1)).map (· + 1) = candidates
  have hpos : ∀ n ∈ candidates, 0 < n := by
    intro n hn
    rw [← hcandidates] at hn
    obtain ⟨m, -, rfl⟩ := List.mem_map.mp hn
    exact Nat.succ_pos m
  cases hfound : candidates.find? (!(runs c text).contains ·) with
  | some n =>
      refine ⟨hpos n (List.mem_of_find?_eq_some hfound), ?_⟩
      simpa using List.find?_some hfound
  | none =>
      -- otherwise the candidates, which are all different, would fit into the fewer runs
      exfalso
      have hsubset : candidates ⊆ runs c text := by
        intro n hn
        simpa using List.find?_eq_none.mp hfound n hn
      have hnodup : candidates.Nodup := by
        rw [← hcandidates]
        exact List.Nodup.map (fun m n heq => Nat.succ.inj heq) List.nodup_range
      have hlength := (List.subperm_of_subset hnodup hsubset).length_le
      rw [← hcandidates, List.length_map, List.length_range] at hlength
      omega

end MarkdownWriter.Text
