import MarkdownWriter.Proofs.Code.MarkerLines
import MarkdownWriter.Proofs.Escape.LineBreaks

/-!
# Line endings that a code span keeps

The contents of a code span are passed by all rules about the start of a line, and each pass writes
spaces for line endings. Which ones are left is told by the value alone
(`hasLineEnding_codeSpan_defaults`): a line ending stays unless the row behind it opens with a
marker (`LineRule.opensRow`), and even then if the search goes past it with the match for the row
above, which happens to every second one (`LineRule.spares`).

* **One step.** `FirstMatch.sparedIn_iff` compares the text before and after one line ending is
  replaced. What stands above the match is not touched, the line ending of the match itself goes,
  and behind the match the count of bare rows above has the same parity as for the search so far.
* **One pass.** `Passes.sparedIn_iff` carries this through a search. The rules that come later see
  the text that it leaves, but the marker is between what they look at and what has changed.
* **All passes.** `sparedIn_blankedBy` takes one rule off the list at a time.
-/

namespace MarkdownWriter

open Text Layout

/-! ## The condition -/

/-- Whether a line break is the last character of a line ending that `rest` follows. -/
def endsLineEnding (b : Char) (rest : List Char) : Bool :=
  !(b == '\r' && rest.head? == some '\n')

namespace LineRule

/-- Whether the pass of a rule leaves the line ending between what is in front of it and what
follows. -/
def spares (line : LineRule) (pre rest : List Char) : Bool :=
  !line.opensRow rest || (decide (line ∈ overlapping) && line.bareAbove pre % 2 == 1)

variable {line : LineRule}

/-- A pass leaves the line ending of a row that does not open with its marker, and every second one
in a run of bare rows. -/
theorem spares_iff {pre rest : List Char} :
    line.spares pre rest = true ↔
      (line.opensRow rest = true → line ∈ overlapping ∧ line.bareAbove pre % 2 = 1) := by
  simp only [spares, Bool.or_eq_true, Bool.not_eq_true', Bool.and_eq_true, decide_eq_true_eq,
    beq_iff_eq]
  constructor
  · rintro (hnone | hodd) hopens
    · rw [hopens] at hnone
      contradiction
    · exact hodd
  · intro h
    cases hopens : line.opensRow rest with
    | false => exact .inl rfl
    | true => exact .inr (h hopens)

end LineRule

/-- Whether the line break `b` ends a line ending that the passes of some rules leave. -/
def sparedBy (rules : List LineRule) (pre : List Char) (b : Char) (rest : List Char) : Bool :=
  endsLineEnding b rest && rules.all fun line => line.spares pre rest

/-- Whether a value keeps a line ending in a code span. -/
def keepsEnding (value : List Char) : Bool :=
  anyBreak (sparedBy lineRules) [] (paddedSpan value)

/-- A line ending that the passes of some rules leave is in `text`, where `passed` stands in front
and `behind` behind it. -/
def SparedIn (rules : List LineRule) (passed text behind : List Char) : Prop :=
  BreakIn (fun pre b rest => sparedBy rules (passed ++ pre) b rest = true) text behind

/-- What is computed, as a statement about the padded value. -/
theorem keepsEnding_iff {value : List Char} :
    keepsEnding value = true ↔ SparedIn lineRules [] (paddedSpan value) [] :=
  anyBreak_iff

section spared

variable {rules : List LineRule} {passed front back behind pre pre' rest : List Char} {b : Char}

/-- All passes have to leave the end of the line ending. -/
theorem sparedBy_iff :
    sparedBy rules pre b rest = true ↔
      endsLineEnding b rest = true ∧ ∀ line ∈ rules, line.spares pre rest = true := by
  rw [sparedBy, Bool.and_eq_true, List.all_eq_true]

/-- A line ending is in one of two parts. -/
theorem sparedIn_append :
    SparedIn rules passed (front ++ back) behind ↔
      SparedIn rules passed front (back ++ behind) ∨
        SparedIn rules (passed ++ front) back behind := by
  simp only [SparedIn, breakIn_append, List.append_assoc]

/-- What stands in front of a line ending matters to a rule by its bare rows only. -/
theorem sparedBy_congr (h : ∀ line ∈ rules, line.bareAbove pre = line.bareAbove pre') :
    sparedBy rules pre b rest = sparedBy rules pre' b rest := by
  rw [Bool.eq_iff_iff, sparedBy_iff, sparedBy_iff]
  refine and_congr_right fun _ => forall₂_congr fun line hline => ?_
  rw [LineRule.spares_iff, LineRule.spares_iff, h line hline]

/-- Every text with a line break has a line ending, and no pass at all leaves it. -/
theorem sparedIn_nil_iff {text : List Char} :
    SparedIn [] [] text [] ↔ hasLineEnding text = true := by
  unfold SparedIn hasLineEnding
  rw [List.any_eq_true]
  constructor
  · rintro ⟨pre, b, rest, rfl, hb, -⟩
    exact ⟨b, by simp, hb⟩
  · intro h
    obtain ⟨front, b, row, rfl, hb, hrow⟩ := exists_last_lineBreak h
    refine ⟨front, b, row, rfl, hb,
      sparedBy_iff.mpr ⟨?_, fun line hline => absurd hline List.not_mem_nil⟩⟩
    rw [List.append_nil]
    cases row with
    | nil => simp [endsLineEnding]
    | cons c row =>
        have hc : c ≠ '\n' := by
          rintro rfl
          exact absurd (hrow '\n' List.mem_cons_self) (by decide)
        simp [endsLineEnding, hc]

end spared

/-! ## What follows a part -/

section behind

variable {rules : List LineRule} {passed text : List Char} {c c' : Char} {rest rest' : List Char}

/-- What stands behind a row matters only by its first character. -/
theorem LineRule.opensRow_append_congr {line : LineRule} (hline : line ∈ lineRules)
    (h : line.Blocked (c :: rest)) (h' : line.Blocked (c' :: rest'))
    (hallows : line.allows (some c) = line.allows (some c')) (row : List Char) :
    line.opensRow (row ++ c :: rest) = line.opensRow (row ++ c' :: rest') := by
  rw [Bool.eq_iff_iff, opensRow_append_iff hline h, opensRow_append_iff hline h',
    begins_append_congr h h' hallows]

/-- Whether a line break ends a line ending is told by the character behind it. -/
theorem endsLineEnding_append_congr {b : Char} {row : List Char}
    (h : b = '\r' → row = [] → (c = '\n' ↔ c' = '\n')) :
    endsLineEnding b (row ++ c :: rest) = endsLineEnding b (row ++ c' :: rest') := by
  unfold endsLineEnding
  cases row with
  | cons d row => rfl
  | nil =>
      by_cases hb : b = '\r'
      · have hsame : (c == '\n') = (c' == '\n') := by
          rw [Bool.eq_iff_iff, beq_iff_eq, beq_iff_eq]
          exact h hb rfl
        simp [hsame]
      · simp [beq_eq_false_iff_ne.mpr hb]

/-- It does not matter what a part stands in front of, if no marker can reach into it and it is no
rest of a line ending that the part ends with. -/
theorem sparedIn_congr_behind (hrules : ∀ line ∈ rules, line ∈ lineRules)
    (hblocked : ∀ line ∈ rules, line.Blocked (c :: rest) ∧ line.Blocked (c' :: rest') ∧
      line.allows (some c) = line.allows (some c'))
    (hlast : text.getLast? = some '\r' → (c = '\n' ↔ c' = '\n')) :
    SparedIn rules passed text (c :: rest) ↔ SparedIn rules passed text (c' :: rest') := by
  refine breakIn_congr fun {pre b row} htext hb => ?_
  have hends : endsLineEnding b (row ++ c :: rest) = endsLineEnding b (row ++ c' :: rest') := by
    refine endsLineEnding_append_congr ?_
    rintro rfl rfl
    exact hlast (by rw [htext, List.getLast?_concat])
  rw [sparedBy_iff, sparedBy_iff, hends]
  refine and_congr_right fun _ => forall₂_congr fun line hline => ?_
  obtain ⟨h, h', hallows⟩ := hblocked line hline
  rw [LineRule.spares_iff, LineRule.spares_iff,
    LineRule.opensRow_append_congr (hrules line hline) h h' hallows]

/-- A line ending in front of another marker may as well be a space. -/
theorem sparedIn_dropFinalLineEnding (hrules : ∀ line ∈ rules, line ∈ lineRules)
    (hblocked : ∀ line ∈ rules, line.Blocked rest) {b : Char} (hb : isLineBreak b = true)
    (text : List Char) :
    SparedIn rules [] (dropFinalLineEnding (text ++ [b])) (' ' :: rest) ↔
      SparedIn rules [] text (b :: rest) := by
  have hspacing : ∀ c ∈ [' '], isSpacing c = true ∨ isDigit c = true := by simp [isSpacing]
  have hspace : ∀ line ∈ rules, line.Blocked ([' '] ++ rest) := fun line hline =>
    (hblocked line hline).append (hrules line hline) hspacing
  have hbreak : ∀ {b'}, isLineBreak b' = true → ∀ line ∈ rules, ∀ more, line.Blocked (b' :: more) ∧
      line.allows (some ' ') = line.allows (some b') := fun hb' line hline more =>
    ⟨LineRule.blocked_lineBreak (hrules line hline) hb' more,
      (LineRule.allows_lineBreak_eq (hrules line hline) hb').symm⟩
  rw [dropFinalLineEnding_concat hb]
  split
  · next hending =>
      obtain ⟨rfl, hlast⟩ := hending
      obtain ⟨front, rfl⟩ := List.getLast?_eq_some_iff.mp hlast
      have hhalf : ¬ SparedIn rules ([] ++ front) ['\r'] ('\n' :: rest) := by
        intro h
        have hends := (sparedBy_iff.mp (breakIn_singleton.mp h).2).1
        exact absurd hends (by simp [endsLineEnding])
      rw [List.dropLast_concat, sparedIn_append, or_iff_left hhalf]
      exact sparedIn_congr_behind hrules
        (fun line hline => ⟨hspace line hline, hbreak rfl line hline _⟩) fun _ => by simp
  · next hending =>
      refine sparedIn_congr_behind hrules (fun line hline =>
        ⟨hspace line hline, hbreak hb line hline _⟩) ?_
      intro hlast
      refine iff_of_false (by decide) ?_
      rintro rfl
      exact hending ⟨rfl, hlast⟩

end behind

/-! ## One step -/

/-- A line ending in `text` that the pass of a rule leaves, and those of other rules after it. The
search has passed what stands in `passed`, and the bare rows of the rule are counted from there on,
with `front` between. -/
def LineRule.SearchedIn (line : LineRule) (others : List LineRule)
    (passed front text behind : List Char) : Prop :=
  BreakIn (fun pre b rest => line.spares (front ++ pre) rest = true ∧
    sparedBy others (passed ++ (front ++ pre)) b rest = true) text behind

namespace LineRule

variable {line : LineRule} {others : List LineRule} {passed rest pre front trail post : List Char}
  {b : Char}

/-- The same of a part that is searched, where the search goes on from the first part to the second.
-/
theorem searchedIn_append {front more back behind : List Char} :
    line.SearchedIn others passed front (more ++ back) behind ↔
      line.SearchedIn others passed front more (back ++ behind) ∨
        line.SearchedIn others passed (front ++ more) back behind := by
  simp only [SearchedIn, breakIn_append, List.append_assoc]

/-- The parts of a text around a line break and a row without others. -/
theorem searchedIn_around {marked : List Char} (hfree : ∀ c ∈ marked, isLineBreak c = false) :
    line.SearchedIn others passed [] (pre ++ b :: (marked ++ (trail ++ post))) [] ↔
      line.SearchedIn others passed [] pre (b :: (marked ++ (trail ++ post))) ∨
        line.SearchedIn others passed pre [b] (marked ++ (trail ++ post)) ∨
          line.SearchedIn others passed (pre ++ b :: marked) trail post ∨
            line.SearchedIn others passed (pre ++ b :: (marked ++ trail)) post [] := by
  have hnone : ¬ line.SearchedIn others passed (pre ++ [b]) marked (trail ++ post) :=
    not_breakIn_of_free hfree
  rw [searchedIn_append, ← List.singleton_append, searchedIn_append, searchedIn_append,
    searchedIn_append]
  simp only [List.nil_append, List.append_nil, List.append_assoc, List.cons_append] at hnone ⊢
  rw [or_iff_right hnone]

/-- What the search finds no marker in is left to the other rules. -/
theorem searchedIn_iff_of_not_opensRow {text behind : List Char}
    (h : ∀ {pre row : List Char} {b : Char}, text = pre ++ b :: row → isLineBreak b = true →
      line.opensRow (row ++ behind) = false) :
    line.SearchedIn others passed [] text behind ↔ SparedIn others passed text behind := by
  refine breakIn_congr fun htext hb => and_iff_right (spares_iff.mpr fun hopens => ?_)
  rw [h htext hb] at hopens
  contradiction

namespace FirstMatch

/-- No marker is in front of the leftmost match. -/
theorem not_opensRow (h : line.FirstMatch rest pre b front trail post) {above row : List Char}
    {c : Char} (hpre : pre = above ++ c :: row) (hc : isLineBreak c = true) :
    line.opensRow (row ++ b :: (front ++ line.character :: (trail ++ post))) = false := by
  rw [← Bool.not_eq_true]
  intro hopens
  have htext : rest = above ++ c :: (row ++ b :: (front ++ line.character :: (trail ++ post))) := by
    rw [h.text_eq, hpre]
    simp
  have hle := h.leftmost htext hc hopens
  rw [hpre, List.length_append, List.length_cons] at hle
  omega

/-- The line ending of the match is not left. -/
theorem not_searchedIn (hline : line ∈ lineRules)
    (h : line.FirstMatch rest pre b front trail post) :
    ¬ line.SearchedIn others passed pre [b] (front ++ line.character :: (trail ++ post)) := by
  intro hspared
  obtain ⟨-, hspares, -⟩ := breakIn_singleton.mp hspared
  obtain ⟨hoverlap, hodd⟩ := spares_iff.mp hspares (h.opensRow hline)
  rw [List.append_nil, h.bareAbove_eq_zero hoverlap] at hodd
  contradiction

/-- Other rules see the same behind the marker of a match before and after its line ending is
replaced. -/
theorem sparedBy_behind_eq (hline : line ∈ lineRules)
    (hothers : ∀ other ∈ others, other ∈ lineRules ∧ other ≠ line)
    (above above' more : List Char) {c : Char} {back : List Char} :
    sparedBy others (above ++ line.character :: more) c back =
      sparedBy others (above' ++ line.character :: more) c back := by
  refine sparedBy_congr fun other hother => ?_
  obtain ⟨hmem, hne⟩ := hothers other hother
  rw [bareAbove_append_cons_of_ne hmem hline (Ne.symm hne),
    bareAbove_append_cons_of_ne hmem hline (Ne.symm hne)]

/-- A line ending that the match takes behind its marker is left by the rule. -/
theorem searchedIn_trail (hline : line ∈ lineRules)
    (hothers : ∀ other ∈ others, other ∈ lineRules ∧ other ≠ line)
    (h : line.FirstMatch rest pre b front trail post) (above : List Char) :
    SparedIn others (above ++ ' ' :: (front ++ [line.character])) trail post ↔
      line.SearchedIn others passed (pre ++ b :: (front ++ [line.character])) trail post := by
  refine breakIn_congr fun {more c row} htrail hc => ?_
  have hoverlap := h.mem_overlapping hline (by rw [htrail]; simp) hc
  have hmore : more = [] := by
    rcases fits_after.mp (h.trail_fits 0) with ⟨-, hnil⟩ | ⟨s, d, -, -, hone⟩ | ⟨-, -, hnil, -⟩
    · rw [hnil] at htrail
      exact absurd htrail.symm (List.append_ne_nil_of_right_ne_nil more (List.cons_ne_nil c row))
    · rw [hone] at htrail
      obtain ⟨hnil, -⟩ | ⟨-, hnil⟩ := List.append_eq_singleton_iff.mp htrail.symm
      · exact hnil
      · contradiction
    · rw [hnil] at htrail
      exact absurd htrail.symm (List.append_ne_nil_of_right_ne_nil more (List.cons_ne_nil c row))
  subst hmore
  have hspares : line.spares (pre ++ b :: (front ++ [line.character]) ++ []) (row ++ post) =
      true := by
    rw [spares_iff, List.append_nil, h.bareAbove_concat hoverlap]
    exact fun _ => ⟨hoverlap, rfl⟩
  rw [and_iff_right hspares]
  have hsame :=
    @sparedBy_behind_eq line others hline hothers (above ++ ' ' :: front)
      (passed ++ (pre ++ b :: front)) [] c
    (row ++ post)
  simp only [List.append_assoc, List.cons_append, List.append_nil] at hsame ⊢
  rw [hsame]

/-- Behind the match the rule leaves what it would leave if the search began there. -/
theorem searchedIn_post (hline : line ∈ lineRules)
    (hothers : ∀ other ∈ others, other ∈ lineRules ∧ other ≠ line)
    (h : line.FirstMatch rest pre b front trail post) (above : List Char) :
    line.SearchedIn others (above ++ ' ' :: (front ++ line.character :: trail)) [] post [] ↔
      line.SearchedIn others passed (pre ++ b :: (front ++ line.character :: trail)) post [] := by
  refine breakIn_congr fun {more c row} hpost _ => ?_
  have hne : post ≠ [] := by
    rw [hpost]
    exact List.append_ne_nil_of_right_ne_nil more (List.cons_ne_nil c row)
  have hspares : line.spares (pre ++ b :: (front ++ line.character :: trail) ++ more) (row ++ []) =
      true ↔ line.spares ([] ++ more) (row ++ []) = true := by
    rw [spares_iff, spares_iff]
    refine forall_congr' fun _ => and_congr_right fun hoverlap => ?_
    rw [List.nil_append, ← h.bareAbove_behind_mod hoverlap hne more]
    simp
  have hsame :=
    @sparedBy_behind_eq line others hline hothers (above ++ ' ' :: front)
      (passed ++ (pre ++ b :: front))
    (trail ++ more) c (row ++ [])
  rw [hspares]
  simp only [List.append_assoc, List.cons_append, List.nil_append] at hsame ⊢
  rw [hsame]

/-- **One step of the search.** The line endings that are left in what is passed, with those that
the search will leave behind it, are the same before and after a line ending is replaced. -/
theorem sparedIn_iff (hline : line ∈ lineRules)
    (hothers : ∀ other ∈ others, other ∈ lineRules ∧ other ≠ line)
    (h : line.FirstMatch rest pre b front trail post) :
    SparedIn others [] (dropFinalLineEnding (passed ++ pre ++ [b]) ++
      ' ' :: (front ++ line.character :: trail)) post ∨ line.SearchedIn others
          (dropFinalLineEnding (passed ++ pre ++ [b]) ++ ' ' :: (front ++ line.character :: trail))
          [] post [] ↔
      SparedIn others [] passed rest ∨ line.SearchedIn others passed [] rest [] := by
  have hfree : ∀ c ∈ front ++ [line.character], isLineBreak c = false :=
    h.fronts.isLineBreak_concat hline
  have hmembers : ∀ other ∈ others, other ∈ lineRules := fun other hother =>
    (hothers other hother).1
  have hblocked : ∀ other ∈ others, other.Blocked (front ++ line.character :: (trail ++ post)) :=
    fun other hother =>
    blocked_of_ne (hmembers other hother) hline (Ne.symm (hothers other hother).2) h.fronts _
  -- the new text: what was passed without the line ending, and what the match takes behind its
  -- marker
  have hnew : SparedIn others []
      (dropFinalLineEnding (passed ++ pre ++ [b]) ++ ' ' :: (front ++ line.character :: trail))
        post ↔ (SparedIn others [] passed rest ∨
          SparedIn others passed pre (b :: (front ++ line.character :: (trail ++ post)))) ∨
            line.SearchedIn others passed (pre ++ b :: (front ++ [line.character])) trail post := by
    have htext :
        dropFinalLineEnding (passed ++ pre ++ [b]) ++ ' ' :: (front ++ line.character :: trail) =
        dropFinalLineEnding (passed ++ pre ++ [b]) ++
          (' ' :: (front ++ [line.character]) ++ trail) := by simp
    have hbehind : ' ' :: (front ++ [line.character]) ++ trail ++ post =
        ' ' :: (front ++ line.character :: (trail ++ post)) := by simp
    have hspace : ¬ SparedIn others ([] ++ dropFinalLineEnding (passed ++ pre ++ [b]))
        (' ' :: (front ++ [line.character])) (trail ++ post) :=
      not_breakIn_of_free (List.forall_mem_cons.mpr ⟨rfl, hfree⟩)
    rw [htext, sparedIn_append, hbehind, sparedIn_dropFinalLineEnding hmembers hblocked h.lineBreak,
      sparedIn_append, sparedIn_append, or_iff_right hspace, List.nil_append, List.nil_append,
      ← h.text_eq, h.searchedIn_trail hline hothers]
  -- the old text: the same parts around the match
  have hold : line.SearchedIn others passed [] rest [] ↔
      SparedIn others passed pre (b :: (front ++ line.character :: (trail ++ post))) ∨
        line.SearchedIn others passed (pre ++ b :: (front ++ [line.character])) trail post ∨
        line.SearchedIn others passed (pre ++ b :: (front ++ line.character :: trail)) post
          [] := by
    have hparts := @searchedIn_around line others passed pre trail post b _ hfree
    simp only [List.append_assoc, List.singleton_append, ← h.text_eq] at hparts
    rw [hparts, or_iff_right (h.not_searchedIn hline),
      searchedIn_iff_of_not_opensRow h.not_opensRow]
  rw [hnew, hold, h.searchedIn_post hline hothers, or_assoc, or_assoc]

end FirstMatch

/-! ## One pass -/

/-- **The pass of a rule.** The line endings that are left are those in what is passed and those
that the search leaves behind it. -/
theorem Passes.sparedIn_iff (hline : line ∈ lineRules)
    (hothers : ∀ other ∈ others, other ∈ lineRules ∧ other ≠ line)
    {result : List Char} (h : line.Passes passed rest result) :
    SparedIn others [] result [] ↔ SparedIn others [] passed rest ∨
      line.SearchedIn others passed [] rest [] := by
  induction h with
  | @done passed rest hnone =>
      have hrest : line.SearchedIn others passed [] rest [] ↔ SparedIn others passed rest [] :=
        searchedIn_iff_of_not_opensRow fun hrest hb => by rw [List.append_nil, hnone hrest hb]
      rw [sparedIn_append, List.append_nil, List.nil_append, hrest]
  | next hfirst _ ih => exact ih.trans (hfirst.sparedIn_iff hline hothers)

end LineRule

/-! ## All passes -/

/-- The passes of several rules one after the other leave what all of them leave. The induction is
on the rules. -/
theorem sparedIn_blankedBy {rules : List LineRule} (hrules : ∀ line ∈ rules, line ∈ lineRules)
    (hnodup : rules.Nodup) (text : List Char) : SparedIn [] [] (blankedBy rules text) [] ↔
      SparedIn rules [] text [] := by
  induction rules generalizing text with
  | nil => rfl
  | cons line rules ih =>
      obtain ⟨hline, hmembers⟩ := List.forall_mem_cons.mp hrules
      obtain ⟨hmem, hnodup⟩ := List.nodup_cons.mp hnodup
      have hothers : ∀ other ∈ rules, other ∈ lineRules ∧ other ≠ line := fun other hother =>
        ⟨hmembers other hother, fun heq => hmem (heq ▸ hother)⟩
      have hnone : ¬ SparedIn rules [] [] text := not_breakIn_of_free (by simp)
      rw [← List.singleton_append, blankedBy_append, ih hmembers hnodup,
        (passes_blankedBy_singleton hline text).sparedIn_iff hline hothers, or_iff_right hnone]
      refine breakIn_congr fun {pre b row} _ _ => ?_
      simp only [sparedBy_iff, List.nil_append, List.singleton_append, List.forall_mem_cons]
      exact and_left_comm

/-- **The line endings of a code span** are those of the padded value that no pass replaces. -/
theorem hasLineEnding_codeSpan_defaults (value : List Char) :
    hasLineEnding (codeSpan Rule.defaults value) = keepsEnding value := by
  have hfence : hasLineEnding (List.replicate (shortestMissingRun '\x60' value) '\x60') = false :=
    hasLineEnding_eq_false_iff.mpr (isLineBreak_of_mem_replicate rfl _)
  rw [codeSpan_defaults, hasLineEnding_append, hasLineEnding_append, hfence, Bool.or_false,
    Bool.false_or, Bool.eq_iff_iff, ← sparedIn_nil_iff,
    sparedIn_blankedBy (fun _ => id) (by decide), keepsEnding_iff]

/-- Of the rows of dashes the second one keeps its line ending, and a line ending in front of plain
text stays. -/
example : keepsEnding "a\n-\n- b".toList = true ∧ keepsEnding "a\r\n- b\n1.".toList = false ∧
    keepsEnding "a\nb".toList = true := by
  decide

end MarkdownWriter
