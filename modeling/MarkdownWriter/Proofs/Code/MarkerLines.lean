import MarkdownWriter.Proofs.Code.Blanking
import MarkdownWriter.Proofs.Text.Runs

/-!
# Markers at the start of a line in code spans

The passes over the contents of a code span are meant to leave no line that could start a block.
Exactly these are left (`exists_matchesAt_codeSpan_iff`):

* **Every second one** of the lines that hold nothing but a marker, and the line behind them: the
  search goes past the line ending in front of a marker with the match for the line above
  (`LineRule.FirstMatch.faultAt_iff`).
* **Behind a blank line**: the line ending that is replaced is the one below the blank line, and
  then the one above it stands in front of the marker (`LineRule.FirstMatch.cutIn_iff`).
* **The closing fence**, if the contents end with a blank line.

A pass of one rule changes nothing for the others (`LineRule.Blanks.cutIn_iff`), and its own faults
are counted along the search (`LineRule.Passes.cutIn_iff`).
-/

namespace MarkdownWriter

open Text Layout

namespace LineRule

variable {line other : LineRule}

/-- A line ending is left in front of the marker that a cut has found behind `pre` and the line
break `b`, where the search for the rule has passed what stands in front of `pre`. Either it goes
past `b` with the match for the row above, or the line above is blank, and when `b` is replaced the
line ending of the line before comes to stand there. -/
def FaultAt (line : LineRule) (passed pre : List Char) (b : Char) : Prop :=
  (line ∈ overlapping ∧ line.bareAbove pre % 2 = 1) ∨ blankAbove (passed ++ pre) b = true

/-- A rule about the start of a line is told by its character. -/
theorem character_injective :
    ∀ line ∈ lineRules, ∀ other ∈ lineRules, line.character = other.character → line = other := by
  decide

/-! ## The passes of other rules -/

/-- The marker of one rule is in the way of that of another. -/
theorem blocked_of_ne (hline : line ∈ lineRules) (hother : other ∈ lineRules) (hne : other ≠ line)
    {front : List Char} (hfronts : other.Fronts front) (back : List Char) :
    line.Blocked (front ++ other.character :: back) := by
  obtain ⟨-, hspacing, hdigit, -⟩ := character_of_mem_lineRules other hother
  exact (blocked_cons hspacing hdigit (fun heq =>
    hne (character_injective other hother line hline heq)) back).append
    hline fun c hc => hfronts.of_mem hc

/-- There is no line break up to a marker. -/
theorem Fronts.isLineBreak_concat (hline : line ∈ lineRules) {front : List Char}
    (hfronts : line.Fronts front) : ∀ c ∈ front ++ [line.character], isLineBreak c = false := by
  intro c hc
  rcases List.mem_append.mp hc with hc | hc
  · exact hfronts.isLineBreak_eq_false c hc
  · rw [List.mem_singleton.mp hc]
    exact (character_of_mem_lineRules line hline).1

/-- **Rules do not get in each other's way.** The cuts for one rule are the same after a line ending
is replaced for another one, as far as they are told apart by what is behind the marker of that
other rule. -/
theorem Blanks.cutIn_iff (hline : line ∈ lineRules) (hother : other ∈ lineRules)
    (hne : other ≠ line) {P : List Char → Char → Prop}
    (hP : ∀ front back {b}, isLineBreak b = true →
      (P (front ++ other.character :: back) b ↔ P (other.character :: back) b))
    {text text' : List Char} (h : other.Blanks text text') : line.CutIn P text' [] ↔
      line.CutIn P text [] := by
  obtain ⟨above, ending, front, back, -, hfronts⟩ := h
  have hmarked := blocked_of_ne hline hother hne hfronts back
  have hfree := hfronts.isLineBreak_concat hother
  -- the cuts behind the marker do not depend on what is in front of it
  have hbehind : ∀ more, line.CutIn (fun pre => P (more ++ pre)) (front ++ other.character :: back)
      [] ↔ line.CutIn (fun pre => P (other.character :: pre)) back [] := by
    intro more
    rw [List.append_cons, cutIn_append_of_free hfree]
    refine cutIn_congr fun pre b hb _ => ?_
    rw [← List.append_assoc, ← List.append_assoc, List.append_assoc _ _ pre]
    exact hP (more ++ front) pre hb
  -- the cuts above it do not depend on how the line ends
  have hspace : line.Blocked ([' '] ++ (front ++ other.character :: back)) :=
    hmarked.append hline (by simp [isSpacing])
  have habove : ∀ blank : List Char, line.Blocked (blank ++ (front ++ other.character :: back)) →
      line.allows (blank ++ (front ++ other.character :: back)).head? = line.allows (some ' ') →
      (∀ Q, ¬ line.CutIn Q blank (front ++ other.character :: back)) →
      (line.CutIn P (above ++ (blank ++ (front ++ other.character :: back))) [] ↔
        line.CutIn P above ([' '] ++ (front ++ other.character :: back)) ∨
          line.CutIn (fun pre => P (other.character :: pre)) back []) := by
    intro blank hblocked hallows hnone
    rw [← List.append_assoc, cutIn_append, cutIn_append, List.append_nil, hbehind,
      cutIn_congr_behind (begins_append_congr hblocked hspace hallows), or_iff_left (hnone _)]
  obtain ⟨hblocked, hallows⟩ := blocked_lineEnding hline ending (front ++ other.character :: back)
  rw [habove _ hblocked hallows fun Q h => hmarked.not_begins (begins_of_cutIn_lineEnding hline h)]
  exact habove [' '] hspace rfl fun Q => not_cutIn_of_free (by simp [isLineBreak])

/-- No row with the marker of another rule in it is bare, so the bare rows above are counted behind
that. -/
theorem bareAbove_append_cons_of_ne (hline : line ∈ lineRules) (hother : other ∈ lineRules)
    (hne : other ≠ line) (front back : List Char) :
    line.bareAbove (front ++ other.character :: back) = line.bareAbove back := by
  obtain ⟨hbreak, hspacing, hdigit, -⟩ := character_of_mem_lineRules other hother
  -- no row with the other marker in it is bare
  have hrow : ∀ {row : List Char}, other.character ∈ row → line.isBare row = false := by
    intro row hmem
    rw [Bool.eq_false_iff, ne_eq, isBare_iff hline]
    rintro ⟨front, rfl, hfronts⟩
    rcases List.mem_append.mp hmem with hmem | hmem
    · exact hfronts.not_mem hspacing hdigit hmem
    · exact hne (character_injective other hother line hline (List.mem_singleton.mp hmem))
  rw [List.append_cons]
  refine bareAbove_append_of_not_isBare (fun {pre row c} habove hc _ more => hrow ?_) back
  rcases List.eq_nil_or_concat row with rfl | ⟨row, d, rfl⟩
  · obtain ⟨-, heq⟩ := List.append_inj' habove rfl
    rw [(List.cons.inj heq).1, hc] at hbreak
    contradiction
  · rw [List.concat_eq_append, ← List.cons_append, ← List.append_assoc] at habove
    obtain ⟨-, heq⟩ := List.append_inj' habove rfl
    rw [(List.cons.inj heq).1]
    simp

/-- The faults of one rule are told apart by what is behind the marker of another. -/
theorem faultAt_append_cons (hline : line ∈ lineRules) (hother : other ∈ lineRules)
    (hne : other ≠ line) (front back : List Char) {b : Char} (hb : isLineBreak b = true) :
    line.FaultAt [] (front ++ other.character :: back) b ↔ line.FaultAt []
      (other.character :: back) b := by
  obtain ⟨hbreak, hspacing, -⟩ := character_of_mem_lineRules other hother
  have hbare := bareAbove_append_cons_of_ne hline hother hne
  have hblank := blankAbove_append_cons hbreak hspacing hb
  unfold FaultAt
  rw [List.nil_append, List.nil_append, hbare, hblank, ← List.nil_append (other.character :: back),
    hbare, hblank]

/-- A blank line at the end stays one. -/
theorem Blanks.endsWithBlankLine_eq (hother : other ∈ lineRules) {text text' : List Char}
    (h : other.Blanks text text') : endsWithBlankLine text' = endsWithBlankLine text := by
  obtain ⟨hbreak, hspacing, -⟩ := character_of_mem_lineRules other hother
  obtain ⟨above, ending, front, back, -, -⟩ := h
  rw [← List.cons_append, ← List.append_assoc, endsWithBlankLine_append_cons hbreak hspacing,
    ← List.append_assoc, ← List.append_assoc, endsWithBlankLine_append_cons hbreak hspacing]

/-! ## The pass of a rule -/

namespace FirstMatch

variable {passed rest pre front trail post : List Char} {b : Char}

/-- No cut is in front of the leftmost match. -/
theorem not_cutIn_pre (hline : line ∈ lineRules) (h : line.FirstMatch rest pre b front trail post)
    {P : List Char → Char → Prop} :
    ¬ line.CutIn P pre (b :: (front ++ line.character :: (trail ++ post))) := by
  rintro ⟨above, c, row, rfl, hc, ⟨front', back', hrow, hfronts, hallows⟩, -⟩
  have hcut : line.Cut rest above c front' back' := by
    refine ⟨?_, hc, hfronts, hallows⟩
    rw [h.text_eq, ← hrow]
    simp
  have hle := h.length_le hline hcut
  rw [List.length_append, List.length_cons] at hle
  omega

/-- No bare row is above the leftmost match. -/
theorem bareAbove_eq_zero (hoverlap : line ∈ overlapping)
    (h : line.FirstMatch rest pre b front trail post) :
    line.bareAbove pre = 0 := by
  by_cases hbreak : ∃ c ∈ pre, isLineBreak c = true
  · obtain ⟨above, c, row, rfl, hc, hrow⟩ := exists_last_lineBreak hbreak
    rw [bareAbove_append hc hrow, if_neg]
    intro hbare
    have htext := h.text_eq
    rw [List.append_assoc, List.cons_append] at htext
    obtain ⟨front', -, hcut⟩ := exists_cut_of_isBare hoverlap htext hbare hc h.lineBreak
    have hle := h.length_le (mem_lineRules_of_mem_overlapping line hoverlap) hcut
    rw [List.length_append, List.length_cons] at hle
    omega
  · unfold bareAbove
    rw [rows_eq_singleton (by simpa using hbreak)]
    rfl

/-- The row of a match is bare if it ends there. -/
theorem bareAbove_concat (hoverlap : line ∈ overlapping)
    (h : line.FirstMatch rest pre b front trail post) :
    line.bareAbove (pre ++ b :: (front ++ [line.character])) = 1 := by
  have hline := mem_lineRules_of_mem_overlapping line hoverlap
  rw [bareAbove_append h.lineBreak (h.fronts.isLineBreak_concat hline),
    if_pos ((isBare_iff hline).mpr ⟨front, rfl, h.fronts⟩), h.bareAbove_eq_zero hoverlap]

/-- What a match takes behind its marker is one character, if there is more of the text. -/
theorem exists_trail_eq (hoverlap : line ∈ overlapping)
    (h : line.FirstMatch rest pre b front trail post) (hpost : post ≠ []) : ∃ c, trail = [c] := by
  have hfollows : ∀ line ∈ overlapping, line.follows ≠ none := by decide
  rcases fits_after.mp (h.trail_fits 0) with ⟨hnone, -⟩ | ⟨s, c, -, -, rfl⟩ | ⟨-, -, -, hnil⟩
  · exact absurd hnone (hfollows line hoverlap)
  · exact ⟨c, rfl⟩
  · exact absurd hnil hpost

/-- A line break that is taken behind a marker is one that the next match may begin with. -/
theorem mem_overlapping (hline : line ∈ lineRules) (h : line.FirstMatch rest pre b front trail post)
    {c : Char} (hc : c ∈ trail) (hbreak : isLineBreak c = true) : line ∈ overlapping := by
  have hall : ∀ line ∈ lineRules, ∀ s ∈ line.follows, s.contains '\n' = true ∨
      s.contains '\r' = true → line ∈ overlapping := by
    decide
  rcases fits_after.mp (h.trail_fits 0) with ⟨-, rfl⟩ | ⟨s, d, hfollows, hd, rfl⟩ | ⟨-, -, rfl, -⟩
  · contradiction
  · rw [List.mem_singleton.mp hc] at hbreak
    rcases isLineBreak_iff.mp hbreak with rfl | rfl
    · exact hall line hline s hfollows (.inl hd)
    · exact hall line hline s hfollows (.inr hd)
  · contradiction

/-- **The line ending behind a bare row is missed.** Every cut at what a match takes behind its
marker is a fault. -/
theorem cutIn_trail (passed : List Char) (hline : line ∈ lineRules)
    (h : line.FirstMatch rest pre b front trail post) :
    line.CutIn (fun _ _ => True) trail post ↔
      line.CutIn (fun more => line.FaultAt passed (pre ++ b :: (front ++ line.character :: more)))
        trail post := by
  rcases fits_after.mp (h.trail_fits 0) with ⟨-, rfl⟩ | ⟨s, c, -, -, rfl⟩ | ⟨-, -, rfl, -⟩
  · exact iff_of_false (not_cutIn_of_free (by simp)) (not_cutIn_of_free (by simp))
  · rw [cutIn_singleton, cutIn_singleton]
    refine and_congr_right fun hc => and_congr_right fun _ => (iff_of_true trivial (.inl ?_))
    have hoverlap := h.mem_overlapping hline List.mem_cons_self hc
    exact ⟨hoverlap, by rw [h.bareAbove_concat hoverlap]⟩
  · exact iff_of_false (not_cutIn_of_free (by simp)) (not_cutIn_of_free (by simp))

/-- A row that goes on behind its marker is not bare. -/
theorem bareAbove_append_of_goesOn (hline : line ∈ lineRules)
    (h : line.FirstMatch rest pre b front trail post) {d : Char} (hd : isLineBreak d = false)
    (more : List Char) :
    line.bareAbove (pre ++ b :: (front ++ [line.character, d]) ++ more) = line.bareAbove more := by
  obtain ⟨-, hspacing, hdigit, -⟩ := character_of_mem_lineRules line hline
  refine bareAbove_append_of_not_isBare (fun {pre' row b'} habove hb' hrow back => ?_) more
  have hlast : ∀ e ∈ front ++ [line.character, d], isLineBreak e = false := by
    rw [List.append_cons, List.forall_mem_append, List.forall_mem_singleton]
    exact ⟨h.fronts.isLineBreak_concat hline, hd⟩
  obtain ⟨-, -, rfl⟩ := eq_of_append_lineBreak h.lineBreak hb' hlast hrow habove
  rw [Bool.eq_false_iff, ne_eq, isBare_iff hline]
  rintro ⟨front', heq, hfronts'⟩
  have hcons : front ++ line.character :: (d :: back) = front' ++ line.character :: [] := by
    rw [← heq]
    simp
  obtain rfl :=
    eq_of_append_cons_eq (h.fronts.not_mem hspacing hdigit) (hfronts'.not_mem hspacing hdigit) hcons
  exact absurd (List.cons.inj (List.append_cancel_left hcons)).2 (List.cons_ne_nil d back)

/-- Behind the match the number of bare rows above is even to the rest of the search if it is to the
search so far. -/
theorem bareAbove_behind_mod (hoverlap : line ∈ overlapping)
    (h : line.FirstMatch rest pre b front trail post) (hpost : post ≠ []) (more : List Char) :
    line.bareAbove (pre ++ b :: (front ++ line.character :: (trail ++ more))) % 2 =
      line.bareAbove more % 2 := by
  obtain ⟨d, rfl⟩ := h.exists_trail_eq hoverlap hpost
  cases hd : isLineBreak d with
  | true =>
      have hone := bareAbove_append_cons_mod (h.bareAbove_concat hoverlap) hd more
      rw [List.append_assoc, List.cons_append, List.append_assoc, List.singleton_append] at hone
      rw [List.singleton_append, hone]
  | false =>
      rw [← h.bareAbove_append_of_goesOn (mem_lineRules_of_mem_overlapping line hoverlap) hd more]
      simp

/-- Behind the match a cut is a fault to the rest of the search if it is one to the search so far.
-/
theorem faultAt_iff (passed : List Char) (hline : line ∈ lineRules)
    (h : line.FirstMatch rest pre b front trail post) (hpost : post ≠ []) (more : List Char)
    {c : Char} (hc : isLineBreak c = true) :
    line.FaultAt (dropFinalLineEnding (passed ++ pre ++ [b]) ++
      ' ' :: (front ++ line.character :: trail)) more c ↔
      line.FaultAt passed (pre ++ b :: (front ++ line.character :: (trail ++ more))) c := by
  obtain ⟨hbreak, hspacing, -⟩ := character_of_mem_lineRules line hline
  have hblank := blankAbove_append_cons hbreak hspacing hc
  refine or_congr (and_congr_right fun hoverlap => ?_) ?_
  · rw [h.bareAbove_behind_mod hoverlap hpost]
  · rw [show dropFinalLineEnding (passed ++ pre ++ [b]) ++
      ' ' :: (front ++ line.character :: trail) ++ more =
        dropFinalLineEnding (passed ++ pre ++ [b]) ++ ' ' :: front ++ line.character ::
          (trail ++ more) by simp,
      show passed ++ (pre ++ b :: (front ++ line.character :: (trail ++ more))) =
        passed ++ pre ++ b :: front ++ line.character :: (trail ++ more) by simp, hblank, hblank]

/-- In the new text the line above the match joins its row if it is blank. -/
theorem cutIn_passed_iff (passed : List Char) (hline : line ∈ lineRules)
    (h : line.FirstMatch rest pre b front trail post) :
    line.CutIn (fun _ _ => True)
        (dropFinalLineEnding (passed ++ pre ++ [b]) ++ ' ' :: (front ++ line.character :: trail))
          post ↔
      (line.CutIn (fun _ _ => True) passed rest ∨
        blankAbove (passed ++ pre) b = true ∧
        line.Begins (front ++ line.character :: (trail ++ post))) ∨
          line.CutIn (fun _ _ => True) trail post := by
  have hspace : ∀ c ∈ ' ' :: (front ++ [line.character]), isLineBreak c = false :=
    List.forall_mem_cons.mpr ⟨rfl, h.fronts.isLineBreak_concat hline⟩
  have htext :
      dropFinalLineEnding (passed ++ pre ++ [b]) ++ ' ' :: (front ++ line.character :: trail) =
      dropFinalLineEnding (passed ++ pre ++ [b]) ++
        (' ' :: (front ++ [line.character]) ++ trail) := by simp
  have hbehind : ' ' :: (front ++ [line.character]) ++ trail ++ post =
      ' ' :: (front ++ line.character :: (trail ++ post)) := by simp
  rw [htext, cutIn_append, cutIn_append_of_free hspace, hbehind, cutIn_space_iff hline h.lineBreak,
    ← cutIn_dropFinalLineEnding hline h.lineBreak, cutIn_append,
    or_iff_left (h.not_cutIn_pre hline), ← h.text_eq]
  rfl

/-- In the old text the first cut is the match itself. -/
theorem cutIn_rest_iff (passed : List Char) (hline : line ∈ lineRules)
    (h : line.FirstMatch rest pre b front trail post) :
    line.CutIn (line.FaultAt passed) rest [] ↔
      (line.Begins (front ++ line.character :: (trail ++ post)) ∧ line.FaultAt passed pre b) ∨
        line.CutIn (fun more => line.FaultAt passed (pre ++ b :: (front ++ line.character :: more)))
          trail post ∨
        line.CutIn
          (fun more =>
            line.FaultAt passed (pre ++ b :: (front ++ line.character :: (trail ++ more))))
          post [] := by
  have htext : rest = pre ++ b :: (front ++ [line.character] ++ (trail ++ post)) := by
    rw [h.text_eq]
    simp
  have hbehind : b :: (front ++ [line.character] ++ (trail ++ post)) =
      b :: (front ++ line.character :: (trail ++ post)) := by simp
  rw [htext, cutIn_append, List.append_nil, hbehind, or_iff_right (h.not_cutIn_pre hline),
    ← hbehind, cutIn_cons, cutIn_append_of_free (h.fronts.isLineBreak_concat hline), cutIn_append,
    and_iff_right h.lineBreak]
  simp only [List.append_assoc, List.singleton_append, List.append_nil]

/-- **One step of the search.** The cuts in what is passed, with the faults in what is left, are the
same before and after a line ending is replaced. -/
theorem cutIn_iff (hline : line ∈ lineRules) (h : line.FirstMatch rest pre b front trail post) :
    line.CutIn (fun _ _ => True)
          (dropFinalLineEnding (passed ++ pre ++ [b]) ++ ' ' :: (front ++ line.character :: trail))
            post ∨
        line.CutIn (line.FaultAt
          (dropFinalLineEnding (passed ++ pre ++ [b]) ++ ' ' :: (front ++ line.character :: trail)))
            post [] ↔
      line.CutIn (fun _ _ => True) passed rest ∨ line.CutIn (line.FaultAt passed) rest [] := by
  have hfirst : line.FaultAt passed pre b ↔ blankAbove (passed ++ pre) b = true := by
    refine or_iff_right fun hodd => ?_
    have hzero := h.bareAbove_eq_zero hodd.1
    omega
  have hpost := @cutIn_congr line _ _ post [] fun more c hc hcut =>
    h.faultAt_iff passed hline (by rintro rfl; exact not_cutIn_of_free (by simp) hcut) more hc
  rw [h.cutIn_passed_iff passed hline, h.cutIn_rest_iff passed hline, hfirst,
    h.cutIn_trail passed hline, hpost]
  simp only [and_comm, or_assoc]

end FirstMatch

/-- **The pass of a rule.** The cuts it leaves are those in what is passed and the faults in what is
left. -/
theorem Passes.cutIn_iff (hline : line ∈ lineRules) {passed rest result : List Char}
    (h : line.Passes passed rest result) :
    line.CutIn (fun _ _ => True) result [] ↔
      line.CutIn (fun _ _ => True) passed rest ∨ line.CutIn (line.FaultAt passed) rest [] := by
  induction h with
  | @done passed rest hnone =>
      have hrest : ∀ P, ¬ line.CutIn P rest [] := by
        intro P hcut
        obtain ⟨pre, b, front, back, hcut, -⟩ := cutIn_nil_iff.mp hcut
        exact Bool.false_ne_true ((hnone hcut.text_eq hcut.lineBreak).symm.trans
          (hcut.opensRow hline))
      rw [cutIn_append, List.append_nil, or_iff_left (hrest _), or_iff_left (hrest _)]
  | next hfirst _ ih => exact ih.trans (hfirst.cutIn_iff hline)

/-! ## The code span -/

/-- A closing fence starts a line if the contents end with a blank one. -/
theorem cutIn_fence_of_backtick (hline : line ∈ lineRules) (hfence : line.character = '\x60')
    (content fence : List Char) :
    line.CutIn (fun _ _ => True) content ('\x60' :: fence) ↔
      endsWithBlankLine content = true ∨ line.CutIn (fun _ _ => True) content [] := by
  have hall : ∀ line ∈ lineRules, line.character = '\x60' → line.numbered = false ∧
      line.follows = none := by decide
  obtain ⟨hnumbered, hfollows⟩ := hall line hline hfence
  have hany : ∀ next, line.allows next = true := by simp [LineRule.allows, hfollows]
  rw [endsWithBlankLine_iff]
  constructor
  · rintro ⟨pre, b, row, rfl, hb, ⟨front, back, heq, hfronts, -⟩, -⟩
    have hspacing : ∀ c ∈ front, isSpacing c = true := by
      obtain ⟨spacing, digits, rfl, hspacing, -, hdigits⟩ := hfronts
      obtain rfl : digits = [] := by simpa [hnumbered] using hdigits
      rwa [List.append_nil]
    rcases List.append_eq_append_iff.mp heq with ⟨more, rfl, -⟩ | ⟨more, rfl, hmore⟩
    · exact .inl ⟨pre, b, row, rfl, hb, fun c hc => hspacing c (List.mem_append_left more hc)⟩
    · cases more with
      | nil => exact .inl ⟨pre, b, front ++ [], rfl, hb, by rwa [List.append_nil]⟩
      | cons c more =>
          obtain ⟨rfl, -⟩ := List.cons.inj hmore
          exact .inr ⟨pre, b, _, rfl, hb, ⟨front, more, List.append_nil _, hfronts, hany _⟩,
            trivial⟩
  · rintro (⟨pre, b, row, rfl, hb, hrow⟩ |
      ⟨pre, b, row, rfl, hb, ⟨front, back, heq, hfronts, -⟩, -⟩)
    · refine ⟨pre, b, row, rfl, hb,
        ⟨row, fence, by rw [hfence], ⟨row, [], ?_, hrow, ?_, ?_⟩, hany _⟩, trivial⟩
      · exact (List.append_nil row).symm
      · exact fun c hc => absurd hc List.not_mem_nil
      · simp [hnumbered]
    · obtain rfl : row = front ++ line.character :: back := by rwa [List.append_nil] at heq
      exact ⟨pre, b, _, rfl, hb, ⟨front, back ++ '\x60' :: fence, by simp, hfronts, hany _⟩,
        trivial⟩

/-- To other rules a closing fence is the end. -/
theorem cutIn_fence (hline : line ∈ lineRules) (content fence : List Char) :
    line.CutIn (fun _ _ => True) content ('\x60' :: fence) ↔
      (line.character = '\x60' ∧ endsWithBlankLine content = true) ∨
        line.CutIn (fun _ _ => True) content [] := by
  by_cases hfence : line.character = '\x60'
  · rw [cutIn_fence_of_backtick hline hfence, and_iff_right hfence]
  · have hall : ∀ line ∈ lineRules, line.allows (some '\x60') = line.allows none := by decide
    rw [or_iff_right fun h => hfence h.1]
    exact cutIn_congr_behind
      (begins_append_congr (blocked_cons rfl rfl (fun heq => hfence heq.symm) fence) blocked_nil
        (hall line hline))

/-- The passes of other rules change nothing. -/
theorem cutIn_blankedBy {rules : List LineRule} (hline : line ∈ lineRules)
    (hrules : ∀ other ∈ rules, other ∈ lineRules) (hmem : line ∉ rules)
    {P : List Char → Char → Prop}
    (hP : ∀ other ∈ rules, ∀ front back {b}, isLineBreak b = true →
      (P (front ++ other.character :: back) b ↔ P (other.character :: back) b))
    (text : List Char) : line.CutIn P (blankedBy rules text) [] ↔ line.CutIn P text [] := by
  refine invariant_blankedBy (P := fun text' => line.CutIn P text' [] ↔ line.CutIn P text []) hrules
    ?_ Iff.rfl
  intro other hother text text' hblanks hsame
  have hne : other ≠ line := by
    rintro rfl
    exact hmem hother
  exact (hblanks.cutIn_iff hline (hrules other hother) hne (hP other hother)).trans hsame

/-- The cuts of the contents of a code span after all passes are the faults of the rule's own pass.
-/
theorem cutIn_blankedBy_lineRules (hline : line ∈ lineRules) (text : List Char) :
    line.CutIn (fun _ _ => True) (blankedBy lineRules text) [] ↔
      line.CutIn (line.FaultAt []) text [] := by
  obtain ⟨before, after, hrules⟩ := List.append_of_mem hline
  have hnodup : (before ++ line :: after).Nodup := by
    rw [← hrules]
    decide
  have hmem : ∀ {other}, other ∈ before ++ line :: after → other ∈ lineRules := by
    rw [hrules]
    exact id
  obtain ⟨hbefore, hafter⟩ : line ∉ before ∧ line ∉ after := by
    rw [List.nodup_middle, List.nodup_cons, List.mem_append, not_or] at hnodup
    exact hnodup.1
  have hpass := passes_blankedBy_singleton hline (blankedBy before text)
  rw [hrules, List.append_cons, blankedBy_append, blankedBy_append,
    cutIn_blankedBy hline (fun other h => hmem (by simp [h])) hafter fun other h front back b hb =>
      Iff.rfl, hpass.cutIn_iff hline, or_iff_right (not_cutIn_of_free (by simp))]
  refine cutIn_blankedBy hline (fun other h => hmem (by simp [h])) hbefore
    (fun other h front back b hb => ?_) text
  exact faultAt_append_cons hline (hmem (by simp [h])) (by rintro rfl; exact hbefore h) front back
    hb

/-- A blank line at the end of the contents stays there. -/
theorem endsWithBlankLine_blankedBy (text : List Char) :
    endsWithBlankLine (blankedBy lineRules text) = endsWithBlankLine text :=
  invariant_blankedBy (P := fun text' => endsWithBlankLine text' = endsWithBlankLine text)
    (fun _ => id)
    (fun _ hline _ _ hblanks heq => (hblanks.endsWithBlankLine_eq hline).trans heq) rfl

/-- The cuts of a code span. -/
theorem cutIn_codeSpan_iff (hline : line ∈ lineRules) (value : List Char) :
    line.CutIn (fun _ _ => True) (codeSpan Rule.defaults value) [] ↔
      (line.character = '\x60' ∧ endsWithBlankLine (paddedSpan value) = true) ∨
        line.CutIn (line.FaultAt []) (paddedSpan value) [] := by
  obtain ⟨n, hn⟩ :=
    Nat.exists_eq_succ_of_ne_zero (Nat.ne_of_gt (shortestMissingRun_spec '\x60' value).1)
  have hfence := @isLineBreak_of_mem_replicate '\x60' rfl (shortestMissingRun '\x60' value)
  rw [codeSpan_defaults, List.append_assoc, cutIn_append_of_free hfence, cutIn_append,
    List.append_nil, or_iff_left (not_cutIn_of_free hfence), hn, List.replicate_succ,
    cutIn_fence hline, cutIn_blankedBy_lineRules hline, endsWithBlankLine_blankedBy]

end LineRule

/-- **Which rules about the start of a line match in a code span.** One that matches does so at a
cut its own pass has left, or it is the one about backticks and matches the closing fence behind a
blank line. -/
theorem exists_matchesAt_codeSpan_iff {rule : Rule} {value : List Char} :
    (rule ∈ Rule.defaults ∧ rule.atBreak = true ∧
        ∃ offset, rule.MatchesAt (codeSpan Rule.defaults value) offset) ↔
      ∃ line ∈ lineRules, rule = line.rule ∧
        ((line.character = '\x60' ∧ endsWithBlankLine (paddedSpan value) = true) ∨
          ∃ pre b front back,
            line.Cut (paddedSpan value) pre b front back ∧ line.FaultAt [] pre b) := by
  have hlast : (codeSpan Rule.defaults value).getLast? = some '\x60' := by
    obtain ⟨n, hn⟩ :=
      Nat.exists_eq_succ_of_ne_zero (Nat.ne_of_gt (shortestMissingRun_spec '\x60' value).1)
    rw [codeSpan_defaults, hn, List.replicate_succ', ← List.append_assoc, List.getLast?_concat]
  have hmatches : ∀ line ∈ lineRules,
      (∃ offset, line.rule.MatchesAt (codeSpan Rule.defaults value) offset) ↔
      (line.character = '\x60' ∧ endsWithBlankLine (paddedSpan value) = true) ∨
        ∃ pre b front back,
          line.Cut (paddedSpan value) pre b front back ∧ line.FaultAt [] pre b := by
    intro line hline
    have hfinish : ∀ line ∈ lineRules, line.orFinish = true →
        some '\x60' ≠ some line.character := by decide
    rw [← LineRule.cutIn_nil_iff, ← LineRule.cutIn_codeSpan_iff hline, LineRule.cutIn_nil_iff]
    simp only [LineRule.matchesAt_rule_iff hline fun h => hlast ▸ hfinish line hline h, and_true]
    constructor
    · rintro ⟨_, pre, b, front, back, hcut, -⟩
      exact ⟨pre, b, front, back, hcut⟩
    · rintro ⟨pre, b, front, back, hcut⟩
      exact ⟨_, pre, b, front, back, hcut, rfl⟩
  rw [← and_assoc, exists_lineRule_iff]
  constructor
  · rintro ⟨⟨line, hline, rfl⟩, hmatch⟩
    exact ⟨line, hline, rfl, (hmatches line hline).mp hmatch⟩
  · rintro ⟨line, hline, rfl, hfault⟩
    exact ⟨⟨line, hline, rfl⟩, (hmatches line hline).mpr hfault⟩

/-- The dashes of an empty list item and of the one behind it: the second line ending is left, and
the line behind it begins with a list marker. -/
theorem exists_matchesAt_codeSpan_dashes :
    codeSpan Rule.defaults "a\n-\n- b".toList = "\x60a -\n- b\x60".toList ∧
      ∃ rule ∈ Rule.defaults, rule.atBreak = true ∧
        rule.MatchesAt (codeSpan Rule.defaults "a\n-\n- b".toList) 5 := by
  have hspan : codeSpan Rule.defaults "a\n-\n- b".toList = "\x60a -\n- b\x60".toList := by
    decide +kernel
  have hline : LineRule.dash ∈ lineRules := by decide
  have hrule := exists_lineRule_iff.mpr ⟨LineRule.dash, hline, rfl⟩
  refine ⟨hspan, LineRule.dash.rule, hrule.1, hrule.2, ?_⟩
  rw [hspan, LineRule.matchesAt_rule_iff hline (by decide)]
  refine ⟨"\x60a -".toList, '\n', [], " b\x60".toList, ⟨rfl, rfl, ⟨[], [], rfl, ?_, ?_, ?_⟩, rfl⟩,
    rfl⟩
  · simp
  · simp
  · decide

end MarkdownWriter
