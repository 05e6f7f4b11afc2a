import MarkdownWriter.Layout.Code
import MarkdownWriter.Proofs.Escape.RowStarts

/-!
# The passes over a code span

Every rule about the start of a line goes once over the contents of a code span. From each match to
the next it writes a space for the line ending in front of the match. `LineRule.Passes` says what
becomes of a text on the way, without offsets: the search stands between what it has passed and what
is left, and takes the leftmost match of what is left.

* **A pass is a search** (`LineRule.passes_blankLineEndings`): every match that is found is the
  first one behind what is passed (`LineRule.exists_firstMatch_of_find_eq_some`), and where none is
  found no row with a marker is left (`LineRule.not_opensRow_of_find_eq_none`).
* **One step** (`LineRule.FirstMatch.blanks`): in front of a match stands a line ending, which is no
  part of a longer one, and it is replaced by a space.
* **One line ending at a time** (`LineRule.Passes.invariant`, `invariant_blankedBy`): what the loss
  of one line ending in front of a marker does not change is the same for the whole contents. Later
  results about code spans only show that their property survives one such step.
-/

namespace MarkdownWriter

open Text Layout

/-! ## One line ending -/

/-- A line ending is replaced together with both its characters, and the search goes on where it
was. -/
theorem blankLineEnding_eq {b : Char} (hb : isLineBreak b = true) (front rest : List Char) (n : Nat)
    (marked : Option Nat) :
    blankLineEnding (front ++ b :: rest) ⟨front.length, front.length + 1 + n, marked⟩ =
      ((dropFinalLineEnding (front ++ [b])).length + 1 + n,
        dropFinalLineEnding (front ++ [b]) ++ ' ' :: rest) := by
  have hhere : (front ++ b :: rest)[front.length]? = some b := getElem?_append_cons front
  have hdrop : (front ++ b :: rest).drop (front.length + 1) = rest := by
    rw [List.append_cons, List.drop_left' (by simp)]
  unfold blankLineEnding
  dsimp only
  rw [dropFinalLineEnding_concat hb, hhere, hdrop]
  rcases List.eq_nil_or_concat front with rfl | ⟨above, c, rfl⟩
  · simp
  · have hprevious : (above ++ c :: b :: rest)[above.length]? = some c := getElem?_append_cons above
    have hlength : (above ++ [c]).length = above.length + 1 := by simp
    have htext : above ++ [c] ++ b :: rest = above ++ c :: b :: rest := by simp
    rw [List.concat_eq_append, List.getLast?_concat, List.dropLast_concat, hlength,
      Nat.add_sub_cancel, htext, hprevious]
    by_cases hending : b = '\n' ∧ c = '\r'
    · obtain ⟨rfl, rfl⟩ := hending
      simp
    · rw [if_neg (by simpa using hending), if_neg (by simpa using hending), ← htext,
        List.take_left' hlength, hlength]

namespace LineRule

variable {line : LineRule}

/-- A line ending in front of a marker is replaced by a space. -/
inductive Blanks (line : LineRule) : List Char → List Char → Prop where
  | blank (above : List Char) (ending : LineEnding) (front back : List Char)
      (hwhole : ending = .lf → above.getLast? ≠ some '\r') (hfronts : line.Fronts front) :
      Blanks line (above ++ (ending.toText ++ (front ++ line.character :: back)))
        (above ++ ' ' :: (front ++ line.character :: back))

/-! ## The leftmost match -/

/-- The match of a rule that a search finds: nothing that a match could take begins before it. -/
structure FirstMatch (line : LineRule) (text pre : List Char) (b : Char)
    (front trail post : List Char) : Prop where
  text_eq : text = pre ++ b :: (front ++ line.character :: (trail ++ post))
  lineBreak : isLineBreak b = true
  fronts : line.Fronts front
  trail_fits : ∀ offset, Fits line.after offset trail post
  leftmost : ∀ {pre' rest : List Char} {b' : Char}, text = pre' ++ b' :: rest →
    isLineBreak b' = true → line.opensRow rest = true → pre.length ≤ pre'.length

/-- A row that a cut begins is matched. -/
theorem Cut.opensRow (hline : line ∈ lineRules) {text pre front back : List Char} {b : Char}
    (h : line.Cut text pre b front back) : line.opensRow (front ++ line.character :: back) = true :=
  Begins.opensRow hline ⟨front, back, rfl, h.fronts, h.allows⟩

/-- No cut is in front of the first match. -/
theorem FirstMatch.length_le (hline : line ∈ lineRules)
    {text pre front trail post pre' front' back' : List Char}
    {b b' : Char} (h : line.FirstMatch text pre b front trail post)
    (hcut : line.Cut text pre' b' front' back') :
    pre.length ≤ pre'.length :=
  h.leftmost hcut.text_eq hcut.lineBreak (hcut.opensRow hline)

/-- The marker of a match opens its row. -/
theorem FirstMatch.opensRow (hline : line ∈ lineRules) {text pre front trail post : List Char}
    {b : Char} (h : line.FirstMatch text pre b front trail post) :
    line.opensRow (front ++ line.character :: (trail ++ post)) = true := by
  refine (opensRow_iff hline).mpr ⟨front, trail ++ post, rfl, h.fronts, ?_⟩
  unfold precedes
  rcases fits_after.mp (h.trail_fits 0) with ⟨hfollows, -⟩ | ⟨s, c, hfollows, hc, rfl⟩ |
      ⟨hfollows, hfinish, rfl, rfl⟩
  · rw [hfollows]
    rfl
  · rw [hfollows]
    exact hc
  · obtain ⟨s, hs⟩ := Option.isSome_iff_exists.mp hfollows
    rw [hs]
    exact hfinish

theorem expression_rule :
    line.rule.expression =
      (Rule.expressionFor line.character ((Rule.context true line.before).map .marked)
        line.after).compiled := by
  rw [← Rule.leadingGroup_eq]
  rfl

section search

variable {passed rest : List Char}

/-- There is a match at every line break that a row with a marker follows. -/
theorem exists_matchAt_of_opensRow (hline : line ∈ lineRules) {text pre rest : List Char} {b : Char}
    (htext : text = pre ++ b :: rest) (hb : isLineBreak b = true) (h : line.opensRow rest = true) :
    ∃ found, line.rule.expression.matchAt text pre.length = some found := by
  obtain ⟨front, back, rfl, hfronts, hprecedes⟩ := (opensRow_iff hline).mp h
  obtain ⟨trail, post, rfl, htrail⟩ :
      ∃ trail post, back = trail ++ post ∧
        Fits line.after (pre.length + (b :: front).length + 1) trail post := by
    unfold precedes at hprecedes
    cases hfollows : line.follows with
    | none => exact ⟨[], back, rfl, fits_after.mpr (.inl ⟨hfollows, rfl⟩)⟩
    | some s =>
        rw [hfollows, Option.all_some] at hprecedes
        cases back with
        | nil =>
            exact ⟨[], [], rfl,
              fits_after.mpr (.inr (.inr ⟨by rw [hfollows]; rfl, hprecedes, rfl, rfl⟩))⟩
        | cons c back =>
            exact ⟨[c], back, rfl, fits_after.mpr (.inr (.inl ⟨s, c, hfollows, hprecedes, rfl⟩))⟩
  have hhit : Hit line.character (Rule.context true line.before) line.after text pre
      (b :: front) trail post :=
    ⟨htext, fits_context.mpr ⟨b, front, rfl, hb, hfronts⟩, htrail⟩
  obtain ⟨-, -, last, hlast⟩ := hhit.exists_end
  rw [expression_rule]
  exact Expression.exists_matchAt_of_mem_ends hlast

/-- A search that finds nothing leaves no row with a marker behind what it has passed. -/
theorem not_opensRow_of_find_eq_none (hline : line ∈ lineRules)
    (h : line.rule.expression.find (passed ++ rest) passed.length = none) {pre back : List Char}
    {b : Char} (hrest : rest = pre ++ b :: back) (hb : isLineBreak b = true) :
    line.opensRow back = false := by
  rw [← Bool.not_eq_true]
  intro hopens
  have hpre : (passed ++ pre).length ≤ (passed ++ rest).length := by simp [hrest]
  have htext : passed ++ rest = passed ++ pre ++ b :: back := by rw [hrest, List.append_assoc]
  obtain ⟨found, hmatch⟩ := exists_matchAt_of_opensRow hline htext hb hopens
  rw [Expression.find_eq_none h (by simp) hpre] at hmatch
  contradiction

/-- A search that finds something finds the leftmost match behind what it has passed. -/
theorem exists_firstMatch_of_find_eq_some (hline : line ∈ lineRules) {found : Match}
    (h : line.rule.expression.find (passed ++ rest) passed.length = some found) :
    ∃ pre b front trail post, line.FirstMatch rest pre b front trail post ∧
      found.first = (passed ++ pre).length ∧
      found.stop = (passed ++ pre).length + 1 + (front ++ line.character :: trail).length := by
  obtain ⟨hle, hlength, hmatch, hnone⟩ := Expression.find_eq_some h
  obtain ⟨last, hlast, hfound⟩ := Expression.exists_mem_ends_of_matchAt hmatch
  rw [expression_rule] at hlast
  obtain ⟨above, lead, trail, post, hhit, hfirst, hoffset, -⟩ :=
    exists_hit_of_mem_ends (fun _ => after_isUnmarked) hlength hlast
  obtain ⟨b, front, rfl, hb, hfront⟩ := fits_context.mp hhit.lead_fits
  -- what the search has passed is in front of the match
  obtain ⟨pre, rfl⟩ : passed <+: above :=
    List.prefix_of_prefix_length_le (List.prefix_append passed rest) ⟨_, hhit.text_eq.symm⟩
      (by omega)
  refine ⟨pre, b, front, trail, post,
    ⟨?_, hb, hfront, fun offset => fits_after.mpr (fits_after.mp hhit.trail_fits), ?_⟩, hfirst, ?_⟩
  · have htext := hhit.text_eq
    rw [List.append_assoc] at htext
    exact List.append_cancel_left htext
  · intro pre' back b' hrest hb' hopens
    by_contra hlt
    have htext : passed ++ rest = passed ++ pre' ++ b' :: back := by rw [hrest, List.append_assoc]
    obtain ⟨other, hother⟩ := exists_matchAt_of_opensRow hline htext hb' hopens
    have hbefore : (passed ++ pre').length < found.first := by
      rw [hfirst, List.length_append, List.length_append]
      omega
    rw [hnone _ (by simp) hbefore] at hother
    contradiction
  · rw [hfound]
    dsimp only
    rw [hoffset]
    simp only [List.length_append, List.length_cons]
    omega

end search

/-! ## A pass -/

/-- What a pass makes of a text of which a part is passed already. -/
inductive Passes (line : LineRule) : List Char → List Char → List Char → Prop where
  | done {passed rest : List Char}
      (hnone : ∀ {pre back : List Char} {b : Char}, rest = pre ++ b :: back → isLineBreak b = true →
        line.opensRow back = false) :
      Passes line passed rest (passed ++ rest)
  | next {passed rest pre front trail post result : List Char} {b : Char}
      (hfirst : line.FirstMatch rest pre b front trail post)
      (hrest : Passes line
        (dropFinalLineEnding (passed ++ pre ++ [b]) ++ ' ' :: (front ++ line.character :: trail))
          post result) :
      Passes line passed rest result

/-- A pass is a search. Every match takes a character of what is left, so the length of that is fuel
enough. -/
theorem passes_blankLineEndings (hline : line ∈ lineRules) {fuel : Nat} {passed rest : List Char}
    (hfuel : rest.length < fuel) :
    line.Passes passed rest (blankLineEndings line.rule.expression fuel passed.length
      (passed ++ rest)) := by
  induction fuel generalizing passed rest with
  | zero => omega
  | succ fuel ih =>
      rw [blankLineEndings]
      cases hfind : line.rule.expression.find (passed ++ rest) passed.length with
      | none => exact .done (not_opensRow_of_find_eq_none hline hfind)
      | some found =>
          obtain ⟨pre, b, front, trail, post, hmatch, hfirst, hstop⟩ :=
            exists_firstMatch_of_find_eq_some hline hfind
          obtain ⟨first, stop, marked⟩ := found
          obtain rfl : first = (passed ++ pre).length := hfirst
          obtain rfl :
              stop = (passed ++ pre).length + 1 + (front ++ line.character :: trail).length := hstop
          have htext :
              passed ++ rest = passed ++ pre ++ b ::
                (front ++ line.character :: (trail ++ post)) := by
            rw [hmatch.text_eq, List.append_assoc]
          refine .next hmatch ?_
          dsimp only
          rw [htext, blankLineEnding_eq hmatch.lineBreak]
          have hlength : post.length < fuel := by
            have := congrArg List.length hmatch.text_eq
            simp only [List.length_append, List.length_cons] at this
            omega
          have hnext :=
            @ih (dropFinalLineEnding (passed ++ pre ++ [b]) ++
              ' ' :: (front ++ line.character :: trail))
            post hlength
          simpa [Nat.add_assoc, Nat.add_comm 1] using hnext

/-- In front of a match stands a line ending, which is no part of a longer one. -/
theorem FirstMatch.blanks {passed rest pre front trail post : List Char} {b : Char}
    (h : line.FirstMatch rest pre b front trail post) :
    line.Blanks (passed ++ rest)
      (dropFinalLineEnding (passed ++ pre ++ [b]) ++
        ' ' :: (front ++ line.character :: (trail ++ post))) := by
  obtain ⟨ending, htext, hwhole⟩ := exists_lineEnding_of_isLineBreak h.lineBreak (passed ++ pre)
  have heq : passed ++ rest = dropFinalLineEnding (passed ++ pre ++ [b]) ++
      (ending.toText ++ (front ++ line.character :: (trail ++ post))) := by
    rw [h.text_eq, ← List.append_assoc, ← List.append_assoc, ← htext]
    simp
  rw [heq]
  exact .blank _ ending front _ hwhole h.fronts

/-- **One line ending at a time.** What survives the loss of one line ending survives a pass. -/
theorem Passes.invariant {P : List Char → Prop}
    (hblank : ∀ {text text'}, line.Blanks text text' → P text → P text')
    {passed rest result : List Char} (h : line.Passes passed rest result)
    (hstart : P (passed ++ rest)) : P result := by
  induction h with
  | done _ => exact hstart
  | next hfirst _ ih =>
      refine ih ?_
      have hnext := hblank hfirst.blanks hstart
      simpa using hnext

end LineRule

/-! ## All passes -/

/-- The contents of a code span after the passes of some rules. -/
def blankedBy (rules : List LineRule) (text : List Char) : List Char :=
  rules.foldl (fun content line =>
    blankLineEndings line.rule.expression (content.length + 1) 0 content) text

theorem blankedBy_append (rules rules' : List LineRule) (text : List Char) :
    blankedBy (rules ++ rules') text = blankedBy rules' (blankedBy rules text) :=
  List.foldl_append ..

/-- One rule is one pass. -/
theorem passes_blankedBy_singleton {line : LineRule} (hline : line ∈ lineRules) (text : List Char) :
    line.Passes [] text (blankedBy [line] text) :=
  @LineRule.passes_blankLineEndings line hline _ [] text (Nat.lt_succ_self text.length)

/-- The contents of a code span are passed by the rules about the start of a line. -/
theorem codeSpan_defaults (value : List Char) :
    codeSpan Rule.defaults value =
      List.replicate (shortestMissingRun '\x60' value) '\x60' ++ blankedBy lineRules
        (paddedSpan value) ++ List.replicate (shortestMissingRun '\x60' value) '\x60' := by
  unfold codeSpan blankedBy
  rw [filter_atBreak_defaults, List.foldl_map]

/-- What survives the loss of one line ending survives all passes. -/
theorem invariant_blankedBy {P : List Char → Prop} {rules : List LineRule}
    (hrules : ∀ line ∈ rules, line ∈ lineRules)
    (hblank : ∀ line ∈ rules, ∀ {text text'}, line.Blanks text text' → P text → P text')
    {text : List Char} (hstart : P text) : P (blankedBy rules text) := by
  induction rules generalizing text with
  | nil => exact hstart
  | cons line rules ih =>
      rw [← List.singleton_append, blankedBy_append]
      obtain ⟨hline, hothers⟩ := List.forall_mem_cons.mp hrules
      refine ih hothers (fun other hother => hblank other (List.mem_cons_of_mem line hother)) ?_
      exact (passes_blankedBy_singleton hline text).invariant
        (hblank line List.mem_cons_self) hstart

end MarkdownWriter
