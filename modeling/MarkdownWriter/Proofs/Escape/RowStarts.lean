import MarkdownWriter.Proofs.Escape.MarkerRows
import MarkdownWriter.Proofs.Text.Endings
import MarkdownWriter.Render.Form

/-!
# Markers in parts of a text

A heading or a paragraph is written from its children, so where a marker starts a row the marker may
be of one child and the line break of another. This module says of which.

* **Part by part** (`LineRule.CutIn`, `LineRule.cutIn_append`): where a text is put together from
  parts, a cut at a marker belongs to the part that its line break is in.
* **What stands behind** (`LineRule.Blocked`, `LineRule.begins_append_congr`): it does not matter
  what a row goes on with as long as the marker cannot be in that. Line breaks are in the way of
  every marker (`LineRule.blocked_lineBreak`), spaces, tabs and digits of none.
* **What stands above** (`blankAbove_append_cons`, `LineRule.bareAbove_append_of_not_isBare`):
  whether the line in front is blank, and how many rows of bare markers are above, is told by the
  part of the text behind any other visible character.
* **Spaces for line breaks** (`LineRule.cutIn_space_iff`): where a line break becomes a space, the
  line above becomes a part of the row if it is blank, and otherwise the cut is gone.
-/

namespace MarkdownWriter

open Text

/-! ## Blank lines above -/

/-- Whether the last line of a text is blank, and not the only one. -/
def endsWithBlankLine (text : List Char) : Bool :=
  startsWithBlankLine text.reverse

/-- Whether the line that ends with the line break `b` is blank, and not the first one. -/
def blankAbove (pre : List Char) (b : Char) : Bool :=
  endsWithBlankLine (dropFinalLineEnding (pre ++ [b]))

/-- The last line is blank if nothing but spaces and tabs is behind the last line break. -/
theorem endsWithBlankLine_iff {text : List Char} :
    endsWithBlankLine text = true ↔
      ∃ pre b row, text = pre ++ b :: row ∧ isLineBreak b = true ∧
        ∀ c ∈ row, isSpacing c = true := by
  unfold endsWithBlankLine startsWithBlankLine
  constructor
  · intro h
    obtain ⟨b, hb, hbreak⟩ := (Option.any_eq_true _ _).mp h
    obtain ⟨pre, hpre⟩ := List.head?_eq_some_iff.mp hb
    have htext := @List.takeWhile_append_dropWhile _ isSpacing text.reverse
    rw [hpre, ← List.reverse_inj, List.reverse_reverse] at htext
    refine ⟨pre.reverse, b, (text.reverse.takeWhile isSpacing).reverse, htext.symm.trans (by simp),
      hbreak, ?_⟩
    intro c hc
    exact List.all_eq_true.mp List.all_takeWhile c (List.mem_reverse.mp hc)
  · rintro ⟨pre, b, row, rfl, hb, hrow⟩
    have hspacing : isSpacing b = false := by rcases isLineBreak_iff.mp hb with rfl | rfl <;> rfl
    have hreverse : (pre ++ b :: row).reverse = row.reverse ++ b :: pre.reverse := by simp
    rw [hreverse,
      LineRule.dropWhile_append_cons (fun c hc => hrow c (List.mem_reverse.mp hc)) hspacing]
    exact hb

/-- Whether the last line is blank is told behind any character that is visible. -/
theorem endsWithBlankLine_append_cons {c : Char} (hbreak : isLineBreak c = false)
    (hspacing : isSpacing c = false) (front back : List Char) :
    endsWithBlankLine (front ++ c :: back) = endsWithBlankLine back := by
  rw [Bool.eq_iff_iff, endsWithBlankLine_iff, endsWithBlankLine_iff]
  constructor
  · rintro ⟨pre, b, row, htext, hb, hrow⟩
    rcases List.append_eq_append_iff.mp htext with ⟨more, rfl, hmore⟩ | ⟨more, rfl, hmore⟩
    · cases more with
      | nil =>
          obtain ⟨rfl, -⟩ := List.cons.inj hmore
          rw [hb] at hbreak
          contradiction
      | cons d more => exact ⟨more, b, row, (List.cons.inj hmore).2, hb, hrow⟩
    · cases more with
      | nil =>
          obtain ⟨rfl, -⟩ := List.cons.inj hmore
          rw [hb] at hbreak
          contradiction
      | cons d more =>
          obtain ⟨-, rfl⟩ := List.cons.inj hmore
          rw [hrow c (List.mem_append_right more List.mem_cons_self)] at hspacing
          contradiction
  · rintro ⟨pre, b, row, rfl, hb, hrow⟩
    exact ⟨front ++ c :: pre, b, row, by simp, hb, hrow⟩

/-- Whether a line is blank is told behind any character that is visible. -/
theorem blankAbove_append_cons {c : Char} (hbreak : isLineBreak c = false)
    (hspacing : isSpacing c = false) {b : Char} (hb : isLineBreak b = true)
    (front back : List Char) : blankAbove (front ++ c :: back) b = blankAbove back b := by
  unfold blankAbove
  rw [dropFinalLineEnding_concat hb, dropFinalLineEnding_concat hb]
  rcases List.eq_nil_or_concat back with rfl | ⟨back, d, rfl⟩
  · have hcr : some c ≠ some '\r' := by
      intro heq
      rw [Option.some.inj heq] at hbreak
      contradiction
    rw [List.getLast?_concat, if_neg fun h => hcr h.2, if_neg (by simp)]
    exact endsWithBlankLine_append_cons hbreak hspacing front []
  · rw [List.concat_eq_append, ← List.cons_append, ← List.append_assoc, List.getLast?_concat,
      List.getLast?_concat, List.dropLast_concat, List.dropLast_concat]
    split
    · exact endsWithBlankLine_append_cons hbreak hspacing front back
    · rw [List.append_assoc, List.cons_append]
      exact endsWithBlankLine_append_cons hbreak hspacing front (back ++ [d])

namespace LineRule

variable {line : LineRule}

/-! ## Rows that begin with a marker -/

/-- What follows a line break begins with the character of a rule as the rule asks. -/
def Begins (line : LineRule) (rest : List Char) : Prop :=
  ∃ front back, rest = front ++ line.character :: back ∧ line.Fronts front ∧
    line.allows back.head? = true

/-- The character of a rule does not come next behind spaces, tabs and digits. -/
def Blocked (line : LineRule) (rest : List Char) : Prop :=
  ∀ front back, (∀ c ∈ front, isSpacing c = true ∨ isDigit c = true) →
    rest ≠ front ++ line.character :: back

/-- Where nothing comes next no marker does. -/
theorem blocked_nil : line.Blocked [] := by
  intro front back _ h
  exact absurd h.symm (List.append_ne_nil_of_right_ne_nil front (List.cons_ne_nil _ back))

/-- Another character stands in the way. -/
theorem blocked_cons {c : Char} (hspacing : isSpacing c = false) (hdigit : isDigit c = false)
    (hc : c ≠ line.character) (rest : List Char) : line.Blocked (c :: rest) := by
  intro front back hfront heq
  cases front with
  | nil => exact hc (List.cons.inj heq).1
  | cons d front =>
      obtain ⟨rfl, -⟩ := List.cons.inj heq
      exact not_mem_of_spacing_or_digit hfront hspacing hdigit List.mem_cons_self

/-- Spaces, tabs and digits do not matter in front. -/
theorem Blocked.append (hline : line ∈ lineRules) {front rest : List Char}
    (hfront : ∀ c ∈ front, isSpacing c = true ∨ isDigit c = true) (h : line.Blocked rest) :
    line.Blocked (front ++ rest) := by
  obtain ⟨-, hspacing, hdigit, -⟩ := character_of_mem_lineRules line hline
  induction front with
  | nil => exact h
  | cons c front ih =>
      have ih := ih fun d hd => hfront d (List.mem_cons_of_mem c hd)
      intro front' back hfront' heq
      cases front' with
      | nil =>
          obtain ⟨rfl, -⟩ := List.cons.inj heq
          exact not_mem_of_spacing_or_digit hfront hspacing hdigit List.mem_cons_self
      | cons d front' =>
          exact ih front' back (fun e he => hfront' e (List.mem_cons_of_mem d he))
            (List.cons.inj heq).2

/-- A line break stands in the way of every marker. -/
theorem blocked_lineBreak (hline : line ∈ lineRules) {b : Char} (hb : isLineBreak b = true)
    (rest : List Char) : line.Blocked (b :: rest) := by
  have hbreak := (character_of_mem_lineRules line hline).1
  refine blocked_cons ?_ ?_ ?_ rest
  · rcases isLineBreak_iff.mp hb with rfl | rfl <;> rfl
  · rcases isLineBreak_iff.mp hb with rfl | rfl <;> rfl
  · rintro rfl
    rw [hb] at hbreak
    contradiction

/-- Where the character does not come next no row begins with it. -/
theorem Blocked.not_begins {rest : List Char} (h : line.Blocked rest) : ¬ line.Begins rest := by
  rintro ⟨front, back, heq, hfronts, -⟩
  exact h front back (fun _ hc => hfronts.of_mem hc) heq

/-- In front of what is blocked the marker is in the row itself. -/
theorem Blocked.begins_append_iff {row rest : List Char} (h : line.Blocked rest) :
    line.Begins (row ++ rest) ↔ ∃ front back, row = front ++ line.character :: back ∧
      line.Fronts front ∧ line.allows (back ++ rest).head? = true := by
  constructor
  · rintro ⟨front, back, heq, hfronts, hallows⟩
    rcases List.append_eq_append_iff.mp heq with ⟨more, rfl, hmore⟩ | ⟨more, rfl, hmore⟩
    · exact absurd hmore (h more back fun c hc => hfronts.of_mem (List.mem_append_right row hc))
    · cases more with
      | nil => exact absurd hmore.symm (h [] back fun c hc => absurd hc List.not_mem_nil)
      | cons c more =>
          obtain ⟨rfl, rfl⟩ := List.cons.inj hmore
          exact ⟨front, more, rfl, hfronts, hallows⟩
  · rintro ⟨front, back, rfl, hfronts, hallows⟩
    exact ⟨front, back ++ rest, by simp, hfronts, hallows⟩

/-- It does not matter what a row stands in front of if that is blocked and can follow the marker
alike. -/
theorem begins_append_congr {rest rest' : List Char} (h : line.Blocked rest)
    (h' : line.Blocked rest') (hallows : line.allows rest.head? = line.allows rest'.head?)
    (row : List Char) : line.Begins (row ++ rest) ↔ line.Begins (row ++ rest') := by
  have hback : ∀ back :
      List Char, line.allows (back ++ rest).head? = line.allows (back ++ rest').head? := by
    intro back
    cases back with
    | nil => exact hallows
    | cons c back => rfl
  simp only [h.begins_append_iff, h'.begins_append_iff, hback]

/-- Whether a space can follow a marker or a line break is the same to all rules. -/
theorem allows_lineBreak_eq (hline : line ∈ lineRules) {b : Char} (hb : isLineBreak b = true) :
    line.allows (some b) = line.allows (some ' ') := by
  have hall : ∀ line ∈ lineRules, line.allows (some '\n') = line.allows (some ' ') ∧
      line.allows (some '\r') = line.allows (some ' ') := by decide
  rcases isLineBreak_iff.mp hb with rfl | rfl
  · exact (hall line hline).1
  · exact (hall line hline).2

/-- What may stand before a character goes on behind a space if only spacing is in front of the
space. -/
theorem fronts_append_space_iff {row front : List Char} :
    line.Fronts (row ++ ' ' :: front) ↔ (∀ c ∈ row, isSpacing c = true) ∧ line.Fronts front := by
  constructor
  · rintro ⟨spacing, digits, heq, hspacing, hdigits, hnumbered⟩
    have hspace : ' ' ∉ digits := fun hmem => absurd (hdigits _ hmem) (by decide)
    rcases List.append_eq_append_iff.mp heq.symm with ⟨more, rfl, hmore⟩ | ⟨more, rfl, hmore⟩
    · rw [hmore] at hspace
      exact absurd (List.mem_append_right more List.mem_cons_self) hspace
    · cases more with
      | nil =>
          rw [List.nil_append] at hmore
          rw [← hmore] at hspace
          exact absurd List.mem_cons_self hspace
      | cons c more =>
          obtain ⟨-, rfl⟩ := List.cons.inj hmore
          exact ⟨fun d hd => hspacing d (List.mem_append_left _ hd), more, digits, rfl,
            fun d hd => hspacing d (List.mem_append_right row (List.mem_cons_of_mem c hd)), hdigits,
            hnumbered⟩
  · rintro ⟨hrow, spacing, digits, rfl, hspacing, hdigits, hnumbered⟩
    refine ⟨row ++ ' ' :: spacing, digits, by simp, fun c hc => ?_, hdigits, hnumbered⟩
    rcases List.mem_append.mp hc with hc | hc
    · exact hrow c hc
    · rcases List.mem_cons.mp hc with rfl | hc
      · rfl
      · exact hspacing c hc

/-- Where a line break becomes a space, a row that is blank so far begins with the marker behind it.
-/
theorem begins_append_space_iff (hline : line ∈ lineRules) {b : Char} (hb : isLineBreak b = true)
    (row rest : List Char) :
    line.Begins (row ++ ' ' :: rest) ↔
      line.Begins (row ++ b :: rest) ∨ ((∀ c ∈ row, isSpacing c = true) ∧ line.Begins rest) := by
  have hspace : ' ' ≠ line.character := by
    rintro heq
    have hspacing := (character_of_mem_lineRules line hline).2.1
    rw [← heq] at hspacing
    contradiction
  have hallows : ∀ back : List Char,
      line.allows (back ++ ' ' :: rest).head? = line.allows (back ++ b :: rest).head? := by
    intro back
    cases back with
    | nil => exact (allows_lineBreak_eq hline hb).symm
    | cons c back => rfl
  rw [(blocked_lineBreak hline hb rest).begins_append_iff]
  constructor
  · rintro ⟨front, back, heq, hfronts, hback⟩
    rcases List.append_eq_append_iff.mp heq with ⟨more, rfl, hmore⟩ | ⟨more, rfl, hmore⟩
    · cases more with
      | nil => exact absurd (List.cons.inj hmore).1 hspace
      | cons c more =>
          obtain ⟨rfl, rfl⟩ := List.cons.inj hmore
          obtain ⟨hrow, hmore⟩ := fronts_append_space_iff.mp hfronts
          exact .inr ⟨hrow, more, back, rfl, hmore, hback⟩
    · cases more with
      | nil => exact absurd (List.cons.inj hmore).1.symm hspace
      | cons c more =>
          obtain ⟨rfl, rfl⟩ := List.cons.inj hmore
          exact .inl ⟨front, more, rfl, hfronts, hallows more ▸ hback⟩
  · rintro (⟨front, back, rfl, hfronts, hback⟩ | ⟨hrow, front, back, rfl, hfronts, hback⟩)
    · exact ⟨front, back ++ ' ' :: rest, by simp, hfronts, hallows back ▸ hback⟩
    · exact ⟨row ++ ' ' :: front, back, by simp, fronts_append_space_iff.mpr ⟨hrow, hfronts⟩, hback⟩

/-! ## Rows that a match takes -/

/-- Whether a character or the end of the text may stand behind a marker that is to be matched. -/
def precedes (line : LineRule) (next : Option Char) : Bool :=
  line.follows.all fun s => next.elim line.orFinish s.contains

/-- Whether what follows a line break begins with a marker that the rule's expression matches there.
That may be the last thing in a text where it does not begin with one as the rule asks. -/
def opensRow (line : LineRule) (rest : List Char) : Bool :=
  (line.rest? (rest.dropWhile isSpacing)).any fun back => line.precedes back.head?

/-- What is computed, as a statement about the character and what stands around it. -/
theorem opensRow_iff (hline : line ∈ lineRules) {rest : List Char} :
    line.opensRow rest = true ↔
      ∃ front back, rest = front ++ line.character :: back ∧ line.Fronts front ∧
        line.precedes back.head? = true := by
  unfold opensRow
  rw [Option.any_eq_true]
  constructor
  · rintro ⟨back, hback, hprecedes⟩
    obtain ⟨digits, hrest, hdigits, hnumbered⟩ := (rest?_eq_some hline).mp hback
    refine ⟨rest.takeWhile isSpacing ++ digits, back, ?_, ⟨_, digits, rfl, ?_, hdigits, hnumbered⟩,
      hprecedes⟩
    · rw [List.append_assoc, ← hrest, List.takeWhile_append_dropWhile]
    · exact fun c hc => List.all_eq_true.mp List.all_takeWhile c hc
  · rintro ⟨front, back, rfl, hfronts, hprecedes⟩
    exact ⟨back, rest?_dropWhile hline hfronts back, hprecedes⟩

/-- What a rule asks for behind its character may stand there in a match. -/
theorem precedes_of_allows {next : Option Char} (h : line.allows next = true) :
    line.precedes next = true := by
  unfold precedes allows at *
  cases hfollows : line.follows with
  | none => rfl
  | some s =>
      rw [hfollows, Option.all_some] at h
      cases next with
      | none => contradiction
      | some c => exact h

/-- A row that begins as the rule asks is matched. -/
theorem Begins.opensRow (hline : line ∈ lineRules) {rest : List Char} (h : line.Begins rest) :
    line.opensRow rest = true := by
  obtain ⟨front, back, rfl, hfronts, hallows⟩ := h
  exact (opensRow_iff hline).mpr ⟨front, back, rfl, hfronts, precedes_of_allows hallows⟩

/-- In front of what is blocked and goes on, a row opens with the marker if it begins with it. -/
theorem opensRow_append_iff (hline : line ∈ lineRules) {c : Char} {rest : List Char}
    (h : line.Blocked (c :: rest)) (row : List Char) : line.opensRow (row ++ c :: rest) = true ↔
      line.Begins (row ++ c :: rest) := by
  refine ⟨fun hopens => ?_, fun hbegins => hbegins.opensRow hline⟩
  obtain ⟨front, back, heq, hfronts, hprecedes⟩ := (opensRow_iff hline).mp hopens
  refine ⟨front, back, heq, hfronts, ?_⟩
  cases back with
  | cons d back => exact hprecedes
  | nil =>
      -- the marker would be the last character, which is among what is blocked
      rcases List.append_eq_append_iff.mp heq with ⟨more, rfl, hmore⟩ | ⟨more, rfl, hmore⟩
      · exact absurd hmore (h more [] fun d hd => hfronts.of_mem (List.mem_append_right row hd))
      · cases more with
        | nil => exact absurd hmore.symm (h [] [] fun d hd => absurd hd List.not_mem_nil)
        | cons d more =>
            exact absurd (List.cons.inj hmore).2.symm
              (List.append_ne_nil_of_right_ne_nil more (by simp))

/-! ## Cuts in a part -/

/-- There is a cut whose line break is in `text`, where `behind` stands behind the text; what is in
front of the line break has the property `P` with it. -/
def CutIn (line : LineRule) (P : List Char → Char → Prop) (text behind : List Char) : Prop :=
  BreakIn (fun pre b rest => line.Begins rest ∧ P pre b) text behind

variable {P Q : List Char → Char → Prop} {front back behind : List Char}

/-- In a text with nothing behind it, these are the cuts of the text. -/
theorem cutIn_nil_iff : line.CutIn P front [] ↔
    ∃ pre b row back, line.Cut front pre b row back ∧ P pre b := by
  constructor
  · rintro ⟨pre, b, rest, rfl, hb, hbegins, hP⟩
    rw [List.append_nil] at hbegins
    obtain ⟨row, back, rfl, hfronts, hallows⟩ := hbegins
    exact ⟨pre, b, row, back, ⟨rfl, hb, hfronts, hallows⟩, hP⟩
  · rintro ⟨pre, b, row, back, hcut, hP⟩
    refine ⟨pre, b, _, hcut.text_eq, hcut.lineBreak, ?_, hP⟩
    rw [List.append_nil]
    exact ⟨row, back, rfl, hcut.fronts, hcut.allows⟩

/-- **Part by part.** A cut belongs to the part of the text that its line break is in. -/
theorem cutIn_append :
    line.CutIn P (front ++ back) behind ↔
      line.CutIn P front (back ++ behind) ∨ line.CutIn (fun pre => P (front ++ pre)) back behind :=
  breakIn_append

/-- A line break alone is a cut if what follows begins with the marker. -/
theorem cutIn_singleton {b : Char} :
    line.CutIn P [b] behind ↔ isLineBreak b = true ∧ line.Begins behind ∧ P [] b :=
  breakIn_singleton

/-- The first character is a cut itself, or the cut is behind it. -/
theorem cutIn_cons {b : Char} :
    line.CutIn P (b :: back) behind ↔
      (isLineBreak b = true ∧ line.Begins (back ++ behind) ∧ P [] b) ∨
        line.CutIn (fun pre => P (b :: pre)) back behind :=
  breakIn_cons

/-- There is none without line breaks. -/
theorem not_cutIn_of_free (h : ∀ c ∈ front, isLineBreak c = false) : ¬ line.CutIn P front behind :=
  not_breakIn_of_free h

/-- There is no cut in a part without line breaks. -/
theorem cutIn_append_of_free (h : ∀ c ∈ front, isLineBreak c = false) :
    line.CutIn P (front ++ back) behind ↔ line.CutIn (fun pre => P (front ++ pre)) back behind :=
  breakIn_append_of_free h

/-- What stands behind matters only for how rows begin. -/
theorem cutIn_congr_behind {behind' : List Char}
    (h : ∀ row, line.Begins (row ++ behind) ↔ line.Begins (row ++ behind')) :
    line.CutIn P front behind ↔ line.CutIn P front behind' := by
  simp only [CutIn, BreakIn, h]

/-- Only at cuts the property matters. -/
theorem cutIn_congr
    (h : ∀ pre b, isLineBreak b = true → line.CutIn (fun _ _ => True) front behind →
      (P pre b ↔ Q pre b)) :
    line.CutIn P front behind ↔ line.CutIn Q front behind := by
  constructor
  · rintro ⟨pre, b, rest, htext, hb, hbegins, hP⟩
    exact ⟨pre, b, rest, htext, hb, hbegins,
      (h pre b hb ⟨pre, b, rest, htext, hb, hbegins, trivial⟩).mp hP⟩
  · rintro ⟨pre, b, rest, htext, hb, hbegins, hQ⟩
    exact ⟨pre, b, rest, htext, hb, hbegins,
      (h pre b hb ⟨pre, b, rest, htext, hb, hbegins, trivial⟩).mpr hQ⟩

/-- No marker is in the line ending in front of a line break. -/
theorem cutIn_dropFinalLineEnding (hline : line ∈ lineRules) {b : Char} (hb : isLineBreak b = true)
    (text : List Char) :
    line.CutIn P text (b :: behind) ↔ line.CutIn P (dropFinalLineEnding (text ++ [b]))
      (b :: behind) := by
  rw [dropFinalLineEnding_concat hb]
  split
  · next hending =>
      obtain ⟨front, rfl⟩ := List.getLast?_eq_some_iff.mp hending.2
      have hcr : isLineBreak '\r' = true := rfl
      have hallows : line.allows (some '\r') = line.allows (some b) := by
        rw [allows_lineBreak_eq hline hcr, allows_lineBreak_eq hline hb]
      rw [List.dropLast_concat, cutIn_append, cutIn_singleton, List.singleton_append,
        cutIn_congr_behind (begins_append_congr (blocked_lineBreak hline hcr (b :: behind))
          (blocked_lineBreak hline hb behind) hallows)]
      exact or_iff_left fun h => (blocked_lineBreak hline hb behind).not_begins h.2.1
  · rfl

/-- Where a line break becomes a space, the line above becomes a part of the row if it is blank. -/
theorem cutIn_space_iff (hline : line ∈ lineRules) {b : Char} (hb : isLineBreak b = true) :
    line.CutIn (fun _ _ => True) front (' ' :: behind) ↔
      line.CutIn (fun _ _ => True) front (b :: behind) ∨
        (endsWithBlankLine front = true ∧ line.Begins behind) := by
  rw [endsWithBlankLine_iff]
  constructor
  · rintro ⟨pre, c, row, rfl, hc, hbegins, -⟩
    rcases (begins_append_space_iff hline hb row behind).mp hbegins with hbegins | ⟨hrow, hbegins⟩
    · exact .inl ⟨pre, c, row, rfl, hc, hbegins, trivial⟩
    · exact .inr ⟨⟨pre, c, row, rfl, hc, hrow⟩, hbegins⟩
  · rintro (⟨pre, c, row, rfl, hc, hbegins, -⟩ | ⟨⟨pre, c, row, rfl, hc, hrow⟩, hbegins⟩)
    · exact ⟨pre, c, row, rfl, hc, (begins_append_space_iff hline hb row behind).mpr (.inl hbegins),
        trivial⟩
    · exact ⟨pre, c, row, rfl, hc,
        (begins_append_space_iff hline hb row behind).mpr (.inr ⟨hrow, hbegins⟩), trivial⟩

/-- A line ending is in the way of every marker. -/
theorem blocked_lineEnding (hline : line ∈ lineRules) (ending : LineEnding) (rest : List Char) :
    line.Blocked (ending.toText ++ rest) ∧
      line.allows (ending.toText ++ rest).head? = line.allows (some ' ') := by
  cases ending with
  | lf => exact ⟨blocked_lineBreak hline rfl rest, allows_lineBreak_eq hline rfl⟩
  | cr => exact ⟨blocked_lineBreak hline rfl rest, allows_lineBreak_eq hline rfl⟩
  | crlf => exact ⟨blocked_lineBreak hline rfl _, allows_lineBreak_eq hline rfl⟩

/-- What is behind a line ending begins with a marker if there is a cut at it. -/
theorem begins_of_cutIn_lineEnding (hline : line ∈ lineRules) {ending : LineEnding}
    (h : line.CutIn P ending.toText behind) : line.Begins behind := by
  cases ending with
  | lf => exact (cutIn_singleton.mp h).2.1
  | cr => exact (cutIn_singleton.mp h).2.1
  | crlf =>
      rcases cutIn_cons.mp h with ⟨-, hbegins, -⟩ | h
      · exact absurd hbegins (blocked_lineBreak hline rfl behind).not_begins
      · exact (cutIn_singleton.mp h).2.1

/-! ## Bare rows above -/

/-- What stands above a row that is not bare, however the row goes on, is not counted. -/
theorem bareAbove_append_of_not_isBare {above : List Char}
    (h : ∀ {pre row : List Char} {b : Char}, above = pre ++ b :: row → isLineBreak b = true →
      (∀ c ∈ row, isLineBreak c = false) → ∀ more, line.isBare (row ++ more) = false)
    (back : List Char) :
    line.bareAbove (above ++ back) = line.bareAbove back := by
  unfold bareAbove
  by_cases hbreak : ∃ c ∈ above, isLineBreak c = true
  · obtain ⟨pre, b, row, rfl, hb, hrow⟩ := exists_last_lineBreak hbreak
    obtain ⟨first, others, hrows⟩ := List.exists_cons_of_ne_nil (rows_ne_nil back)
    have hlast := h rfl hb hrow first
    rw [List.append_assoc, List.cons_append, rows_append_cons hb, rows_append hrow, hrows,
      List.modifyHead_cons, List.tail_append_of_ne_nil (rows_ne_nil pre), List.reverse_append,
      List.reverse_cons, List.append_assoc, List.singleton_append, takeWhile_append_cons hlast,
      List.tail_cons]
  · have hfree : ∀ c ∈ above, isLineBreak c = false := by simpa using hbreak
    rw [rows_append hfree, List.tail_modifyHead]

/-- A bare row that is the only one above makes no difference to whether the number is even, if a
row follows it: they count together or not at all. -/
theorem bareAbove_append_cons_mod {above : List Char} (h : line.bareAbove above = 1) {b : Char}
    (hb : isLineBreak b = true) (back : List Char) :
    line.bareAbove (above ++ b :: back) % 2 = line.bareAbove back % 2 := by
  unfold bareAbove at h ⊢
  obtain ⟨first, others, hrows⟩ := List.exists_cons_of_ne_nil (rows_ne_nil back)
  rw [rows_append_cons hb, hrows, List.tail_append_of_ne_nil (rows_ne_nil above),
    List.reverse_append, List.reverse_cons, List.append_assoc, List.singleton_append,
    List.tail_cons, List.takeWhile_append]
  split
  · next hall =>
      rw [hall, List.length_append, List.takeWhile_cons]
      split
      · rw [List.length_cons, h]
        omega
      · rfl
  · rfl

end LineRule

end MarkdownWriter
