import MarkdownWriter.Proofs.Escape.LineStarts

/-!
# Rows of list markers

A match of one of the rules in `LineRule.overlapping` may end with the line break that the next
match begins with. Then a search for the rule's expression reports only one of the two.

* **Overlaps** (`LineRule.Cut.reportedAt_iff`): this is the only reason why a match is not reported.
* **Every second one** (`LineRule.Cut.reportedAt_iff_even`): a match is reported exactly if the
  number of rows directly above it that hold nothing but a marker is even.

Rows are told apart by what they hold. One that is bare (`LineRule.isBare`) is matched as a whole,
its line break included, so the row below it is reached only behind that (`LineRule.Cut.trail_eq`).
One that is exposed (`LineRule.isExposed`) depends on the rows above it: its marker is missed if
they are bare and odd in number (`LineRule.misses`). The induction is on these rows, from the start
of the text down (`LineRule.bareAbove`).
-/

namespace MarkdownWriter

open Text

namespace LineRule

variable {line : LineRule}

/-! ## Rows with markers -/

/-- What follows the character in a row that begins with it, or with a number and it. -/
def rest? (line : LineRule) (row : List Char) : Option (List Char) :=
  match if line.numbered then row.dropWhile isDigit else row with
  | c :: rest =>
      if c = line.character ∧ (line.numbered = true → row.head?.any isDigit = true) then
        some rest
      else none
  | [] => none

/-- Whether a row holds nothing but a marker, behind spaces and tabs. -/
def isBare (line : LineRule) (row : List Char) : Bool :=
  line.rest? (row.dropWhile isSpacing) == some []

/-- Whether a row begins with a marker that its line alone does not save from being one: the row
begins with neither space nor tab, and the marker has something behind it that can follow it, but
not a single space or tab. -/
def isExposed (line : LineRule) (row : List Char) : Bool :=
  (line.rest? row).any fun rest =>
    match rest with
    | [] => true
    | c :: more => line.allows (some c) && (!isSpacing c || !more.isEmpty)

theorem dropWhile_append_cons {p : Char → Bool} {front back : List Char} {c : Char}
    (hfront : ∀ d ∈ front, p d = true) (hc : p c = false) :
    (front ++ c :: back).dropWhile p = c :: back := by
  rw [List.dropWhile_append_of_pos hfront, List.dropWhile_cons,
    if_neg (by rw [hc]; exact Bool.false_ne_true)]

/-- A row that begins with a marker. -/
theorem rest?_eq_some (hline : line ∈ lineRules) {row rest : List Char} :
    line.rest? row = some rest ↔ ∃ digits, row = digits ++ line.character :: rest ∧
      (∀ c ∈ digits, isDigit c = true) ∧ (digits ≠ [] ↔ line.numbered = true) := by
  obtain ⟨-, -, hdigit, -⟩ := character_of_mem_lineRules line hline
  unfold rest?
  constructor
  · intro h
    split at h
    · next c more hrow =>
        split at h
        · next hc =>
            obtain ⟨rfl, hnumber⟩ := hc
            obtain rfl := Option.some.inj h
            cases hnumbered : line.numbered with
            | false =>
                rw [hnumbered] at hrow
                exact ⟨[], hrow, fun d hd => absurd hd List.not_mem_nil, by simp⟩
            | true =>
                rw [hnumbered] at hrow
                refine ⟨row.takeWhile isDigit, ?_,
                  fun d hd => List.all_eq_true.mp List.all_takeWhile d hd, ?_⟩
                · rw [← hrow, if_pos rfl, List.takeWhile_append_dropWhile]
                · cases row with
                  | nil => contradiction
                  | cons d row =>
                      rw [List.takeWhile_cons, if_pos (by simpa using hnumber hnumbered)]
                      simp
        · contradiction
    · contradiction
  · rintro ⟨digits, rfl, hdigits, hnumbered⟩
    cases digits with
    | nil =>
        have hplain : line.numbered = false := by simpa using hnumbered
        simp [hplain]
    | cons d digits =>
        have hnumber : line.numbered = true := hnumbered.mp (List.cons_ne_nil d digits)
        rw [hnumber, if_pos rfl, dropWhile_append_cons hdigits hdigit]
        simp [hdigits d List.mem_cons_self]

/-- A row that begins with a marker behind spaces and tabs. -/
theorem rest?_dropWhile (hline : line ∈ lineRules) {front : List Char} (hfront : line.Fronts front)
    (rest : List Char) :
    line.rest? ((front ++ line.character :: rest).dropWhile isSpacing) = some rest := by
  obtain ⟨-, hspacing, -⟩ := character_of_mem_lineRules line hline
  obtain ⟨spacing, digits, rfl, hspaces, hdigits, hnumbered⟩ := hfront
  refine (rest?_eq_some hline).mpr ⟨digits, ?_, hdigits, hnumbered⟩
  rw [List.append_assoc]
  cases digits with
  | nil => exact dropWhile_append_cons hspaces hspacing
  | cons d digits =>
      exact dropWhile_append_cons hspaces (isSpacing_of_isDigit (hdigits d List.mem_cons_self))

/-- A bare row is what may stand in front of a marker, and the marker. -/
theorem isBare_iff (hline : line ∈ lineRules) {row : List Char} :
    line.isBare row = true ↔ ∃ front, row = front ++ [line.character] ∧ line.Fronts front := by
  constructor
  · intro hbare
    obtain ⟨digits, hrow, hdigits, hnumbered⟩ := (rest?_eq_some hline).mp (beq_iff_eq.mp hbare)
    refine ⟨row.takeWhile isSpacing ++ digits, ?_, row.takeWhile isSpacing, digits, rfl, ?_,
      hdigits, hnumbered⟩
    · rw [List.append_assoc, ← hrow, List.takeWhile_append_dropWhile]
    · intro c hc
      exact List.all_eq_true.mp List.all_takeWhile c hc
  · rintro ⟨front, rfl, hfront⟩
    exact beq_iff_eq.mpr (rest?_dropWhile hline hfront [])

/-- Whether the marker of a row is missed: the row is exposed, and the rows directly above it that
hold nothing but the marker are odd in number. -/
def misses (line : LineRule) (text : List Char) (n : Nat) : Bool :=
  (rows text)[n]?.any line.isExposed &&
    (((rows text).take n).reverse.takeWhile line.isBare).length % 2 == 1

/-- A row whose marker is missed, with the rows above it and below it. -/
theorem misses_iff {text : List Char} {n : Nat} :
    line.misses text n = true ↔ ∃ above row below, rows text = above ++ row :: below ∧
      above.length = n ∧ line.isExposed row = true ∧
      (above.reverse.takeWhile line.isBare).length % 2 = 1 := by
  unfold misses
  rw [Bool.and_eq_true, Option.any_eq_true, beq_iff_eq]
  constructor
  · rintro ⟨⟨row, hrow, hexposed⟩, hodd⟩
    obtain ⟨hlt, hget⟩ := List.getElem?_eq_some_iff.mp hrow
    refine ⟨(rows text).take n, row, (rows text).drop (n + 1), ?_,
      List.length_take_of_le (Nat.le_of_lt hlt), hexposed,
      hodd⟩
    rw [← hget, ← List.drop_eq_getElem_cons hlt, List.take_append_drop]
  · rintro ⟨above, row, below, hrows, rfl, hexposed, hodd⟩
    rw [hrows, List.take_left]
    refine ⟨⟨row, ?_, hexposed⟩, hodd⟩
    exact getElem?_append_cons above

/-! ## Overlaps -/

/-- The rules with a line break among what has to follow, so that their matches may overlap. -/
def overlapping : List LineRule :=
  ⟨'*', false, some (.of (Rule.markerSpace ++ ['*'])), false⟩ :: listMarkers

theorem mem_lineRules_of_mem_overlapping : ∀ line ∈ overlapping, line ∈ lineRules := by
  decide

theorem mem_overlapping_of_mem_listMarkers (h : line ∈ listMarkers) : line ∈ overlapping :=
  List.mem_cons_of_mem _ h

theorem mem_lineRules_of_mem_listMarkers : ∀ line ∈ listMarkers, line ∈ lineRules := by
  decide

/-- Any line break can follow then. -/
theorem allows_lineBreak (hoverlap : line ∈ overlapping) {b : Char} (hb : isLineBreak b = true) :
    line.allows (some b) = true := by
  have hall : ∀ line ∈ overlapping, line.allows (some '\n') = true ∧
      line.allows (some '\r') = true := by decide
  rcases isLineBreak_iff.mp hb with rfl | rfl
  · exact (hall line hoverlap).1
  · exact (hall line hoverlap).2

section overlaps

variable {text pre front back : List Char} {b : Char}

/-- The marker of a bare row is matched. -/
theorem exists_cut_of_isBare (hoverlap : line ∈ overlapping) {row rest : List Char} {b' : Char}
    (htext : text = pre ++ b :: (row ++ b' :: rest)) (hrow : line.isBare row = true)
    (hb : isLineBreak b = true) (hb' : isLineBreak b' = true) :
    ∃ front, row = front ++ [line.character] ∧ line.Cut text pre b front (b' :: rest) := by
  obtain ⟨front, rfl, hfront⟩ :=
    (isBare_iff (mem_lineRules_of_mem_overlapping line hoverlap)).mp hrow
  refine ⟨front, rfl, ?_, hb, hfront, allows_lineBreak hoverlap hb'⟩
  rw [htext, List.append_assoc, List.singleton_append]

/-- There is no line break in a bare row. -/
theorem isLineBreak_of_isBare (hoverlap : line ∈ overlapping) {row : List Char}
    (hrow : line.isBare row = true) : ∀ c ∈ row, isLineBreak c = false := by
  have hline := mem_lineRules_of_mem_overlapping line hoverlap
  obtain ⟨front, rfl, hfront⟩ := (isBare_iff hline).mp hrow
  intro c hc
  rcases List.mem_append.mp hc with hc | hc
  · exact hfront.isLineBreak_eq_false c hc
  · rw [List.mem_singleton.mp hc]
    exact (character_of_mem_lineRules line hline).1

/-- A match reported for a bare row takes the line break behind the row. -/
theorem Cut.trail_eq (hoverlap : line ∈ overlapping) {b' : Char} {rest lead trail post : List Char}
    (h : line.Cut text pre b front (b' :: rest))
    (hhit : Hit line.character (Rule.context true line.before) line.after text pre lead trail
      post) :
    lead = b :: front ∧ trail = [b'] := by
  obtain ⟨hlead, hback⟩ := h.eq_of_hit (mem_lineRules_of_mem_overlapping line hoverlap) hhit
  have hfollows : ∀ line ∈ overlapping, line.follows ≠ none := by decide
  refine ⟨hlead, ?_⟩
  rcases fits_after.mp hhit.trail_fits with ⟨hnone, -⟩ | ⟨s, x, -, -, rfl⟩ | ⟨-, -, rfl, rfl⟩
  · exact absurd hnone (hfollows line hoverlap)
  · rw [(List.cons.inj hback).1]
  · contradiction

/-- Where no line break can follow the character, all matches are reported. -/
theorem Cut.reportedAt_of_not_mem (hline : line ∈ lineRules) (hoverlap : line ∉ overlapping)
    (h : line.Cut text pre b front back) : line.ReportedAt text pre := by
  have hbreaks : ∀ line ∈ lineRules, line ∉ overlapping →
      line.follows.all (fun s => !s.contains '\n' && !s.contains '\r') = true := by decide
  rcases h.reported_or_behind hline with hreported | ⟨above, lead, post, hreported, -⟩
  · exact hreported
  · have hnone := hbreaks line hline hoverlap
    rcases fits_after.mp hreported.trail_fits with ⟨-, hnil⟩ | ⟨s, x, hfollows, hx, hb⟩ |
        ⟨-, -, hnil, -⟩
    · contradiction
    · obtain rfl := (List.cons.inj hb).1
      rw [hfollows, Option.all_some, Bool.and_eq_true] at hnone
      rcases isLineBreak_iff.mp h.lineBreak with rfl | rfl
      · simp [hx] at hnone
      · simp [hx] at hnone
    · contradiction

/-- A match is reported unless the row above it is bare and its match is reported. -/
theorem Cut.reportedAt_iff (hoverlap : line ∈ overlapping) (h : line.Cut text pre b front back) :
    line.ReportedAt text pre ↔
      ∀ above b' row, pre = above ++ b' :: row → isLineBreak b' = true → line.isBare row = true →
        ¬ line.ReportedAt text above := by
  have hline := mem_lineRules_of_mem_overlapping line hoverlap
  constructor
  · rintro ⟨lead, trail, post, hreported⟩ above b' row rfl hb' hrow
      ⟨lead', trail', post', hreported'⟩
    have htext := h.text_eq
    rw [List.append_assoc, List.cons_append] at htext
    obtain ⟨front', rfl, hcut⟩ := exists_cut_of_isBare hoverlap htext hrow hb' h.lineBreak
    obtain ⟨rfl, rfl⟩ := hcut.trail_eq hoverlap hreported'.toHit
    have hend := hreported'.end_le hreported (by simp)
    simp only [List.length_append, List.length_cons, List.length_nil] at hend
    omega
  · intro hnone
    rcases h.reported_or_behind hline with hreported | ⟨above, lead', post', hreported, rfl⟩
    · exact hreported
    · obtain ⟨b', front', rfl, hb', hfront'⟩ := fits_context.mp hreported.lead_fits
      have hrow : line.isBare (front' ++ [line.character]) = true :=
        (isBare_iff hline).mpr ⟨front', rfl, hfront'⟩
      exact absurd ⟨_, _, _, hreported⟩ (hnone above b' _ (by rw [List.cons_append]) hb' hrow)

/-! ## Every second match -/

/-- The number of bare rows directly above what follows a text that begins with a line break. -/
def bareAbove (line : LineRule) (pre : List Char) : Nat :=
  ((rows pre).tail.reverse.takeWhile line.isBare).length

/-- One row more. -/
theorem bareAbove_append {above row : List Char} {b' : Char} (hb' : isLineBreak b' = true)
    (hrow : ∀ c ∈ row, isLineBreak c = false) :
    line.bareAbove (above ++ b' :: row) = if line.isBare row =
      true then line.bareAbove above + 1 else 0 := by
  unfold bareAbove
  rw [rows_append_cons hb', rows_eq_singleton hrow, List.tail_append_of_ne_nil (rows_ne_nil above),
    List.reverse_append, List.reverse_singleton, List.singleton_append, List.takeWhile_cons]
  split <;> rfl

/-- **Every second one.** In a text that begins with a line break a match is reported if the number
of bare rows above it is even. The induction is on the rows above. -/
theorem Cut.reportedAt_iff_even (hoverlap : line ∈ overlapping)
    (hfirst : text.head?.any isLineBreak = true) (h : line.Cut text pre b front back) :
    line.ReportedAt text pre ↔ line.bareAbove pre % 2 = 0 := by
  induction hlength : pre.length using Nat.strongRecOn generalizing pre b front back with
  | ind n ih =>
      subst hlength
      rw [h.reportedAt_iff hoverlap]
      cases pre with
      | nil =>
          refine iff_of_true ?_ rfl
          intro above b' row hnil
          exact absurd hnil.symm (List.append_ne_nil_of_right_ne_nil above
            (List.cons_ne_nil b' row))
      | cons c pre =>
          have hc : isLineBreak c = true := by
            rw [h.text_eq] at hfirst
            exact hfirst
          obtain ⟨above, b', row, hpre, hb', hrow⟩ :=
            exists_last_lineBreak ⟨c, List.mem_cons_self, hc⟩
          have htext := h.text_eq
          rw [hpre, List.append_assoc, List.cons_append] at htext
          rw [hpre, bareAbove_append hb' hrow]
          by_cases hbare : line.isBare row = true
          · obtain ⟨front', -, hcut⟩ := exists_cut_of_isBare hoverlap htext hbare hb' h.lineBreak
            have ih := ih above.length (by rw [hpre, List.length_append, List.length_cons]; omega)
              hcut rfl
            rw [if_pos hbare]
            constructor
            · intro hnone
              have := mt ih.mpr (hnone above b' row rfl hb' hbare)
              omega
            · intro heven other d line' heq hd hline' hreported
              obtain ⟨rfl, -, -⟩ :=
                eq_of_append_lineBreak hb' hd hrow (isLineBreak_of_isBare hoverlap hline') heq
              have := ih.mp hreported
              omega
          · rw [if_neg hbare]
            refine iff_of_true ?_ rfl
            intro other d line' heq hd hline'
            obtain ⟨-, -, rfl⟩ :=
              eq_of_append_lineBreak hb' hd hrow (isLineBreak_of_isBare hoverlap hline') heq
            exact absurd hline' hbare

end overlaps

end LineRule

end MarkdownWriter
