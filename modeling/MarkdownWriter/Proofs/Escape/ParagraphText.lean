import MarkdownWriter.Proofs.Escape.LineLetters
import MarkdownWriter.Proofs.Escape.MarkerRows
import MarkdownWriter.Proofs.Escape.ParagraphFlags

/-!
# The text of a paragraph

A paragraph of one text is meant to start no other block. This module says on which of its rows a
rule about the start of a line still matches in what is written
(`LineRule.exists_cut_paragraphText_iff`). What is written is read as letters, and a match is one in
letters that are left alone.

* **From letters to rows** (`LineRule.PlainCut.misses`): letters left alone are flagged by no
  reported match, so the search passed over the match they are part of. Only that of a list marker
  can be passed over (`LineRule.PlainCut.mem_listMarkers`), on a row whose marker is missed.
* **From rows to letters** (`LineRule.exists_plainCut_of_misses`): on such a row nothing that the
  rule looks at is flagged by it or by another rule (`LineRule.not_flaggedAt_character`,
  `LineRule.not_flaggedAt_next`).
* **Rows keep their places**: no line break is escaped in a paragraph
  (`isLineBreak_of_mem_paragraphLetters`), so what is written has the rows of the text, one for one
  (`LineRule.PlainCut.countP_isLineBreak`).
-/

namespace MarkdownWriter

open Text

namespace LineRule

variable {line : LineRule} {value : List Char} {pre back : List Letter} {b : Char}
  {front : List Char}

theorem lineBreak_ne_character (hline : line ∈ lineRules) : some '\n' ≠ some line.character := by
  intro heq
  have hbreak := (character_of_mem_lineRules line hline).1
  rw [← Option.some.inj heq] at hbreak
  contradiction

/-! ## What is not escaped is not reported -/

/-- A cut of the letters of a paragraph is one of its text on its own lines. -/
theorem PlainCut.cut_ownLines (h : line.PlainCut (paragraphLetters value) pre b front back) :
    line.Cut (ownLines.enclose value) (pre.map Letter.char) b front (back.map Letter.char) := by
  have hcut := h.cut
  rwa [paragraphLetters, map_char_framedLetters] at hcut

/-- The character of a cut belongs to the text, and is left alone. -/
theorem PlainCut.character (hline : line ∈ lineRules)
    (h : line.PlainCut (paragraphLetters value) pre b front back) :
    pre.length + front.length < value.length ∧
      (paragraphLetters value)[1 + (pre.length + front.length)]? =
        some (.plain line.character) := by
  have hlast : (b :: (front ++ [line.character]))[front.length + 1]? = some line.character :=
    getElem?_append_cons (b :: front)
  have hplain := h.getElem? hlast
  rw [show pre.length + (front.length + 1) = 1 + (pre.length + front.length) by omega] at hplain
  refine ⟨lt_of_getElem?_ownLines (getElem?_framedLetters_eq_some.mp hplain).1 ?_, hplain⟩
  exact fun heq => lineBreak_ne_character hline (congrArg some heq.symm)

/-- The character of a cut is not flagged for the cut: what could spare it is left alone as well. -/
theorem PlainCut.not_reportedAt (hline : line ∈ lineRules)
    (h : line.PlainCut (paragraphLetters value) pre b front back) :
    ¬ line.ReportedAt (ownLines.enclose value) (pre.map Letter.char) := by
  intro hreported
  obtain ⟨hmem, hflags⟩ := hreported.flaggedAt hline h.cut_ownLines paragraphStack
  obtain ⟨hi, hplain⟩ := h.character hline
  rw [List.length_map,
    show pre.length + (front.length + 1) = 1 + (pre.length + front.length) by omega] at hflags
  rcases spared_of_plain hi hplain ⟨_, hmem, hflags⟩ with ⟨honly, -, hlt, hflag⟩ | ⟨-, -, -, hflag⟩
  · have hfollows : line.follows ≠ none := by
      have htrailing : line.after.isSome = true := honly line.rule hmem hflags
      rw [after, Option.isSome_map] at htrailing
      exact Option.isSome_iff_ne_none.mp htrailing
    obtain ⟨x, -, -, hnext⟩ := h.exists_getElem?_next hfollows
    rw [show pre.length + (front.length + 2) =
      1 + (pre.length + front.length + 1) by omega] at hnext
    exact not_unconditionalAt_of_plain hlt hnext hflag
  · rw [show ownLines.before.length + (pre.length + front.length) - 1 =
      pre.length + front.length from
      Nat.add_sub_cancel_left 1 _] at hflag
    cases hplace : pre.length + front.length with
    | zero =>
        rw [hplace] at hflag
        exact not_flaggedAt_of_isLineBreak getElem?_ownLines_zero rfl hflag.flaggedAt
    | succ j =>
        have hlt : front.length < (b :: (front ++ [line.character])).length := by
          simp only [List.length_cons, List.length_append]
          omega
        have hprevious := h.getElem? (List.getElem?_eq_getElem hlt)
        rw [hplace, Nat.add_comm] at hprevious hflag
        exact not_unconditionalAt_of_plain (by omega) hprevious hflag

/-- Of the rules about the start of a line only those about list markers match letters left alone.
Any other rule that matches reports the match, as no match of it can end with the line break of
another; the rule about asterisks, which may, is outdone by the one that flags all of them. -/
theorem PlainCut.mem_listMarkers (hline : line ∈ lineRules)
    (h : line.PlainCut (paragraphLetters value) pre b front back) : line ∈ listMarkers := by
  have hall : ∀ line ∈ lineRules, ∀ s ∈ line.follows, s.contains '\n' = true ∨
      s.contains '\r' = true → line ∈ listMarkers ∨ line.character = '*' := by
    decide
  obtain ⟨above, lead, post, hreported, -⟩ :=
    (h.cut_ownLines.reported_or_behind hline).resolve_left (h.not_reportedAt hline)
  have hbreak : ∃ s ∈ line.follows, s.contains '\n' = true ∨ s.contains '\r' = true := by
    rcases fits_after.mp hreported.trail_fits with ⟨-, hnil⟩ | ⟨s, x, hfollows, hx, htrail⟩ |
        ⟨-, -, hnil, -⟩
    · contradiction
    · obtain rfl := (List.cons.inj htrail).1
      rcases isLineBreak_iff.mp h.lineBreak with rfl | rfl
      · exact ⟨s, hfollows, .inl hx⟩
      · exact ⟨s, hfollows, .inr hx⟩
    · contradiction
  obtain ⟨s, hs, hcontains⟩ := hbreak
  rcases hall line hline s hs hcontains with hmarker | hstar
  · exact hmarker
  · obtain ⟨hi, hplain⟩ := h.character hline
    have hc : (ownLines.enclose value)[1 + (pre.length + front.length)]? = some '*' := by
      rw [← hstar]
      exact (getElem?_framedLetters_eq_some.mp hplain).1
    have hrule : Rule.inlineMarkup '*' none none ∈ Rule.defaults := by
      simp [Rule.defaults, Rule.whitespaceRules, Rule.punctuationRules]
    have hflag := @unconditionalAt_of_anywhere paragraphStack _ _ _ hrule rfl rfl rfl hc
    exact absurd hflag (not_unconditionalAt_of_plain hi hplain)

/-! ## Rows with letters left alone -/

/-- What follows a cut goes on to a line break. -/
theorem Cut.exists_row (hline : line ∈ lineRules) {text pre front back : List Char}
    (h : line.Cut text pre b front back) (hlast : text.getLast? = some '\n') :
    ∃ rest b' post, back = rest ++ b' :: post ∧ isLineBreak b' = true ∧
      ∀ c ∈ front ++ line.character :: rest, isLineBreak c = false := by
  have hcharacter := (character_of_mem_lineRules line hline).1
  have hback : ∃ c ∈ back, isLineBreak c = true := by
    have hnil := h.back_ne_nil (by rw [hlast]; exact lineBreak_ne_character hline)
    obtain ⟨more, d, rfl⟩ := (List.eq_nil_or_concat back).resolve_left hnil
    rw [h.text_eq, List.concat_eq_append, ← List.cons_append, ← List.append_assoc,
      ← List.cons_append, ← List.append_assoc, List.getLast?_concat] at hlast
    rw [List.concat_eq_append, Option.some.inj hlast]
    exact ⟨'\n', List.mem_append_right more List.mem_cons_self, rfl⟩
  obtain ⟨rest, b', post, rfl, hb', hrest⟩ := exists_first_lineBreak hback
  refine ⟨rest, b', post, rfl, hb', fun c hc => ?_⟩
  rcases List.mem_append.mp hc with hc | hc
  · exact h.fronts.isLineBreak_eq_false c hc
  · rcases List.mem_cons.mp hc with rfl | hc
    · exact hcharacter
    · exact hrest c hc

/-- Nothing but a number stands before the character of a cut. -/
theorem PlainCut.front_eq (hline : line ∈ lineRules)
    (h : line.PlainCut (paragraphLetters value) pre b front back) :
    (∀ c ∈ front, isDigit c = true) ∧ (front ≠ [] ↔ line.numbered = true) := by
  obtain ⟨hi, -⟩ := h.character hline
  obtain ⟨spacing, digits, rfl, hspacing, hdigits, hnumbered⟩ := h.fronts
  cases spacing with
  | nil => exact ⟨hdigits, hnumbered⟩
  | cons s spacing =>
      have hfirst : (paragraphLetters value)[pre.length + 0]? = some (.plain b) := h.getElem? rfl
      have hsecond : (paragraphLetters value)[pre.length + 1]? = some (.plain s) := h.getElem? rfl
      rw [Nat.add_comm] at hsecond
      have hbreak :=
        not_isLineBreak_before_spacing (by omega) hsecond (hspacing s List.mem_cons_self)
        (getElem?_framedLetters_eq_some.mp hfirst).1
      change isLineBreak b = false at hbreak
      rw [h.lineBreak] at hbreak
      contradiction

/-- A row with letters left alone is exposed. -/
theorem PlainCut.isExposed (hline : line ∈ lineRules)
    (h : line.PlainCut (paragraphLetters value) pre b front back)
    {rest post : List Char} {b' : Char} (hback : back.map Letter.char = rest ++ b' :: post)
    (hb' : isLineBreak b' = true) : line.isExposed (front ++ line.character :: rest) = true := by
  obtain ⟨hdigits, hnumbered⟩ := h.front_eq hline
  have hrest : line.rest? (front ++ line.character :: rest) = some rest :=
    (rest?_eq_some hline).mpr ⟨front, rfl, hdigits, hnumbered⟩
  unfold LineRule.isExposed
  rw [hrest, Option.any_some]
  cases rest with
  | nil => rfl
  | cons x more =>
      have hallows := h.cut.allows
      rw [hback, List.cons_append, List.head?_cons] at hallows
      dsimp only
      rw [hallows, Bool.true_and, Bool.or_eq_true, Bool.not_eq_true', Bool.not_eq_true']
      by_contra hsingle
      rw [not_or, Bool.not_eq_false, Bool.not_eq_false, List.isEmpty_iff] at hsingle
      obtain ⟨hspacing, rfl⟩ := hsingle
      -- a single space or tab would stand before a line break
      have hfollows : ∀ line ∈ listMarkers, line.follows ≠ none := by decide
      obtain ⟨y, hy, -, hnext⟩ := h.exists_getElem?_next (hfollows line (h.mem_listMarkers hline))
      obtain rfl : y = x := by
        have hhead := congrArg List.head? hback
        rw [List.head?_map, hy] at hhead
        exact Option.some.inj hhead
      rw [show pre.length + (front.length + 2) =
        1 + (pre.length + front.length + 1) by omega] at hnext
      have hi : pre.length + front.length + 1 < value.length := by
        refine lt_of_getElem?_ownLines (getElem?_framedLetters_eq_some.mp hnext).1 ?_
        rintro rfl
        contradiction
      have hbehind :
          (ownLines.enclose value)[1 + (pre.length + front.length + 1) + 1]? = some b' := by
        have htext : ownLines.enclose value =
            (pre.map Letter.char ++ b :: (front ++ [line.character, y])) ++ b' :: post := by
          rw [h.cut_ownLines.text_eq, hback]
          simp
        rw [htext, ← Nat.add_zero (1 + (pre.length + front.length + 1) + 1)]
        exact getElem?_append_add _ _ (by simp; omega)
      have hbreak := not_isLineBreak_behind_spacing hi hnext hspacing hbehind
      rw [hb'] at hbreak
      contradiction

/-- **Letters left alone betray a row.** Where a rule about the start of a line matches letters left
alone, it is about list markers, and the marker of a row is missed: of the row that there are as
many line breaks before as in front of the letters. -/
theorem PlainCut.misses (hline : line ∈ lineRules)
    (h : line.PlainCut (paragraphLetters value) pre b front back) :
    line ∈ listMarkers ∧ line.misses value ((pre.map Letter.char).countP isLineBreak) = true := by
  have hmarker := h.mem_listMarkers hline
  have hcut := h.cut_ownLines
  have hoverlap := mem_overlapping_of_mem_listMarkers hmarker
  have hodd := mt (hcut.reportedAt_iff_even hoverlap rfl).mpr (h.not_reportedAt hline)
  obtain ⟨rest, b', post, hback, hb', hrow⟩ := hcut.exists_row hline getLast?_ownLines
  have htext : '\n' :: (value ++ ['\n']) =
      pre.map Letter.char ++ b :: ((front ++ line.character :: rest) ++ b' :: post) := by
    rw [List.append_assoc, List.cons_append, ← hback]
    exact hcut.text_eq
  obtain ⟨below, hrows⟩ := exists_rows_eq_of_cut h.lineBreak hb' hrow htext
  refine ⟨hmarker, misses_iff.mpr ⟨_, _, below, hrows, ?_, h.isExposed hline hback hb', ?_⟩⟩
  · rw [List.length_tail, length_rows, Nat.add_sub_cancel]
  · unfold bareAbove at hodd
    omega

/-! ## Rows whose letters are left alone -/

/-- A marker is flagged only for a match, which a search reports. -/
theorem exists_reportedAt_of_flaggedAt (hmarker : line ∈ listMarkers) {text : List Char}
    {place : Nat} (hc : text[place]? = some line.character)
    (hflag : FlaggedAt Rule.defaults paragraphStack text place) :
    ∃ pre b front, line.ReportedAt text pre ∧ text.take place = pre ++ b :: front ∧
      isLineBreak b = true ∧ line.Fronts front := by
  have hall : ∀ line ∈ listMarkers, ∀ rule ∈ Rule.defaults, rule.character = line.character →
      rule = line.rule := by
    simp +decide [listMarkers, LineRule.plus, LineRule.dash, LineRule.number, LineRule.rule,
      LineRule.before, LineRule.after, Rule.defaults, Rule.whitespaceRules, Rule.punctuationRules,
      Rule.anywhereIn, Rule.inlineMarkup, Rule.blockMarkup, Rule.make, Regex.oneOf]
  obtain ⟨rule, hmem, hflags, hcharacter⟩ := exists_rule_of_flaggedAt hc hflag
  obtain rfl := hall line hmarker rule hmem hcharacter
  obtain ⟨pre, lead, trail, post, hreported, rfl⟩ :=
    (Rule.mem_positions_make after_isUnmarked).mp hflags.2
  obtain ⟨b, front, rfl, hb, hfront⟩ := fits_context.mp hreported.lead_fits
  refine ⟨pre, b, front, ⟨_, _, _, hreported⟩, ?_, hb, hfront⟩
  rw [hreported.text_eq, ← List.append_assoc, ← List.length_append, List.take_left]

/-- What can follow a marker is a line break, a space or a tab, or the marker once more. -/
theorem cases_of_allows (hmarker : line ∈ listMarkers) {c : Char}
    (h : line.allows (some c) = true) :
    isLineBreak c = true ∨ isSpacing c = true ∨ c = line.character := by
  have hspace : ∀ c ∈ Rule.markerSpace, isLineBreak c = true ∨ isSpacing c = true := by
    simp [Rule.markerSpace, isLineBreak, isSpacing]
  rcases List.mem_cons.mp hmarker with rfl | hmarker
  · exact (hspace c (CharSet.contains_of.mp h)).imp_right .inl
  rcases List.mem_cons.mp hmarker with rfl | hmarker
  · rcases List.mem_append.mp (CharSet.contains_of.mp h) with hc | hc
    · exact (hspace c hc).imp_right .inl
    · exact .inr (.inr (List.mem_singleton.mp hc))
  obtain rfl := List.mem_singleton.mp hmarker
  exact (hspace c (CharSet.contains_of.mp h)).imp_right .inl

/-- An exposed row, with what follows its marker on the row or behind it. -/
theorem exists_next_of_isExposed (hmarker : line ∈ listMarkers) {row post : List Char} {b' : Char}
    (hexposed : line.isExposed row = true) (hb' : isLineBreak b' = true)
    (hrow : ∀ c ∈ row, isLineBreak c = false) :
    ∃ front x others, row ++ b' :: post = front ++ line.character :: x :: others ∧
      (∀ c ∈ front, isDigit c = true) ∧ (front ≠ [] ↔ line.numbered = true) ∧
      line.allows (some x) = true ∧
      (isSpacing x = true → ∃ y more, others = y :: more ∧ isLineBreak y = false) := by
  obtain ⟨rest, hrest, hnext⟩ := (Option.any_eq_true _ _).mp hexposed
  obtain ⟨front, rfl, hdigits, hnumbered⟩ :=
    (rest?_eq_some (mem_lineRules_of_mem_listMarkers line hmarker)).mp hrest
  cases rest with
  | nil =>
      have hallows := allows_lineBreak (mem_overlapping_of_mem_listMarkers hmarker) hb'
      refine ⟨front, b', post, by simp, hdigits, hnumbered, hallows, fun hspacing => ?_⟩
      rw [isLineBreak_of_isSpacing hspacing] at hb'
      contradiction
  | cons x more =>
      rw [Bool.and_eq_true, Bool.or_eq_true, Bool.not_eq_true', Bool.not_eq_true'] at hnext
      refine ⟨front, x, more ++ b' :: post, by simp, hdigits, hnumbered, hnext.1,
        fun hspacing => ?_⟩
      cases more with
      | nil =>
          rw [hspacing] at hnext
          rcases hnext.2 with h | h <;> contradiction
      | cons y more => exact ⟨y, more ++ b' :: post, rfl, hrow y (by simp)⟩

section unescaped

variable {text pre back : List Char}

/-- The marker itself is not flagged if a search does not report its match. -/
theorem not_flaggedAt_character (hmarker : line ∈ listMarkers)
    (hcut : line.Cut text pre b front back) (hreported : ¬ line.ReportedAt text pre) :
    ¬ FlaggedAt Rule.defaults paragraphStack text (pre.length + (front.length + 1)) := by
  intro hflag
  obtain ⟨pre', b', front', hreported', htake, hb', hfront'⟩ :=
    exists_reportedAt_of_flaggedAt hmarker (hcut.getElem? 0) hflag
  obtain ⟨rfl, -, -⟩ := eq_of_append_lineBreak hcut.lineBreak hb' hcut.fronts.isLineBreak_eq_false
    hfront'.isLineBreak_eq_false (hcut.take_eq.symm.trans htake)
  exact hreported hreported'

/-- What can follow a marker is not flagged there. -/
theorem not_flaggedAt_next (hmarker : line ∈ listMarkers) {x : Char}
    (hcut : line.Cut text pre b front (x :: back))
    (hspacing : isSpacing x = true → ∃ y more, back = y :: more ∧ isLineBreak y = false) :
    ¬ FlaggedAt Rule.defaults paragraphStack text (pre.length + (front.length + 2)) := by
  have hline := mem_lineRules_of_mem_listMarkers line hmarker
  have hcharacter := (character_of_mem_lineRules line hline).1
  have hx : text[pre.length + (front.length + 2)]? = some x := hcut.getElem? 1
  rcases cases_of_allows hmarker hcut.allows with hbreak | hspace | rfl
  · exact not_flaggedAt_of_isLineBreak hx hbreak
  · intro hflag
    obtain ⟨y, more, rfl, hy⟩ := hspacing hspace
    obtain ⟨d, hd, hbehind | ⟨k, hk, hbefore⟩⟩ :=
      exists_lineBreak_of_flaggedAt_spacing hx hspace hflag
    · rw [show pre.length + (front.length + 2) + 1 = pre.length + (front.length + 1 + 2) by omega,
        hcut.getElem? 2] at hbehind
      rw [← Option.some.inj hbehind, hy] at hd
      contradiction
    · rw [show k = pre.length + (front.length + 1 + 0) by omega, hcut.getElem? 0] at hbefore
      rw [← Option.some.inj hbefore, hcharacter] at hd
      contradiction
  · -- a second marker does not begin a line
    intro hflag
    obtain ⟨pre', b', front', -, htake, hb', hfront'⟩ :=
      exists_reportedAt_of_flaggedAt hmarker hx hflag
    have htext :
        text.take (pre.length + (front.length + 2)) = (pre ++ b :: front) ++ [line.character] := by
      rw [show pre.length + (front.length + 2) = pre.length + (front.length + 1) + 1 by omega,
        List.take_add_one, hcut.take_eq,
        show pre.length + (front.length + 1) = pre.length + (front.length + 1 + 0) by omega,
        hcut.getElem? 0]
      rfl
    have hmem : line.character ∈ b' :: front' := by
      rw [htext] at htake
      rcases List.eq_nil_or_concat (b' :: front') with hnil | ⟨more, e, hmore⟩
      · contradiction
      · rw [hmore, List.concat_eq_append, ← List.append_assoc] at htake
        rw [hmore, (List.cons.inj (List.append_inj' htake rfl).2).1, List.concat_eq_append]
        exact List.mem_append_right more List.mem_cons_self
    exact avoids_context hline 0 _ [] (fits_context.mpr ⟨b', front', rfl, hb', hfront'⟩) hmem

end unescaped

/-- **A row whose marker is missed leaves letters alone.** Neither the marker nor what the rule
about it looks at is escaped. -/
theorem exists_plainCut_of_misses (hmarker : line ∈ listMarkers) {n : Nat}
    (h : line.misses value n = true) :
    ∃ pre b front back, line.PlainCut (paragraphLetters value) pre b front back ∧
      (pre.map Letter.char).countP isLineBreak = n := by
  obtain ⟨above, row, below, hrows, rfl, hexposed, hodd⟩ := misses_iff.mp h
  obtain ⟨pre, b, b', post, htext, hb, hb', rfl, hrow⟩ := exists_cut_of_rows_eq hrows
  obtain ⟨front, x, others, hbehind, hdigits, hnumbered, hallows, hspacing⟩ :=
    exists_next_of_isExposed hmarker hexposed hb' hrow
  have hfront : line.Fronts front :=
    ⟨[], front, rfl, fun c hc => absurd hc List.not_mem_nil, hdigits, hnumbered⟩
  have hcut : line.Cut (ownLines.enclose value) pre b front (x :: others) := by
    refine ⟨?_, hb, hfront, hallows⟩
    rw [← hbehind]
    exact htext
  have hreported : ¬ line.ReportedAt (ownLines.enclose value) pre := by
    rw [hcut.reportedAt_iff_even (mem_overlapping_of_mem_listMarkers hmarker) rfl, bareAbove]
    omega
  have hsegment :
      ownLines.enclose value = pre ++ ((b :: (front ++ [line.character, x])) ++ others) := by
    rw [hcut.text_eq]
    simp
  have hnot : ∀ k c, (b :: (front ++ [line.character, x]))[k]? = some c →
      ¬ FlaggedAt Rule.defaults paragraphStack (ownLines.enclose value) (pre.length + k) := by
    intro k c hk
    have hplace : (ownLines.enclose value)[pre.length + k]? = some c := by
      rw [hsegment, getElem?_append_add _ _ rfl,
        List.getElem?_append_left (List.getElem?_eq_some_iff.mp hk).1, hk]
    cases k with
    | zero =>
        obtain rfl := Option.some.inj hk
        exact not_flaggedAt_of_isLineBreak hplace hb
    | succ k =>
        rw [List.getElem?_cons_succ] at hk
        rcases Nat.lt_or_ge k front.length with hlt | hge
        · rw [List.getElem?_append_left hlt] at hk
          exact not_flaggedAt_of_isDigit hplace (hdigits c (List.mem_iff_getElem?.mpr ⟨k, hk⟩))
        · obtain ⟨j, rfl⟩ := Nat.exists_eq_add_of_le hge
          rw [getElem?_append_add _ _ rfl] at hk
          match j with
          | 0 => exact not_flaggedAt_character hmarker hcut hreported
          | 1 => exact not_flaggedAt_next hmarker hcut hspacing
          | j + 2 => contradiction
  obtain ⟨before, after, hletters, hbefore, -⟩ := exists_plain_of_not_flaggedAt hsegment hnot
  refine ⟨before, b, front, .plain x :: after, ⟨?_, hb, hfront, hallows, fun _ => ⟨x, after, rfl⟩⟩,
    ?_⟩
  · rw [paragraphLetters, hletters]
    simp
  · rw [hbefore, List.length_tail, length_rows, Nat.add_sub_cancel]

/-! ## Starts of lines in what is written -/

/-- What is escaped in a paragraph is no line break. -/
theorem isLineBreak_of_mem_paragraphLetters : ∀ letter ∈ paragraphLetters value,
    letter.escaped = true → isLineBreak letter.char = false := by
  intro letter hmem hescaped
  obtain ⟨place, hplace⟩ := List.mem_iff_getElem?.mp hmem
  obtain ⟨hc, hiff⟩ := getElem?_framedLetters_eq_some.mp hplace
  obtain ⟨i, -, rfl, hflag, -⟩ := hiff.mp hescaped
  rw [← Bool.not_eq_true]
  intro hbreak
  exact not_flaggedAt_of_isLineBreak hc hbreak hflag

/-- The text of a paragraph is written on its own lines. -/
theorem writeLetters_paragraphLetters (value : List Char) :
    writeLetters [] none (paragraphLetters value) = ownLines.enclose (paragraphText value) :=
  @writeLetters_framedLetters Rule.defaults paragraphStack value ownLines (by decide) (by decide)

/-- Letters in a paragraph's text have as many line breaks as what is written for them. -/
theorem PlainCut.countP_isLineBreak (h : line.PlainCut (paragraphLetters value) pre b front back) :
    (writeLetters [] (some b) pre).countP isLineBreak =
      (pre.map Letter.char).countP isLineBreak := by
  apply countP_isLineBreak_writeLetters
  intro letter hmem
  apply @isLineBreak_of_mem_paragraphLetters value letter
  rw [h.all_eq]
  exact List.mem_append_left _ hmem

/-- **Which rows of a paragraph start with a marker.** There is a cut on a row of what is written
exactly if the rule is about list markers and the marker of the same row of the text is missed. -/
theorem exists_cut_paragraphText_iff (hline : line ∈ lineRules) {n : Nat} :
    (∃ pre b front back, line.Cut (ownLines.enclose (paragraphText value)) pre b front back ∧
        pre.countP isLineBreak = n) ↔
      line ∈ listMarkers ∧ line.misses value n = true := by
  rw [← writeLetters_paragraphLetters]
  constructor
  · rintro ⟨_, b, front, back, hcut, rfl⟩
    obtain ⟨pre, rest, rfl, hplain⟩ := hcut.exists_plainCut hline
    rw [hplain.countP_isLineBreak]
    exact hplain.misses hline
  · rintro ⟨hmarker, hmisses⟩
    obtain ⟨pre, b, front, back, hplain, rfl⟩ := exists_plainCut_of_misses hmarker hmisses
    exact ⟨_, b, front, _, hplain.cut_writeLetters hline [], hplain.countP_isLineBreak⟩

/-- On lines of its own a text is matched by a rule where there are cuts. -/
theorem exists_matchesAt_ownLines_iff (hline : line ∈ lineRules) {text : List Char} {n : Nat} :
    (∃ i < text.length, line.rule.MatchesAt (ownLines.enclose text) (i + 1) ∧ rowAt text i = n) ↔
      ∃ pre b front back, line.Cut (ownLines.enclose text) pre b front back ∧
        pre.countP isLineBreak = n := by
  have hlast : (ownLines.enclose text).getLast? ≠ some line.character := by
    rw [getLast?_ownLines]
    exact lineBreak_ne_character hline
  have hrow : ∀ {pre b front back} {i : Nat}, line.Cut (ownLines.enclose text) pre b front back →
      i < text.length → i + 1 = pre.length + (front.length + 1) →
      rowAt text i = pre.countP isLineBreak := by
    intro pre b front back i hcut hi hplace
    have htake := hcut.take_eq
    rw [← hplace] at htake
    change '\n' :: (text ++ ['\n']).take i = _ at htake
    have hcount := congrArg (List.countP isLineBreak) htake
    have hfront : front.countP isLineBreak = 0 :=
      List.countP_eq_zero.mpr fun c hc => by
        rw [hcut.fronts.isLineBreak_eq_false c hc]; exact Bool.false_ne_true
    rw [List.take_append_of_le_length (Nat.le_of_lt hi), List.countP_append,
      List.countP_cons_of_pos rfl, List.countP_cons_of_pos hcut.lineBreak, hfront] at hcount
    exact Nat.succ.inj hcount
  constructor
  · rintro ⟨i, hi, hmatches, rfl⟩
    obtain ⟨pre, b, front, back, hcut, hplace⟩ :=
      (matchesAt_rule_iff hline fun _ => hlast).mp hmatches
    exact ⟨pre, b, front, back, hcut, (hrow hcut hi hplace).symm⟩
  · rintro ⟨pre, b, front, back, hcut, rfl⟩
    have hplace : pre.length + front.length + 1 = pre.length + (front.length + 1) :=
      Nat.add_assoc _ _ _
    have hi : pre.length + front.length < text.length := by
      refine lt_of_getElem?_ownLines (c := line.character) ?_ fun heq => ?_
      · rw [show 1 + (pre.length + front.length) = pre.length + (front.length + 1 + 0) by omega]
        exact hcut.getElem? 0
      · exact lineBreak_ne_character hline (congrArg some heq.symm)
    exact ⟨pre.length + front.length, hi,
      (matchesAt_rule_iff hline fun _ => hlast).mpr ⟨pre, b, front, back, hcut, hplace⟩,
      hrow hcut hi hplace⟩

end LineRule

end MarkdownWriter
