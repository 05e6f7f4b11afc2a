import MarkdownWriter.Proofs.Escape.Defaults
import MarkdownWriter.Proofs.Text.Rows

/-!
# Rules about the start of a line

The rules of Markdown about the start of a line are of one form (`LineRule`): a line break, spaces
and tabs, perhaps a number, the character, and what may follow it. `lineRules` lists them, and they
are all there are among the default rules (`exists_lineRule_iff`).

* **Where they match** can be said without expressions: at a cut of the text at a line break and at
  the character that starts the line behind it (`LineRule.Cut`, `LineRule.matchesAt_rule_iff`). What
  is put in front of a text moves its cuts, and what is put behind it makes none
  (`LineRule.Cut.append_left`, `LineRule.cut_concat_iff`).
* **Which matches are reported** (`LineRule.ReportedAt`): all but one that begins with the line
  break that a reported match ends with (`LineRule.Cut.reported_or_behind`).
* **Where nothing is flagged** (`not_mem_positions_of_take`): behind a visible character of the same
  line that is no digit.
-/

namespace MarkdownWriter

open Text

/-! ## The rules -/

/-- A rule about the start of a line. -/
structure LineRule where
  character : Char
  /-- Whether a number stands between the start of the line and the character. -/
  numbered : Bool := false
  /-- What has to follow the character, if anything. -/
  follows : Option CharSet := none
  /-- Whether the end of the text may follow instead. -/
  orFinish : Bool := false
  deriving DecidableEq, Repr

namespace LineRule

/-- What is asked for between the start of the line and the character. -/
def before (line : LineRule) : Option Regex :=
  if line.numbered then some Rule.number else none

/-- What is asked for behind the character. -/
def after (line : LineRule) : Option Regex :=
  line.follows.map fun s => if line.orFinish then .alt (.set s) .finish else .set s

/-- The rule itself. -/
def rule (line : LineRule) : Rule :=
  Rule.blockMarkup line.character line.before line.after

/-- The start of a list item. -/
def plus : LineRule where
  character := '+'
  follows := some (.of Rule.markerSpace)

/-- The start of a list item, a thematic break or the underline of a heading. -/
def dash : LineRule where
  character := '-'
  follows := some (.of (Rule.markerSpace ++ ['-']))

/-- The start of an item of an ordered list. -/
def number : LineRule where
  character := '.'
  numbered := true
  follows := some (.of Rule.markerSpace)
  orFinish := true

end LineRule

/-- The rules about list items whose character is not unsafe in inline content anyway. -/
def listMarkers : List LineRule :=
  [.plus, .dash, .number]

/-- All rules about the start of a line. -/
def lineRules : List LineRule := [
  ⟨'#', false, none, false⟩,
  ⟨')', true, none, false⟩,
  ⟨'*', false, some (.of (Rule.markerSpace ++ ['*'])), false⟩,
  .plus,
  .dash,
  .number,
  ⟨'<', false, some ⟨false, [('!', '!'), ('/', '/'), ('?', '?'), ('A', 'Z'), ('a', 'z')]⟩, false⟩,
  ⟨'=', false, none, false⟩,
  ⟨'>', false, none, false⟩,
  ⟨'[', false, none, false⟩,
  ⟨'_', false, none, false⟩,
  ⟨'\x60', false, none, false⟩,
  ⟨'~', false, none, false⟩]

/-- These are all the rules of Markdown about the start of a line. -/
theorem filter_atBreak_defaults : Rule.defaults.filter (·.atBreak) = lineRules.map LineRule.rule :=
  rfl

/-- The rules about the start of a line are the rules of the form. -/
theorem exists_lineRule_iff {rule : Rule} :
    rule ∈ Rule.defaults ∧ rule.atBreak = true ↔ ∃ line ∈ lineRules, rule = line.rule := by
  rw [← List.mem_filter, filter_atBreak_defaults, List.mem_map]
  simp only [eq_comm]

namespace LineRule

variable {line : LineRule}

/-- The characters of the rules mean nothing else before them, and begin no escape. -/
theorem character_of_mem_lineRules : ∀ line ∈ lineRules,
    isLineBreak line.character = false ∧ isSpacing line.character = false ∧
      isDigit line.character = false ∧ line.character ≠ '\\' ∧ line.character ≠ '&' := by
  decide

theorem after_isUnmarked : line.after.all Regex.isUnmarked = true := by
  unfold after
  cases line.follows with
  | none => rfl
  | some s => cases line.orFinish <;> rfl

/-! ## Where a rule matches -/

/-- What may stand between a line break and the character: spaces and tabs, then a number if one is
asked for. -/
def Fronts (line : LineRule) (front : List Char) : Prop :=
  ∃ spacing digits, front = spacing ++ digits ∧ (∀ c ∈ spacing, isSpacing c = true) ∧
    (∀ c ∈ digits, isDigit c = true) ∧ (digits ≠ [] ↔ line.numbered = true)

/-- Whether a character may follow that of the rule. -/
def allows (line : LineRule) (next : Option Char) : Bool :=
  line.follows.all fun s => next.any s.contains

/-- A cut of a text at a line break and at the character that starts the line behind it. -/
structure Cut (line : LineRule) (text pre : List Char) (b : Char) (front back : List Char) :
    Prop where
  text_eq : text = pre ++ b :: (front ++ line.character :: back)
  lineBreak : isLineBreak b = true
  fronts : line.Fronts front
  allows : line.allows back.head? = true

/-- A row of one kind of characters in front holds nothing but spaces, tabs and digits. -/
theorem Fronts.of_mem {front : List Char} (h : line.Fronts front) {c : Char} (hc : c ∈ front) :
    isSpacing c = true ∨ isDigit c = true := by
  obtain ⟨spacing, digits, rfl, hspacing, hdigits, -⟩ := h
  exact (List.mem_append.mp hc).imp (hspacing c) (hdigits c)

/-- A visible character that is no digit is not among spaces, tabs and digits. -/
theorem not_mem_of_spacing_or_digit {front : List Char}
    (hfront : ∀ c ∈ front, isSpacing c = true ∨ isDigit c = true)
    {c : Char} (hspacing : isSpacing c = false) (hdigit : isDigit c = false) : c ∉ front := by
  intro hmem
  rcases hfront c hmem with h | h
  · exact Bool.false_ne_true (hspacing.symm.trans h)
  · exact Bool.false_ne_true (hdigit.symm.trans h)

theorem Fronts.not_mem {front : List Char} (h : line.Fronts front) {c : Char}
    (hspacing : isSpacing c = false) (hdigit : isDigit c = false) : c ∉ front :=
  not_mem_of_spacing_or_digit (fun _ hc => h.of_mem hc) hspacing hdigit

/-- There is no line break in front. -/
theorem Fronts.isLineBreak_eq_false {front : List Char} (h : line.Fronts front) :
    ∀ c ∈ front, isLineBreak c = false := by
  intro c hc
  exact (h.of_mem hc).elim isLineBreak_of_isSpacing isLineBreak_of_isDigit

/-- What the rule takes before its character. -/
theorem fits_context {offset : Nat} {lead rest : List Char} :
    Fits (Rule.context true line.before) offset lead rest ↔
      ∃ b front, lead = b :: front ∧ isLineBreak b = true ∧ line.Fronts front := by
  have hdigit : ∀ c, CharSet.contains ⟨false, [('0', '9')]⟩ c = true ↔ isDigit c = true := by
    simp [CharSet.contains, isDigit]
  unfold before Rule.context Fronts
  cases line.numbered with
  | false =>
      simp only [Bool.false_eq_true, if_false, iff_false, ne_eq, Classical.not_not, fits_some,
        Rule.takes_lineStart]
      constructor
      · rintro ⟨b, spacing, rfl, hb, hspacing⟩
        exact ⟨b, spacing, rfl, hb, spacing, [], (List.append_nil spacing).symm, hspacing,
          fun c hc => absurd hc List.not_mem_nil, rfl⟩
      · rintro ⟨b, _, rfl, hb, spacing, _, rfl, hspacing, -, rfl⟩
        exact ⟨b, spacing, by rw [List.append_nil], hb, hspacing⟩
  | true =>
      simp only [if_true, iff_true, fits_some, Regex.takes_seq, Rule.takes_lineStart, Rule.number,
        Regex.takes_plus_set, hdigit]
      constructor
      · rintro ⟨_, digits, rfl, ⟨b, spacing, rfl, hb, hspacing⟩, hne, hdigits⟩
        exact ⟨b, spacing ++ digits, rfl, hb, spacing, digits, rfl, hspacing, hdigits, hne⟩
      · rintro ⟨b, _, rfl, hb, spacing, digits, rfl, hspacing, hdigits, hne⟩
        exact ⟨b :: spacing, digits, rfl, ⟨b, spacing, rfl, hb, hspacing⟩, hne, hdigits⟩

/-- What the rule takes behind its character. -/
theorem fits_after {offset : Nat} {trail rest : List Char} :
    Fits line.after offset trail rest ↔
      (line.follows = none ∧ trail = []) ∨
        (∃ s x, line.follows = some s ∧ s.contains x = true ∧ trail = [x]) ∨
          (line.follows.isSome = true ∧ line.orFinish = true ∧ trail = [] ∧ rest = []) := by
  unfold after
  cases line.follows with
  | none => simp
  | some s => cases line.orFinish <;> simp

/-- The character does not occur before itself. -/
theorem avoids_context (hline : line ∈ lineRules) :
    Avoids (Rule.context true line.before) line.character := by
  obtain ⟨hbreak, hspacing, hdigit, -⟩ := character_of_mem_lineRules line hline
  intro offset lead rest h hmem
  obtain ⟨b, front, rfl, hb, hfront⟩ := fits_context.mp h
  rcases List.mem_cons.mp hmem with heq | hmem
  · rw [heq, hb] at hbreak
    contradiction
  · exact hfront.not_mem hspacing hdigit hmem

section cuts

variable {text pre front back : List Char} {b : Char}

/-- The text from the character of a cut on. -/
theorem Cut.getElem? (h : line.Cut text pre b front back) (k : Nat) :
    text[pre.length + (front.length + 1 + k)]? = (line.character :: back)[k]? := by
  rw [h.text_eq, getElem?_append_add _ _ rfl]
  exact getElem?_append_add (b :: front) (line.character :: back) rfl

/-- The text up to the character of a cut. -/
theorem Cut.take_eq (h : line.Cut text pre b front back) :
    text.take (pre.length + (front.length + 1)) = pre ++ b :: front := by
  rw [h.text_eq, ← List.cons_append, ← List.append_assoc]
  exact List.take_left' (by simp)

/-- A cut stays one behind more text. -/
theorem Cut.append_left (h : line.Cut text pre b front back) (context : List Char) :
    line.Cut (context ++ text) (context ++ pre) b front back where
  text_eq := by rw [h.text_eq, List.append_assoc]
  lineBreak := h.lineBreak
  fronts := h.fronts
  allows := h.allows

/-- Cuts are hits. -/
theorem Cut.exists_hit (h : line.Cut text pre b front back) :
    ∃ trail post, Hit line.character (Rule.context true line.before) line.after text pre
      (b :: front) trail post := by
  have hlead : ∀ {offset : Nat} {rest : List Char},
      Fits (Rule.context true line.before) offset (b :: front) rest :=
    fits_context.mpr ⟨b, front, rfl, h.lineBreak, h.fronts⟩
  have hallows := h.allows
  unfold LineRule.allows at hallows
  cases hfollows : line.follows with
  | none => exact ⟨[], back, ⟨h.text_eq, hlead, fits_after.mpr (.inl ⟨hfollows, rfl⟩)⟩⟩
  | some s =>
      rw [hfollows, Option.all_some] at hallows
      cases back with
      | nil => contradiction
      | cons x post =>
          exact ⟨[x], post,
            ⟨h.text_eq, hlead, fits_after.mpr (.inr (.inl ⟨s, x, hfollows, hallows, rfl⟩))⟩⟩

/-- A hit at the place of a cut is the same cut. -/
theorem Cut.eq_of_hit (hline : line ∈ lineRules) (h : line.Cut text pre b front back)
    {lead trail post : List Char}
    (hhit : Hit line.character (Rule.context true line.before) line.after text pre lead trail
      post) :
    lead = b :: front ∧ trail ++ post = back := by
  have havoids := avoids_context hline
  have hlead :
      Fits (Rule.context true line.before) pre.length (b :: front) (line.character :: back) :=
    fits_context.mpr ⟨b, front, rfl, h.lineBreak, h.fronts⟩
  have htext : lead ++ line.character :: (trail ++ post) = b :: front ++ line.character :: back :=
    List.append_cancel_left (hhit.text_eq.symm.trans h.text_eq)
  obtain rfl := eq_of_append_cons_eq (havoids _ _ _ hhit.lead_fits) (havoids _ _ _ hlead) htext
  exact ⟨rfl, (List.cons.inj (List.append_cancel_left htext)).2⟩

/-- Hits are cuts if something stands behind the character, or the end of the text may not follow
it. -/
theorem exists_cut_of_hit {lead trail post : List Char}
    (hlast : line.orFinish = true → trail ++ post ≠ [])
    (h : Hit line.character (Rule.context true line.before) line.after text pre lead trail post) :
    ∃ b front, lead = b :: front ∧ line.Cut text pre b front (trail ++ post) := by
  obtain ⟨b, front, rfl, hb, hfront⟩ := fits_context.mp h.lead_fits
  refine ⟨b, front, rfl, h.text_eq, hb, hfront, ?_⟩
  unfold LineRule.allows
  rcases fits_after.mp h.trail_fits with ⟨hfollows, -⟩ | ⟨s, x, hfollows, hx, rfl⟩ |
      ⟨-, hfinish, rfl, rfl⟩
  · rw [hfollows]
    rfl
  · rw [hfollows]
    exact hx
  · exact absurd rfl (hlast hfinish)

/-- A rule matches where there are cuts. -/
theorem matchesAt_rule_iff (hline : line ∈ lineRules)
    (hlast : line.orFinish = true → text.getLast? ≠ some line.character) {offset : Nat} :
    line.rule.MatchesAt text offset ↔
      ∃ pre b front back, line.Cut text pre b front back ∧
        offset = pre.length + (front.length + 1) := by
  unfold rule Rule.blockMarkup
  rw [Rule.matchesAt_make after_isUnmarked (avoids_context hline)]
  constructor
  · rintro ⟨pre, lead, trail, post, hhit, rfl⟩
    obtain ⟨b, front, rfl, hcut⟩ :=
      exists_cut_of_hit (fun hfinish => hhit.ne_nil_of_getLast? (hlast hfinish)) hhit
    exact ⟨pre, b, front, _, hcut, rfl⟩
  · rintro ⟨pre, b, front, back, hcut, rfl⟩
    obtain ⟨trail, post, hhit⟩ := hcut.exists_hit
    exact ⟨pre, b :: front, trail, post, hhit, rfl⟩

/-- Something stands behind the character of a cut if the text does not end with it. -/
theorem Cut.back_ne_nil (h : line.Cut text pre b front back)
    (hlast : text.getLast? ≠ some line.character) :
    back ≠ [] := by
  rintro rfl
  refine hlast ?_
  rw [h.text_eq, ← List.cons_append, ← List.append_assoc, List.getLast?_concat]

/-- What is added behind a text makes no cuts and takes none away if neither ends with the
character. -/
theorem cut_concat_iff {c : Char} (hlast : text.getLast? ≠ some line.character)
    (hc : c ≠ line.character) :
    line.Cut (text ++ [c]) pre b front back ↔ ∃ more, back = more ++ [c] ∧
      line.Cut text pre b front more := by
  constructor
  · intro h
    have hback := h.back_ne_nil (by rwa [List.getLast?_concat, ne_eq, Option.some_inj])
    obtain ⟨more, d, rfl⟩ := (List.eq_nil_or_concat back).resolve_left hback
    have htext : text ++ [c] = (pre ++ b :: (front ++ line.character :: more)) ++ [d] := by
      rw [h.text_eq]
      simp
    obtain ⟨rfl, hd⟩ := List.append_inj' htext rfl
    obtain rfl := (List.cons.inj hd).1
    refine ⟨more, List.concat_eq_append, rfl, h.lineBreak, h.fronts, ?_⟩
    have hallows := h.allows
    cases more with
    | nil =>
        exact absurd (by rw [← List.cons_append, ← List.append_assoc, List.getLast?_concat]) hlast
    | cons x more => exact hallows
  · rintro ⟨more, rfl, h⟩
    refine ⟨by rw [h.text_eq]; simp, h.lineBreak, h.fronts, ?_⟩
    have hallows := h.allows
    obtain ⟨x, more, rfl⟩ := List.exists_cons_of_ne_nil (h.back_ne_nil hlast)
    exact hallows

end cuts

/-! ## Which matches are reported -/

/-- A search for the rule's expression reports a match that begins behind `pre`. -/
def ReportedAt (line : LineRule) (text pre : List Char) : Prop :=
  ∃ lead trail post,
    Reported line.character (Rule.context true line.before) line.after text pre lead trail post

section reports

variable {text pre front back : List Char} {b : Char}

/-- A match is reported unless it begins with the line break that a reported match ends with. -/
theorem Cut.reported_or_behind (hline : line ∈ lineRules) (h : line.Cut text pre b front back) :
    line.ReportedAt text pre ∨
      ∃ pre' lead' post',
        Reported line.character (Rule.context true line.before) line.after text pre' lead'
          [b] post' ∧ pre = pre' ++ (lead' ++ [line.character]) := by
  obtain ⟨trail, post, hhit⟩ := h.exists_hit
  rcases hhit.reported_or_inside after_isUnmarked (avoids_context hline) with
    ⟨trail', post', hreported⟩ | ⟨pre', lead', trail', post', start, d, rest, hreported, htaken,
      hstart, hpre, hrest⟩
  · exact .inl ⟨b :: front, trail', post', hreported⟩
  · right
    obtain rfl : b = d := (List.cons.inj hrest).1
    obtain ⟨b', front', rfl, -, hfront'⟩ := fits_context.mp hreported.lead_fits
    obtain ⟨start', rfl⟩ : ∃ start', start = b' :: start' := by
      obtain ⟨e, start', rfl⟩ := List.exists_cons_of_ne_nil hstart
      exact ⟨start', by rw [(List.cons.inj htaken).1]⟩
    have htaken : front' ++ line.character :: trail' = start' ++ b :: rest :=
      (List.cons.inj htaken).2
    -- the line break is behind the character, as there is none up to it
    have hnone : ∀ more, front' ++ [line.character] ≠ start' ++ b :: more := by
      intro more heq
      have hb : b ∈ front' ++ [line.character] := by
        rw [heq]
        exact List.mem_append_right start' List.mem_cons_self
      have hbreak := h.lineBreak
      rcases List.mem_append.mp hb with hb | hb
      · rw [hfront'.isLineBreak_eq_false b hb] at hbreak
        contradiction
      · rw [List.mem_singleton.mp hb, (character_of_mem_lineRules line hline).1] at hbreak
        contradiction
    rcases fits_after.mp hreported.trail_fits with ⟨-, rfl⟩ | ⟨s, x, -, -, rfl⟩ | ⟨-, -, rfl, -⟩
    · exact absurd htaken (hnone rest)
    · rw [← List.singleton_append, ← List.append_assoc] at htaken
      rcases List.eq_nil_or_concat rest with rfl | ⟨more, y, rfl⟩
      · obtain ⟨rfl, hx⟩ := List.append_inj' htaken rfl
        obtain rfl := (List.cons.inj hx).1
        exact ⟨pre', _, post', hreported, hpre⟩
      · rw [List.concat_eq_append, ← List.cons_append, ← List.append_assoc] at htaken
        exact absurd (List.append_inj' htaken rfl).1 (hnone more)
    · exact absurd htaken (hnone rest)

/-- The character of a reported match is flagged wherever the rule is among those that are asked. -/
theorem ReportedAt.flaggedAt (hline : line ∈ lineRules) (h : line.Cut text pre b front back)
    (hreported : line.ReportedAt text pre) (stack : List Construct) :
    line.rule ∈ Rule.defaults ∧ line.rule.FlagsAt stack text (pre.length + (front.length + 1)) := by
  have happlies : line.rule.applies stack = true := by
    simp [rule, Rule.blockMarkup, Rule.make, Rule.applies]
  obtain ⟨lead, trail, post, hreported⟩ := hreported
  obtain ⟨rfl, -⟩ := h.eq_of_hit hline hreported.toHit
  exact ⟨(exists_lineRule_iff.mpr ⟨line, hline, rfl⟩).1, happlies,
    (Rule.mem_positions_make after_isUnmarked).mpr ⟨pre, b :: front, trail, post, hreported, rfl⟩⟩

end reports

end LineRule

/-! ## Behind a character -/

/-- A stretch of a text that does not hold the last character of a front lies behind the front. -/
theorem exists_append_behind {context pre above row : List Char} {b c : Char}
    (h : context ++ [c] ++ pre = above ++ b :: row) (hb : c ≠ b) (hrow : c ∉ row) :
    ∃ more, above = context ++ [c] ++ more ∧ pre = more ++ b :: row := by
  rcases List.append_eq_append_iff.mp h with ⟨more, habove, hpre⟩ | ⟨more, hcontext, hrest⟩
  · exact ⟨more, habove, hpre⟩
  · cases more with
    | nil =>
        rw [List.append_nil] at hcontext
        exact ⟨[], by rw [hcontext, List.append_nil], hrest.symm⟩
    | cons d more =>
        obtain ⟨rfl, hrow'⟩ := List.cons.inj hrest
        have hmem : c ∈ b :: more := by
          have hlast : (above ++ b :: more).getLast? = some c := by
            rw [← hcontext, List.getLast?_concat]
          exact List.mem_of_getLast? (by simpa [List.getLast?_append,
            List.getLast?_cons] using hlast)
        rcases List.mem_cons.mp hmem with heq | hmem
        · exact absurd heq hb
        · refine absurd ?_ hrow
          rw [hrow']
          exact List.mem_append_left pre hmem

section behind

variable {rule : Rule} {text : List Char} {offset : Nat}

/-- A line break stands before whatever a rule about the start of a line flags, with nothing but
spaces, tabs and digits between. -/
theorem exists_lineBreak_of_mem_positions (hmem : rule ∈ Rule.defaults)
    (hbreak : rule.atBreak = true) (h : offset ∈ rule.positions text) :
    ∃ pre b front, text.take offset = pre ++ b :: front ∧ isLineBreak b = true ∧
      ∀ c ∈ front, isSpacing c = true ∨ isDigit c = true := by
  obtain ⟨line, hline, rfl⟩ := exists_lineRule_iff.mp ⟨hmem, hbreak⟩
  obtain ⟨pre, lead, trail, post, hreported, rfl⟩ :=
    (Rule.mem_positions_make LineRule.after_isUnmarked).mp h
  obtain ⟨b, front, rfl, hb, hfront⟩ := LineRule.fits_context.mp hreported.lead_fits
  refine ⟨pre, b, front, ?_, hb, fun c hc => hfront.of_mem hc⟩
  rw [hreported.text_eq, ← List.append_assoc]
  exact List.take_left' (by simp)

/-- Behind a visible character that is no digit, and before the next line break, no rule about the
start of a line flags anything. -/
theorem not_mem_positions_of_take (hmem : rule ∈ Rule.defaults) (hbreak : rule.atBreak = true)
    {front tail : List Char} {c : Char} (htake : text.take offset = front ++ c :: tail)
    (hc : isLineBreak c = false ∧ isSpacing c = false ∧ isDigit c = false)
    (htail : ∀ d ∈ tail, isLineBreak d = false) : offset ∉ rule.positions text := by
  intro h
  obtain ⟨pre, b, between, hpre, hb, hbetween⟩ := exists_lineBreak_of_mem_positions hmem hbreak h
  have hne : c ≠ b := by
    rintro rfl
    exact Bool.false_ne_true (hc.1.symm.trans hb)
  have hsplit : front ++ [c] ++ tail = pre ++ b :: between := by
    rw [← hpre, htake, List.append_assoc, List.singleton_append]
  obtain ⟨more, -, rfl⟩ := exists_append_behind hsplit hne
    (LineRule.not_mem_of_spacing_or_digit hbetween hc.2.1 hc.2.2)
  have hnone := htail b (List.mem_append_right more List.mem_cons_self)
  exact Bool.false_ne_true (hnone.symm.trans hb)

end behind

end MarkdownWriter
