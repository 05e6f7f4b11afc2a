import MarkdownWriter.Proofs.Escape.Framed
import MarkdownWriter.Proofs.Escape.Defaults
import MarkdownWriter.Proofs.Text.EdgeLines

/-!
# Spaces and tabs at the edges of lines

What begins or ends a line is lost with the line if it is a space or a tab. So it is written as a
reference there, in inline content that may span lines (`isSpacing_edge_escapeLiteral`).

* **Line breaks are left alone** (`not_flaggedAt_lineBreak`), so none of them spares the space or
  tab beside it.
* **A space or tab left alone has no line break beside it** (`not_isLineBreak_behind_plain`,
  `not_isLineBreak_before_plain`). Of a run of them the outermost are escaped, and the others need
  not be: what is written begins and ends with the reference.
* **Places.** The text is taken between two line feeds, as a paragraph has it, so that its edges are
  edges of lines too; between them a space or tab is always one of the text
  (`exists_place_of_isSpacing`).
-/

namespace MarkdownWriter

open Text

/-! ## Rules about line breaks -/

namespace Rule

/-- A rule for some constructs that is never suspended applies wherever one of them is open. -/
theorem applies_make {inside stack : List Construct} {construct : Construct}
    (hinside : construct ∈ inside) (hstack : construct ∈ stack) (c : Char) (atBreak : Bool)
    (before after : Option Regex) :
    (make c inside [] atBreak before after).applies stack = true := by
  have hany : stack.any inside.contains = true :=
    List.any_eq_true.mpr ⟨construct, hstack, by simpa using hinside⟩
  simp [applies, make, hany]

/-- No rule about line breaks applies where nothing has to stay on one line. -/
theorem applies_of_isLineBreak {stack : List Construct}
    (hstack : ∀ construct ∈ stack, construct ∉ singleLine) :
    ∀ rule ∈ defaults, isLineBreak rule.character = true → rule.applies stack = false := by
  have hinside : ∀ rule ∈ defaults, isLineBreak rule.character = true →
      rule.inside = singleLine ∧ rule.outside = [] := by
    decide
  intro rule hmem hbreak
  obtain ⟨hsingle, -⟩ := hinside rule hmem hbreak
  have hnone : stack.any singleLine.contains = false := by
    rw [List.any_eq_false]
    intro construct hconstruct
    simpa using hstack construct hconstruct
  rw [applies, hsingle, hnone]
  rfl

end Rule

/-! ## Spaces and tabs in the text -/

section spacing

variable {stack : List Construct} {text input : List Char} {around : Surroundings} {place i : Nat}
  {c d : Char}

/-- Where nothing has to stay on one line no line break is flagged. -/
theorem not_flaggedAt_lineBreak (hstack : ∀ construct ∈ stack, construct ∉ Rule.singleLine)
    (hc : text[place]? = some c) (hbreak : isLineBreak c = true) :
    ¬ FlaggedAt Rule.defaults stack text place := by
  intro hflag
  obtain ⟨rule, hmem, hflags, rfl⟩ := exists_rule_of_flaggedAt hc hflag
  rw [Rule.FlagsAt, Rule.applies_of_isLineBreak hstack rule hmem hbreak] at hflags
  exact Bool.false_ne_true hflags.1

/-- A condition on line breaks takes no other character. -/
theorem avoids_lineBreak (hc : isLineBreak c = false) : Avoids (some Rule.lineBreak) c := by
  intro offset taken rest h hmem
  obtain ⟨d, hd, rfl⟩ := Rule.takes_lineBreak.mp (fits_some.mp h)
  rw [List.mem_singleton.mp hmem, hd] at hc
  contradiction

/-- The rules that keep the whitespace around line endings. -/
theorem mem_defaults_of_isSpacing (hspacing : isSpacing c = true) :
    Rule.make c [.phrasing] [] false none (some Rule.lineBreak) ∈ Rule.defaults ∧
      Rule.make c [.phrasing] [] false (some Rule.lineBreak) none ∈ Rule.defaults := by
  rcases isSpacing_iff.mp hspacing with rfl | rfl <;>
    simp [Rule.defaults, Rule.whitespaceRules, Rule.punctuationRules]

/-- A character that does not stand behind the text is one of the text. -/
theorem lt_of_getElem?_enclose (hc : (around.enclose input)[around.before.length + i]? = some c)
    (hafter : c ∉ around.after) : i < input.length := by
  by_contra hge
  rw [Surroundings.enclose, List.append_assoc, getElem?_append_add _ _ rfl,
    List.getElem?_append_right (Nat.le_of_not_lt hge)] at hc
  exact hafter (List.mem_of_getElem? hc)

/-- Between line feeds, a space or tab is one of the text. -/
theorem exists_place_of_isSpacing (hbefore : around.before = ['\n'])
    (hafter : around.after = ['\n'])
    (hplain : (framedLetters Rule.defaults stack input around)[place]? = some (.plain c))
    (hspacing : isSpacing c = true) : ∃ i < input.length, place = around.before.length + i := by
  have hc : (around.enclose input)[place]? = some c := (getElem?_framedLetters_eq_some.mp hplain).1
  have hne : c ≠ '\n' := by
    rintro rfl
    contradiction
  cases place with
  | zero =>
      rw [Surroundings.enclose, hbefore] at hc
      exact absurd (Option.some.inj hc).symm hne
  | succ i =>
      have hplace : i + 1 = around.before.length + i := by
        rw [hbefore, List.length_singleton, Nat.add_comm]
      rw [hplace] at hc
      exact ⟨i, lt_of_getElem?_enclose hc (by simpa [hafter] using hne), hplace⟩

variable (hphrasing : .phrasing ∈ stack) (hstack : ∀ construct ∈ stack, construct ∉ Rule.singleLine)

include hphrasing hstack

/-- A space or tab left alone stands before no line break. -/
theorem not_isLineBreak_behind_plain (hi : i < input.length)
    (hplain : (framedLetters Rule.defaults stack input around)[around.before.length + i]? =
      some (.plain c))
    (hspacing : isSpacing c = true)
    (hd : (around.enclose input)[around.before.length + i + 1]? = some d) :
    isLineBreak d = false := by
  have hc : (around.enclose input)[around.before.length + i]? = some c :=
    (getElem?_framedLetters_eq_some.mp hplain).1
  have hnot := isLineBreak_of_isSpacing hspacing
  rw [← Bool.not_eq_true]
  intro hbreak
  have hflags : (Rule.make c [.phrasing] [] false none (some Rule.lineBreak)).FlagsAt stack
      (around.enclose input) (around.before.length + i) := by
    obtain ⟨pre, post, htext, hpre⟩ := exists_append_of_getElem?_pair hc hd
    rw [← hpre]
    exact ⟨Rule.applies_make (List.mem_singleton.mpr rfl) hphrasing c false none _,
      Rule.mem_positions_of_trailing [.phrasing] [] rfl (avoids_lineBreak hnot) htext
        (fits_some.mpr (Rule.takes_lineBreak.mpr ⟨d, hbreak, rfl⟩))⟩
  obtain ⟨-, hnext⟩ :=
    unconditionalAt_next_of_plain hi hplain (mem_defaults_of_isSpacing hspacing).1 hflags rfl
  exact not_flaggedAt_lineBreak hstack hd hbreak hnext.flaggedAt

/-- A space or tab left alone stands behind no line break. -/
theorem not_isLineBreak_before_plain (hi : i < input.length)
    (hplain : (framedLetters Rule.defaults stack input around)[around.before.length + i]? =
      some (.plain c))
    (hspacing : isSpacing c = true) (hplace : around.before.length + i = place + 1)
    (hd : (around.enclose input)[place]? = some d) : isLineBreak d = false := by
  have hc : (around.enclose input)[place + 1]? = some c := by
    rw [← hplace]
    exact (getElem?_framedLetters_eq_some.mp hplain).1
  have hnot := isLineBreak_of_isSpacing hspacing
  rw [← Bool.not_eq_true]
  intro hbreak
  have hflags : (Rule.make c [.phrasing] [] false (some Rule.lineBreak) none).FlagsAt stack
      (around.enclose input) (around.before.length + i) := by
    rw [hplace]
    obtain ⟨pre, post, htext, rfl⟩ := exists_append_of_getElem?_pair hd hc
    exact ⟨Rule.applies_make (List.mem_singleton.mpr rfl) hphrasing c false _ none,
      Rule.mem_positions_of_leading [.phrasing] [] Rule.exists_eq_of_takes_lineBreak
        (avoids_lineBreak hnot) htext
        (Rule.takes_lineBreak.mpr ⟨d, hbreak, rfl⟩)⟩
  have hprevious :=
    unconditionalAt_previous_of_plain hi hplain (mem_defaults_of_isSpacing hspacing).2 hflags rfl
  rw [hplace, Nat.add_sub_cancel] at hprevious
  exact not_flaggedAt_lineBreak hstack hd hbreak hprevious.flaggedAt

/-! ## Lines of the output -/

/-- Between line feeds, a space or tab left alone has no line break left alone beside it. -/
theorem isSpacing_of_plain_beside (hbefore : around.before = ['\n'])
    (hafter : around.after = ['\n']) {front back : List Letter} {first second : Char}
    (hletters : framedLetters Rule.defaults stack input around =
      front ++ .plain first :: .plain second :: back) :
    (isLineBreak first = true → isSpacing second = false) ∧
      (isLineBreak second = true → isSpacing first = false) := by
  have hfirst :
      (framedLetters Rule.defaults stack input around)[front.length]? = some (.plain first) := by
    rw [hletters, getElem?_append_cons]
  have hsecond :
      (framedLetters Rule.defaults stack input around)[front.length + 1]? =
        some (.plain second) := by
    rw [hletters, getElem?_append_cons_succ]
    rfl
  constructor
  · intro hbreak
    by_contra hspacing
    rw [Bool.not_eq_false] at hspacing
    obtain ⟨i, hi, hplace⟩ := exists_place_of_isSpacing hbefore hafter hsecond hspacing
    rw [hplace] at hsecond
    have hnot := not_isLineBreak_before_plain hphrasing hstack hi hsecond hspacing hplace.symm
      (getElem?_framedLetters_eq_some.mp hfirst).1
    exact Bool.false_ne_true (hnot.symm.trans hbreak)
  · intro hbreak
    by_contra hspacing
    rw [Bool.not_eq_false] at hspacing
    obtain ⟨i, hi, hplace⟩ := exists_place_of_isSpacing hbefore hafter hfirst hspacing
    rw [hplace] at hfirst hsecond
    have hnot := not_isLineBreak_behind_plain hphrasing hstack hi hfirst hspacing
      (getElem?_framedLetters_eq_some.mp hsecond).1
    exact Bool.false_ne_true (hnot.symm.trans hbreak)

/-- **No line is edged with whitespace.** In inline content that may span lines, of a text on lines
of its own no line that is written begins or ends with a space or a tab. -/
theorem isSpacing_edge_escapeLiteral (hbefore : around.before = ['\n'])
    (hafter : around.after = ['\n']) :
    ∀ line ∈ (Lines.ofText (escapeLiteral Rule.defaults stack input around)).contents,
      line.head?.any isSpacing = false ∧ line.getLast?.any isSpacing = false := by
  intro line hline
  obtain ⟨above, below, hrows⟩ := List.append_of_mem (Lines.mem_rows_of_mem_contents hline)
  obtain ⟨pre, b, b', post, hcut, hb, hb', -, -⟩ := exists_cut_of_rows_eq hrows
  have hwritten : writeLetters around.encode none (framedLetters Rule.defaults stack input around) =
      pre ++ b :: (line ++ b' :: post) := by
    rw [writeLetters_framedLetters (by simp [hbefore]) (by simp [hafter]), hbefore, hafter, ← hcut]
    rfl
  have hsigns {s : Char} (hspacing : isSpacing s = true) :
      isPunctuation s = false ∧ isReferenceSign s = false ∧ s ≠ '\\' ∧ s ≠ '&' := by
    rcases isSpacing_iff.mp hspacing with rfl | rfl <;> decide
  constructor
  · rw [← Bool.not_eq_true, Option.any_eq_true]
    rintro ⟨s, hhead, hspacing⟩
    obtain ⟨rest, rfl⟩ := List.head?_eq_some_iff.mp hhead
    obtain ⟨-, -, hbackslash, hampersand⟩ := hsigns hspacing
    obtain ⟨front, more, hletters, -, hmore⟩ := exists_plain_of_lineBreak hb hwritten
    obtain ⟨back, rfl, -⟩ := exists_plain_of_writeLetters_cons hbackslash hampersand hmore.symm
    have hnot := (isSpacing_of_plain_beside hphrasing hstack hbefore hafter hletters).1 hb
    exact Bool.false_ne_true (hnot.symm.trans hspacing)
  · rw [← Bool.not_eq_true, Option.any_eq_true]
    rintro ⟨s, hlast, hspacing⟩
    obtain ⟨start, rfl⟩ := List.getLast?_eq_some_iff.mp hlast
    obtain ⟨hsign, hreference, -, -⟩ := hsigns hspacing
    have hsplit :
        pre ++ b :: ((start ++ [s]) ++ b' :: post) = (pre ++ b :: start) ++ s :: b' :: post := by
          simp
    obtain ⟨front, more, hletters, -, hmore⟩ :=
      exists_plain_of_mem hsign hreference (hwritten.trans hsplit)
    have hbreak : b' ≠ '\\' ∧ b' ≠ '&' := by
      rcases isLineBreak_iff.mp hb' with rfl | rfl <;> decide
    obtain ⟨back, rfl, -⟩ := exists_plain_of_writeLetters_cons hbreak.1 hbreak.2 hmore.symm
    have hnot := (isSpacing_of_plain_beside hphrasing hstack hbefore hafter hletters).2 hb'
    exact Bool.false_ne_true (hnot.symm.trans hspacing)

end spacing

/-- Spaces and tabs at both edges, next to every kind of line ending, and lines of nothing else. -/
theorem isSpacing_edge_mixed :
    (Lines.ofText (escapeLiteral Rule.defaults [.phrasing, .paragraph]
        " \ta \r\n\t b\t\r \n \t \n* c  ".toList ⟨['\n'], ['\n'], ['*']⟩)).contents =
      ["&#x20;\ta&#x20;".toList, "&#x9; b&#x9;".toList, "&#x20;".toList, "&#x20;\t&#x20;".toList,
        "&#x2A; c &#x20;".toList] ∧
    ∀ line ∈ (Lines.ofText (escapeLiteral Rule.defaults [.phrasing, .paragraph]
        " \ta \r\n\t b\t\r \n \t \n* c  ".toList ⟨['\n'], ['\n'], ['*']⟩)).contents,
      line.head?.any isSpacing = false ∧ line.getLast?.any isSpacing = false :=
  ⟨by decide +kernel, isSpacing_edge_escapeLiteral (by decide) (by decide) rfl rfl⟩

end MarkdownWriter
