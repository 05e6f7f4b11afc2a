import MarkdownWriter.Proofs.Escape.LineSpacing

/-!
# Flags in the text of a paragraph

A paragraph stands on lines of its own (`ownLines`), with a line feed in front of its text and one
behind it. So in the text every place has a character beside it, and what begins or ends the text
begins or ends a line.

Of the characters that a rule about the start of a line looks at, three kinds concern other rules
too:

* **Line breaks and digits** are never flagged (`not_flaggedAt_of_isLineBreak`,
  `not_flaggedAt_of_isDigit`).
* **Spaces and tabs** are flagged next to a line break and nowhere else
  (`exists_lineBreak_of_flaggedAt_spacing`), and then they are escaped
  (`not_isLineBreak_behind_spacing`, `not_isLineBreak_before_spacing`).
-/

namespace MarkdownWriter

open Text

/-! ## The text and its letters -/

/-- The constructs that are open in the text of a paragraph, innermost first. -/
def paragraphStack : List Construct :=
  [.phrasing, .paragraph]

/-- A paragraph stands on lines of its own. -/
def ownLines : Surroundings where
  before := ['\n']
  after := ['\n']

/-- The text of a paragraph as it is written. -/
def paragraphText (value : List Char) : List Char :=
  escapeLiteral Rule.defaults paragraphStack value ownLines

/-- The letters of a paragraph's text and of the line breaks around it. -/
def paragraphLetters (value : List Char) : List Letter :=
  framedLetters Rule.defaults paragraphStack value ownLines

/-! ## Flags -/

section flags

variable {text value : List Char} {place i : Nat} {c d : Char}

/-- Nothing has to stay on one line in a paragraph. -/
theorem not_mem_singleLine_of_mem_paragraphStack :
    ∀ construct ∈ paragraphStack, construct ∉ Rule.singleLine := by
  decide

/-- Line breaks are not flagged. -/
theorem not_flaggedAt_of_isLineBreak (hc : text[place]? = some c) (hbreak : isLineBreak c = true) :
    ¬ FlaggedAt Rule.defaults paragraphStack text place :=
  not_flaggedAt_lineBreak not_mem_singleLine_of_mem_paragraphStack hc hbreak

/-- Digits are not flagged. -/
theorem not_flaggedAt_of_isDigit (hc : text[place]? = some c) (hdigit : isDigit c = true) :
    ¬ FlaggedAt Rule.defaults paragraphStack text place := by
  have hall : ∀ rule ∈ Rule.defaults, isDigit rule.character = false := by decide
  intro hflag
  obtain ⟨rule, hmem, -, rfl⟩ := exists_rule_of_flaggedAt hc hflag
  rw [hall rule hmem] at hdigit
  contradiction

/-- Spaces and tabs are flagged only next to line breaks. -/
theorem exists_lineBreak_of_flaggedAt_spacing (hc : text[place]? = some c)
    (hspacing : isSpacing c = true) (hflag : FlaggedAt Rule.defaults paragraphStack text place) :
    ∃ d, isLineBreak d = true ∧
      (text[place + 1]? = some d ∨ ∃ k, place = k + 1 ∧ text[k]? = some d) := by
  have hall : ∀ rule ∈ Rule.defaults, isSpacing rule.character = true →
      rule.applies paragraphStack = true →
      rule = Rule.make rule.character [.phrasing] [] false none (some Rule.lineBreak) ∨
        rule = Rule.make rule.character [.phrasing] [] false (some Rule.lineBreak) none := by
    simp +decide [Rule.defaults, Rule.whitespaceRules, Rule.punctuationRules, Rule.anywhereIn,
      Rule.inlineMarkup, Rule.blockMarkup, Rule.make]
  obtain ⟨rule, hmem, ⟨happlies, hpositions⟩, rfl⟩ := exists_rule_of_flaggedAt hc hflag
  rcases hall rule hmem hspacing happlies with hrule | hrule
  · rw [hrule, Rule.mem_positions_make rfl] at hpositions
    obtain ⟨pre, lead, trail, post, hreported, rfl⟩ := hpositions
    obtain ⟨d, hd, rfl⟩ := Rule.takes_lineBreak.mp (fits_some.mp hreported.trail_fits)
    exact ⟨d, hd, .inl hreported.getElem?_succ⟩
  · rw [hrule, Rule.mem_positions_make rfl] at hpositions
    obtain ⟨pre, lead, trail, post, hreported, rfl⟩ := hpositions
    obtain ⟨d, hd, hlead⟩ := Rule.takes_lineBreak.mp (fits_some.mp hreported.lead_fits)
    rw [← List.nil_append [d]] at hlead
    exact ⟨d, hd, .inr ⟨_, hreported.getElem?_pred hlead⟩⟩

/-- What begins the text of a paragraph on its own lines is a line break. -/
theorem getElem?_ownLines_zero : (ownLines.enclose value)[0]? = some '\n' :=
  rfl

theorem getLast?_ownLines : (ownLines.enclose value).getLast? = some '\n' :=
  List.getLast?_concat

/-- A character of the text on its own lines that is no line feed is one of the text. -/
theorem lt_of_getElem?_ownLines (hc : (ownLines.enclose value)[1 + i]? = some c) (hne : c ≠ '\n') :
    i < value.length :=
  lt_of_getElem?_enclose hc (mt List.mem_singleton.mp hne)

/-- A space or tab left alone stands before no line break. -/
theorem not_isLineBreak_behind_spacing (hi : i < value.length)
    (hplain : (paragraphLetters value)[1 + i]? = some (.plain c)) (hspacing : isSpacing c = true)
    (hd : (ownLines.enclose value)[1 + i + 1]? = some d) : isLineBreak d = false :=
  not_isLineBreak_behind_plain List.mem_cons_self not_mem_singleLine_of_mem_paragraphStack hi hplain
    hspacing hd

/-- A space or tab left alone stands behind no line break. -/
theorem not_isLineBreak_before_spacing (hi : i < value.length)
    (hplain : (paragraphLetters value)[1 + i]? = some (.plain c)) (hspacing : isSpacing c = true)
    (hd : (ownLines.enclose value)[i]? = some d) : isLineBreak d = false :=
  not_isLineBreak_before_plain List.mem_cons_self not_mem_singleLine_of_mem_paragraphStack hi hplain
    hspacing
    (Nat.add_comm 1 i) hd

end flags

end MarkdownWriter
