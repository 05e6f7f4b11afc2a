import MarkdownWriter.Proofs.Escape.Labels
import MarkdownWriter.Proofs.Escape.LineSpacing

/-!
# Line breaks and the ends of literal texts

* **Line breaks.** In a heading behind marks every line break is escaped
  (`isLineBreak_of_mem_escapeLiteral`). Where nothing has to stay on one line none is
  (`not_escapedAt_of_isLineBreak`), and a text spans lines as it is written exactly if it does so
  itself (`hasLineEnding_escapeLiteral_defaults`).
* **The last character.** It is not spared by what comes next, so what a rule that looks at what
  stands behind it says is done (`escapedAt_of_getLast?`), and its letter is the end of what is
  written (`exists_escapeLiteral_eq_append`).
* **In front of a line ending** a text ends in a line break of its own or in a visible character
  (`exists_getLast?_escapeLiteral`): a space or tab there would be escaped
  (`isSpacing_getLast?_escapeLiteral`). Headings above a line rest on this, because what underlines
  them has to stand on a line of its own.
-/

namespace MarkdownWriter

open Text

/-! ## Line endings in a text -/

theorem hasLineEnding_cons (c : Char) (text : List Char) :
    hasLineEnding (c :: text) = (isLineBreak c || hasLineEnding text) :=
  List.any_cons

/-- A line ending is in one of two parts. -/
theorem hasLineEnding_append (text more : List Char) :
    hasLineEnding (text ++ more) = (hasLineEnding text || hasLineEnding more) :=
  List.any_append

theorem hasLineEnding_eq_false_iff {text : List Char} :
    hasLineEnding text = false ↔ ∀ c ∈ text, isLineBreak c = false := by
  simp [hasLineEnding]

/-- A reference is written on one line. -/
theorem isLineBreak_of_mem_characterReference (c : Char) :
    ∀ d ∈ characterReference c, isLineBreak d = false := by
  intro d hd
  rw [← Bool.not_eq_true, isLineBreak_iff]
  rintro (rfl | rfl) <;> exact not_mem_characterReference (by decide) hd

/-! ## Line breaks in what is written -/

section breaks

variable {rules : List Rule} {stack : List Construct} {input : List Char} {around : Surroundings}

/-- In a heading behind marks every line break is escaped, and none is written. -/
theorem isLineBreak_of_mem_escapeLiteral (hrules : ∀ rule ∈ Rule.defaults, rule ∈ rules)
    (hstack : .headingAtx ∈ stack) : ∀ c ∈ escapeLiteral rules stack input around,
      isLineBreak c = false := by
  have hmem : ∀ b ∈ ['\n', '\r'], Rule.anywhereIn Rule.singleLine b ∈ Rule.defaults := by
    simp [Rule.defaults, Rule.whitespaceRules, Rule.punctuationRules]
  have hnone {b : Char} (hmem : Rule.anywhereIn Rule.singleLine b ∈ Rule.defaults)
      (hsign : isPunctuation b = false) :
      b ∉ escapeLiteral rules stack input around := by
    have hinside : .headingAtx ∈ Rule.singleLine := by decide
    refine not_mem_escapeLiteral hrules hmem (Rule.applies_make hinside hstack b false none none)
      rfl rfl ?_
    intro h
    exact absurd (hsign.symm.trans h) Bool.false_ne_true
  intro c hc
  rw [← Bool.not_eq_true, isLineBreak_iff]
  rintro (rfl | rfl)
  · exact hnone (hmem _ (by decide)) (by decide) hc
  · exact hnone (hmem _ (by decide)) (by decide) hc

/-- Within a heading no line ending is left bare. -/
theorem hasLineEnding_escapeLiteral (hrules : ∀ rule ∈ Rule.defaults, rule ∈ rules)
    (hstack : .headingAtx ∈ stack) :
    hasLineEnding (escapeLiteral rules stack input around) = false :=
  hasLineEnding_eq_false_iff.mpr (isLineBreak_of_mem_escapeLiteral hrules hstack)

/-- A line break that is written is one of the text. -/
theorem mem_of_mem_escapeLiteral {b : Char} (hb : isLineBreak b = true)
    (h : b ∈ escapeLiteral rules stack input around) : b ∈ input := by
  obtain ⟨pre, rest, hwritten⟩ := List.append_of_mem h
  obtain ⟨front, more, hall, -, -⟩ := exists_plain_of_lineBreak hb hwritten
  rw [← map_char_lettersBetween rules stack around input, hall]
  simp [Letter.plain]

/-- Where nothing has to stay on one line no line break is escaped. -/
theorem not_escapedAt_of_isLineBreak {i : Nat} {b : Char}
    (hstack : ∀ construct ∈ stack, construct ∉ Rule.singleLine)
    (hi : input[i]? = some b) (hb : isLineBreak b = true) :
    ¬ EscapedAt Rule.defaults stack input around i := by
  rintro ⟨hflagged, -⟩
  exact not_flaggedAt_lineBreak hstack (getElem?_enclose around hi) hb hflagged

/-- There a text spans lines as it is written exactly if it does so itself. -/
theorem hasLineEnding_escapeLiteral_defaults
    (hstack : ∀ construct ∈ stack, construct ∉ Rule.singleLine) :
    hasLineEnding (escapeLiteral Rule.defaults stack input around) = hasLineEnding input := by
  have hall : ∀ letter ∈ lettersBetween Rule.defaults stack input around, letter.escaped = true →
      isLineBreak letter.char = false := by
    intro letter hletter hescaped
    obtain ⟨i, hi⟩ := List.mem_iff_getElem?.mp hletter
    obtain ⟨hc, hiff⟩ := getElem?_lettersBetween_eq_some.mp hi
    rw [← Bool.not_eq_true]
    exact fun hb => not_escapedAt_of_isLineBreak hstack hc hb (hiff.mp hescaped)
  rw [Bool.eq_iff_iff, hasLineEnding, hasLineEnding, List.any_eq_true, List.any_eq_true,
    ← List.countP_pos_iff, ← List.countP_pos_iff, escapeLiteral,
    countP_isLineBreak_writeLetters hall, map_char_lettersBetween]

end breaks

/-! ## The last character -/

section last

variable {rules : List Rule} {stack : List Construct} {input : List Char} {around : Surroundings}
  {c : Char}

/-- The last character of a text is not spared by what comes next, as that is no part of the text.
Nor is it spared by the character before it, if a rule that flags it asks for nothing there. -/
theorem escapedAt_of_flagsAt_last {rule : Rule} (hmem : rule ∈ rules) {i : Nat}
    (hflags : rule.FlagsAt stack (around.enclose input) (around.before.length + i))
    (hleading : rule.leading = false) (hlast : input.length = i + 1) :
    EscapedAt rules stack input around i := by
  refine ⟨⟨rule, hmem, hflags⟩, ?_, ?_⟩
  · rintro ⟨-, -, hnext, -⟩
    omega
  · rintro ⟨honly, -⟩
    have := honly rule hmem hflags
    rw [hleading] at this
    contradiction

/-- The last character of a text is escaped if a rule asks for what stands behind the text. -/
theorem escapedAt_of_getLast? {front : List Char} {inside : List Construct} {after : Option Regex}
    {b : Char} {more : List Char} (hmem : Rule.make c inside [] false none after ∈ rules)
    (happlies : (Rule.make c inside [] false none after).applies stack = true)
    (hunmarked : after.all Regex.isUnmarked = true) (havoids : Avoids after c)
    (hafter : around.after = b :: more) (hfits : ∀ offset, Fits after offset [b] more) :
    EscapedAt rules stack (front ++ [c]) around front.length := by
  refine escapedAt_of_flagsAt_last hmem ⟨happlies, ?_⟩ rfl (by simp)
  have htext : around.enclose (front ++ [c]) = (around.before ++ front) ++ c :: ([b] ++ more) := by
    simp [Surroundings.enclose, hafter]
  rw [← List.length_append]
  exact Rule.mem_positions_of_trailing inside [] hunmarked havoids htext (hfits _)

/-- What is written for the last character of a text is the end of the whole. -/
theorem exists_escapeLiteral_eq_append {front : List Char} {letter : Letter}
    (h : (lettersBetween rules stack (front ++ [c]) around)[front.length]? = some letter) :
    ∃ written, escapeLiteral rules stack (front ++ [c]) around =
      written ++ letter.written around.encode around.after.head? := by
  have hlength := length_lettersBetween rules stack around (front ++ [c])
  rw [List.length_append, List.length_singleton] at hlength
  have hlast : (lettersBetween rules stack (front ++ [c]) around).getLast? = some letter := by
    rw [List.getLast?_eq_getElem?, hlength]
    exact h
  obtain ⟨all, hall⟩ := List.getLast?_eq_some_iff.mp hlast
  unfold escapeLiteral
  rw [hall, writeLetters_append]
  exact ⟨_, congrArg _ (List.append_nil _)⟩

/-- It is a letter that is escaped as the rules say. -/
theorem getElem?_lettersBetween_concat {front : List Char} {escaped : Bool}
    (h : escaped = true ↔ EscapedAt rules stack (front ++ [c]) around front.length) :
    (lettersBetween rules stack (front ++ [c]) around)[front.length]? = some ⟨c, escaped⟩ :=
  getElem?_lettersBetween_eq_some.mpr ⟨by simp, h⟩

/-- In inline content that a line ending follows a space or tab is not the last character that is
written. -/
theorem isSpacing_getLast?_escapeLiteral (hstack : .phrasing ∈ stack)
    (hafter : around.after = ['\n']) :
    (escapeLiteral Rule.defaults stack input around).getLast?.any isSpacing = false := by
  rw [← Bool.not_eq_true, Option.any_eq_true]
  rintro ⟨c, hlast, hspacing⟩
  have hkinds : c ≠ ';' ∧ isPunctuation c = false := by
    rcases isSpacing_iff.mp hspacing with rfl | rfl <;> decide
  obtain ⟨front, rfl⟩ := List.getLast?_eq_some_iff.mp (getLast?_escapeLiteral hkinds.1 hlast)
  have hescaped : EscapedAt Rule.defaults stack (front ++ [c]) around front.length :=
    escapedAt_of_getLast? (mem_defaults_of_isSpacing hspacing).1
      (Rule.applies_make (List.mem_singleton.mpr rfl) hstack c false none _) rfl
      (avoids_lineBreak (isLineBreak_of_isSpacing hspacing)) hafter
      fun _ => fits_some.mpr (Rule.takes_lineBreak.mpr ⟨'\n', rfl, rfl⟩)
  obtain ⟨written, hwritten⟩ := exists_escapeLiteral_eq_append
    (getElem?_lettersBetween_concat (iff_of_true rfl hescaped))
  have hreference :
      Letter.written around.encode ⟨c, true⟩ around.after.head? = characterReference c := by
    simp [Letter.written, hkinds.2]
  rw [hwritten, hreference, characterReference, ← List.append_assoc, List.getLast?_concat] at hlast
  exact hkinds.1 (Option.some.inj hlast).symm

/-- A line break at the end of a text is written as it is where nothing has to stay on one line. -/
theorem getLast?_escapeLiteral_of_isLineBreak {b : Char}
    (hstack : ∀ construct ∈ stack, construct ∉ Rule.singleLine)
    (hb : isLineBreak b = true) (hlast : input.getLast? = some b) :
    (escapeLiteral Rule.defaults stack input around).getLast? = some b := by
  obtain ⟨front, rfl⟩ := List.getLast?_eq_some_iff.mp hlast
  have hplain : ¬ EscapedAt Rule.defaults stack (front ++ [b]) around front.length :=
    not_escapedAt_of_isLineBreak hstack (by simp) hb
  obtain ⟨written, hwritten⟩ := exists_escapeLiteral_eq_append
    (getElem?_lettersBetween_concat (iff_of_false Bool.false_ne_true hplain))
  have hbackslash : b ≠ '\\' := by
    rintro rfl
    contradiction
  have hletter : Letter.written around.encode ⟨b, false⟩ around.after.head? = [b] :=
    plainChar_of_ne hbackslash
  rw [hwritten, hletter, List.getLast?_concat]

/-- Text ends in a line break as it is written exactly if it does itself. -/
theorem isLineBreak_getLast?_escapeLiteral_iff
    (hstack : ∀ construct ∈ stack, construct ∉ Rule.singleLine) :
    (escapeLiteral Rule.defaults stack input around).getLast?.any isLineBreak = true ↔
      input.getLast?.any isLineBreak = true := by
  constructor
  · intro hbreak
    obtain ⟨c, hlast, hbreak⟩ := (Option.any_eq_true ..).mp hbreak
    have hsemicolon : c ≠ ';' := by
      rintro rfl
      contradiction
    rw [getLast?_escapeLiteral hsemicolon hlast]
    exact hbreak
  · intro hbreak
    obtain ⟨b, hb, hbreak⟩ := (Option.any_eq_true ..).mp hbreak
    rw [getLast?_escapeLiteral_of_isLineBreak hstack hbreak hb]
    exact hbreak

/-- Text that ends in a line ending is written so, and other text ends in a character that is
visible. -/
theorem exists_getLast?_escapeLiteral (hphrasing : .phrasing ∈ stack)
    (hstack : ∀ construct ∈ stack, construct ∉ Rule.singleLine) (hafter : around.after = ['\n'])
    (hne : input ≠ []) :
    ∃ c, (escapeLiteral Rule.defaults stack input around).getLast? = some c ∧ isSpacing c = false ∧
      (isLineBreak c = true ↔ input.getLast?.any isLineBreak = true) := by
  have hspacing : (escapeLiteral Rule.defaults stack input around).getLast?.any isSpacing = false :=
    isSpacing_getLast?_escapeLiteral hphrasing hafter
  have hbreak := @isLineBreak_getLast?_escapeLiteral_iff stack input around hstack
  cases hlast : (escapeLiteral Rule.defaults stack input around).getLast? with
  | none => exact absurd (escapeLiteral_eq_nil_iff.mp (List.getLast?_eq_none_iff.mp hlast)) hne
  | some c =>
      rw [hlast] at hspacing hbreak
      exact ⟨c, rfl, hspacing, hbreak⟩

end last

end MarkdownWriter
