import MarkdownWriter.Escape.Defaults
import MarkdownWriter.Proofs.Escape.Letters
import MarkdownWriter.Proofs.Escape.Positions
import MarkdownWriter.Proofs.Escape.Written
import MarkdownWriter.Proofs.Text.Rows
import MarkdownWriter.Render.Form

/-!
# What Markdown's own rules flag

The general facts about rules, applied to `Rule.defaults`.

* **Rules flag their own character** (`Rule.getElem?_of_mem_defaults`), which can be written as a
  reference or escaped (`isReferenceable_of_flaggedAt`).
* **Rules with no condition flag every occurrence** (`Rule.mem_positions_of_anywhere`), and a rule
  that only looks at what follows, or only at the character before its own, flags every one that has
  what it asks for, if its character cannot stand beside itself (`Rule.mem_positions_of_trailing`,
  `Rule.mem_positions_of_leading`).
* **A flagged backslash is followed by a line break** (`exists_lineBreak_of_flaggedAt_backslash`),
  and a line break is flagged unconditionally or not at all
  (`unconditionalAt_of_flaggedAt_lineBreak`).
-/

namespace MarkdownWriter

open Text

/-! ## Kinds of characters -/

/-- Spacing is spaces and tabs. -/
theorem isSpacing_iff {c : Char} : isSpacing c = true ↔ c = ' ' ∨ c = '\t' := by
  simp [isSpacing]

/-- None of them ends a line. -/
theorem isLineBreak_of_isSpacing {c : Char} (h : isSpacing c = true) : isLineBreak c = false := by
  rcases isSpacing_iff.mp h with rfl | rfl <;> rfl

/-- Nor does a digit. -/
theorem isLineBreak_of_isDigit {c : Char} (h : isDigit c = true) : isLineBreak c = false := by
  rw [← Bool.not_eq_true, isLineBreak_iff]
  rintro (rfl | rfl) <;> contradiction

/-- A digit is no spacing. -/
theorem isSpacing_of_isDigit {c : Char} (h : isDigit c = true) : isSpacing c = false := by
  rw [← Bool.not_eq_true]
  intro hspacing
  rcases isSpacing_iff.mp hspacing with rfl | rfl <;> contradiction

/-! ## Single characters around a hit -/

namespace Hit

variable {c : Char} {before after : Option Regex} {text pre lead trail post : List Char}

/-- The character of a hit. -/
theorem getElem?_character (h : Hit c before after text pre lead trail post) :
    text[pre.length + lead.length]? = some c := by
  rw [h.text_eq, ← List.append_assoc, ← List.length_append]
  exact getElem?_append_cons _

/-- The character behind that of a hit. -/
theorem getElem?_succ (h : Hit c before after text pre lead trail post) :
    text[pre.length + lead.length + 1]? = (trail ++ post).head? := by
  rw [h.text_eq, ← List.append_assoc, ← List.length_append]
  exact getElem?_append_cons_succ _

/-- The character before that of a hit, if the rule asks for one. -/
theorem getElem?_pred (h : Hit c before after text pre lead trail post) {front : List Char}
    {d : Char} (hlead : lead = front ++ [d]) :
    pre.length + lead.length = pre.length + front.length + 1 ∧
      text[pre.length + front.length]? = some d := by
  subst hlead
  refine ⟨by rw [List.length_append, List.length_singleton, Nat.add_assoc], ?_⟩
  rw [h.text_eq, List.append_assoc, ← List.append_assoc, ← List.length_append,
    List.getElem?_append_right (Nat.le_refl _), Nat.sub_self]
  rfl

/-- Something stands behind the character of a hit if the text does not end with it. -/
theorem ne_nil_of_getLast? (h : Hit c before after text pre lead trail post)
    (hlast : text.getLast? ≠ some c) : trail ++ post ≠ [] := by
  intro hnil
  refine hlast ?_
  rw [h.text_eq, hnil, ← List.append_assoc, List.getLast?_concat]

end Hit

/-- A character cuts a text. -/
theorem exists_append_of_getElem? {text : List Char} {place : Nat} {c : Char}
    (hc : text[place]? = some c) : ∃ pre post, text = pre ++ c :: post ∧ pre.length = place := by
  obtain ⟨hlt, rfl⟩ := List.getElem?_eq_some_iff.mp hc
  exact ⟨text.take place, text.drop (place + 1), by simp, List.length_take_of_le (Nat.le_of_lt hlt)⟩

/-- So do two neighbouring ones. -/
theorem exists_append_of_getElem?_pair {text : List Char} {place : Nat} {c d : Char}
    (hc : text[place]? = some c) (hd : text[place + 1]? = some d) :
    ∃ pre post, text = pre ++ c :: ([d] ++ post) ∧ pre.length = place := by
  obtain ⟨pre, rest, rfl, rfl⟩ := exists_append_of_getElem? hc
  rw [getElem?_append_cons_succ] at hd
  obtain ⟨post, rfl⟩ := List.head?_eq_some_iff.mp hd
  exact ⟨pre, post, rfl, rfl⟩

/-! ## Rules that look at one side -/

section oneSided

variable {c : Char} {after : Option Regex} (inside outside : List Construct) {text : List Char}
  {offset : Nat}

/-- A rule that asks for nothing before its character flags every occurrence that is followed by
what it asks for, if that cannot hold the character itself: then no match can begin inside another.
-/
theorem Rule.mem_positions_of_trailing (hafter : after.all Regex.isUnmarked = true)
    (havoids : Avoids after c) {pre trail post : List Char}
    (htext : text = pre ++ c :: (trail ++ post)) (hfits : Fits after (pre.length + 1) trail post) :
    pre.length ∈ (Rule.make c inside outside false none after).positions text := by
  have hhit : Hit c none after text pre [] trail post := ⟨htext, rfl, hfits⟩
  rw [Rule.mem_positions_make hafter]
  rcases hhit.reported_or_inside hafter avoids_none with
    ⟨trail', post', hreported⟩ | ⟨pre', lead', trail', post', front, d, back, hreported, htaken,
      hfront, -, hrest⟩
  · exact ⟨pre, [], trail', post', hreported, rfl⟩
  · obtain rfl : lead' = [] := hreported.lead_fits
    obtain ⟨rfl, -⟩ := List.cons.inj hrest
    cases front with
    | nil => contradiction
    | cons e front =>
        obtain ⟨-, htrail⟩ := List.cons.inj htaken
        have hmem : c ∈ trail' := by
          rw [htrail]
          exact List.mem_append_right front List.mem_cons_self
        exact absurd hmem (havoids _ _ _ hreported.trail_fits)

/-- A rule that asks for nothing flags its character and nothing else. -/
theorem Rule.mem_positions_of_anywhere :
    offset ∈ (Rule.make c inside outside false none none).positions text ↔
      text[offset]? = some c := by
  constructor
  · intro h
    obtain ⟨pre, lead, trail, post, hreported, rfl⟩ := (Rule.mem_positions_make rfl).mp h
    exact hreported.getElem?_character
  · intro h
    obtain ⟨hlt, rfl⟩ := List.getElem?_eq_some_iff.mp h
    have hsplit : text = text.take offset ++ text[offset] :: ([] ++ text.drop (offset + 1)) := by
      simp
    have hmem := Rule.mem_positions_of_trailing inside outside rfl avoids_none hsplit rfl
    rwa [List.length_take_of_le (Nat.le_of_lt hlt)] at hmem

/-- A rule that asks for one character before its own, and for nothing behind it, flags every
occurrence that has it, if its own character is not one that it asks for: then no match can begin
inside another. -/
theorem Rule.mem_positions_of_leading {before : Regex} {b : Char} {pre post : List Char}
    (hsingle : ∀ {offset taken rest}, before.Takes offset taken rest → ∃ d, taken = [d])
    (havoids : Avoids (some before) c) (htext : text = pre ++ b :: c :: post)
    (hfits : before.Takes pre.length [b] (c :: post)) :
    pre.length + 1 ∈ (Rule.make c inside outside false (some before) none).positions text := by
  have hhit : Hit c (some before) none text pre [b] [] post := ⟨htext, fits_some.mpr hfits, rfl⟩
  rw [Rule.mem_positions_make rfl]
  rcases hhit.reported_or_inside rfl havoids with
    ⟨trail, post', hreported⟩ | ⟨pre', lead, trail, post', front, e, back, hreported, htaken,
      hfront, -, hrest⟩
  · exact ⟨pre, [b], trail, post', hreported, rfl⟩
  · obtain ⟨d, rfl⟩ := hsingle (fits_some.mp hreported.lead_fits)
    obtain rfl : trail = [] := hreported.trail_fits
    obtain rfl : b = e := (List.cons.inj hrest).1
    -- what stands before the character would have to be the character itself
    obtain ⟨d', front, rfl⟩ := List.exists_cons_of_ne_nil hfront
    have hmem : b ∈ [c] := by
      have htail : [c] = front ++ b :: back := (List.cons.inj htaken).2
      rw [htail]
      exact List.mem_append_right front List.mem_cons_self
    obtain rfl := List.mem_singleton.mp hmem
    exact absurd hmem (havoids _ _ _ (fits_some.mpr hfits))

end oneSided

/-! ## The rules of Markdown -/

namespace Rule

/-- A condition on line breaks takes one. -/
theorem takes_lineBreak {offset : Nat} {taken rest : List Char} :
    lineBreak.Takes offset taken rest ↔ ∃ d, isLineBreak d = true ∧ taken = [d] := by
  have hbreaks : ∀ d, d ∈ ['\r', '\n'] ↔ isLineBreak d = true := by simp [isLineBreak, or_comm]
  simp only [lineBreak, Regex.takes_oneOf, hbreaks]

/-- A line break is one character. -/
theorem exists_eq_of_takes_lineBreak {offset : Nat} {taken rest : List Char}
    (h : lineBreak.Takes offset taken rest) : ∃ d, taken = [d] := by
  obtain ⟨d, -, rfl⟩ := takes_lineBreak.mp h
  exact ⟨d, rfl⟩

/-- The start of a line is a line break with spaces and tabs behind it. -/
theorem takes_lineStart {offset : Nat} {taken rest : List Char} :
    lineStart.Takes offset taken rest ↔
      ∃ d spacing, taken = d :: spacing ∧ isLineBreak d = true ∧
        ∀ c ∈ spacing, isSpacing c = true := by
  have hspacing : ∀ c, (CharSet.of ['\t', ' ']).contains c = true ↔ isSpacing c = true := by
    simp [isSpacing, or_comm]
  rw [lineStart, Regex.takes_seq]
  constructor
  · rintro ⟨_, spacing, rfl, hfront, hback⟩
    obtain ⟨d, hd, rfl⟩ := takes_lineBreak.mp hfront
    exact ⟨d, spacing, rfl, hd, fun c hc => (hspacing c).mp (Regex.takes_star_set.mp hback c hc)⟩
  · rintro ⟨d, spacing, rfl, hd, hall⟩
    exact ⟨[d], spacing, rfl, takes_lineBreak.mpr ⟨d, hd, rfl⟩,
      Regex.takes_star_set.mpr fun c hc => (hspacing c).mpr (hall c hc)⟩

/-- A rule put together from a character and its conditions, nothing marked behind the character. -/
def IsMade (rule : Rule) : Prop :=
  ∃ before after, rule = make rule.character rule.inside rule.outside rule.atBreak before after ∧
    after.all Regex.isUnmarked = true

/-- A rule that is made is made of parts, if nothing is marked in what follows its character. -/
theorem isMade_make (c : Char) (inside outside : List Construct) (atBreak : Bool)
    (before after : Option Regex) (h : after.all Regex.isUnmarked = true) :
    (make c inside outside atBreak before after).IsMade :=
  ⟨before, after, rfl, h⟩

/-- There is a rule about both brackets in labels. -/
theorem anywhereIn_label_mem_defaults {bracket : Char} (h : bracket = '[' ∨ bracket = ']') :
    anywhereIn [.label, .reference] bracket ∈ defaults := by
  rcases h with rfl | rfl <;> simp [defaults, whitespaceRules, punctuationRules]

/-- All rules of Markdown are made of parts. -/
theorem isMade_of_mem_defaults : ∀ rule ∈ defaults, rule.IsMade := by
  simp only [defaults, whitespaceRules, punctuationRules, anywhereIn, inlineMarkup, blockMarkup,
    List.cons_append, List.nil_append, List.forall_mem_cons]
  repeat' apply And.intro
  all_goals first
    | exact isMade_make _ _ _ _ _ _ rfl
    | exact fun _ h => absurd h List.not_mem_nil

/-- A rule flags its own character. -/
theorem getElem?_of_mem_defaults {rule : Rule} (hmem : rule ∈ defaults) {text : List Char}
    {offset : Nat} (h : offset ∈ rule.positions text) : text[offset]? = some rule.character := by
  obtain ⟨before, after, hrule, hafter⟩ := isMade_of_mem_defaults rule hmem
  rw [hrule, mem_positions_make hafter] at h
  obtain ⟨pre, lead, trail, post, hreported, rfl⟩ := h
  exact hreported.getElem?_character

/-- A rule with no condition is one about a character in some constructs. -/
theorem eq_make_of_anywhere : ∀ rule ∈ defaults, rule.leading = false → rule.trailing = false →
    rule = make rule.character rule.inside rule.outside false none none := by
  simp [defaults, whitespaceRules, punctuationRules, anywhereIn, inlineMarkup, blockMarkup, make]

/-- Only one rule is about backslashes. -/
theorem eq_of_character_backslash : ∀ rule ∈ defaults, rule.character = '\\' →
    rule = make '\\' [.phrasing] [] false none (some lineBreak) := by
  simp [defaults, whitespaceRules, punctuationRules, anywhereIn, inlineMarkup, blockMarkup, make]

/-- The rules about line breaks have no conditions. -/
theorem unconditional_of_character_lineBreak :
    ∀ rule ∈ defaults, isLineBreak rule.character = true →
    rule.leading = false ∧ rule.trailing = false := by
  decide

end Rule

section flags

variable {stack : List Construct} {text : List Char} {offset : Nat} {c : Char}

/-- The rule behind a flag. -/
theorem exists_rule_of_flaggedAt (hc : text[offset]? = some c)
    (h : FlaggedAt Rule.defaults stack text offset) :
    ∃ rule ∈ Rule.defaults, rule.FlagsAt stack text offset ∧ rule.character = c := by
  obtain ⟨rule, hmem, hflags⟩ := h
  have := (Rule.getElem?_of_mem_defaults hmem hflags.2).symm.trans hc
  exact ⟨rule, hmem, hflags, Option.some.inj this⟩

/-- Every flagged character can be written as a reference. -/
theorem isReferenceable_of_flaggedAt (hc : text[offset]? = some c)
    (h : FlaggedAt Rule.defaults stack text offset) :
    isReferenceable c = true := by
  have hall : ∀ rule ∈ Rule.defaults, isReferenceable rule.character = true := by decide
  obtain ⟨rule, hmem, -, rfl⟩ := exists_rule_of_flaggedAt hc h
  exact hall rule hmem

/-- A rule with no condition that applies flags its character unconditionally wherever it stands. -/
theorem unconditionalAt_of_anywhere {rule : Rule} (hmem : rule ∈ Rule.defaults)
    (happlies : rule.applies stack = true) (hleading : rule.leading = false)
    (htrailing : rule.trailing = false) (hc : text[offset]? = some rule.character) :
    UnconditionalAt Rule.defaults stack text offset := by
  have hflags : rule.FlagsAt stack text offset := by
    refine ⟨happlies, ?_⟩
    rw [Rule.eq_make_of_anywhere rule hmem hleading htrailing]
    exact (Rule.mem_positions_of_anywhere _ _).mpr hc
  exact ⟨⟨rule, hmem, hflags, hleading⟩, rule, hmem, hflags, htrailing⟩

/-- More rules take no flag away. -/
theorem UnconditionalAt.mono {rules rules' : List Rule} (hrules : ∀ rule ∈ rules, rule ∈ rules')
    (h : UnconditionalAt rules stack text offset) : UnconditionalAt rules' stack text offset := by
  obtain ⟨⟨rule, hmem, hflags, hleading⟩, rule', hmem', hflags', htrailing⟩ := h
  exact ⟨⟨rule, hrules rule hmem, hflags, hleading⟩, rule', hrules rule' hmem', hflags', htrailing⟩

/-- A line break is flagged unconditionally or not at all. -/
theorem unconditionalAt_of_flaggedAt_lineBreak (hc : text[offset]? = some c)
    (hbreak : isLineBreak c = true) (h : FlaggedAt Rule.defaults stack text offset) :
    UnconditionalAt Rule.defaults stack text offset := by
  obtain ⟨rule, hmem, hflags, rfl⟩ := exists_rule_of_flaggedAt hc h
  obtain ⟨hleading, htrailing⟩ := Rule.unconditional_of_character_lineBreak rule hmem hbreak
  exact ⟨⟨rule, hmem, hflags, hleading⟩, rule, hmem, hflags, htrailing⟩

/-- A flagged backslash is flagged for the line break behind it, and only for that. -/
theorem exists_lineBreak_of_flaggedAt_backslash (hc : text[offset]? = some '\\')
    (h : FlaggedAt Rule.defaults stack text offset) :
    (∃ d, isLineBreak d = true ∧ text[offset + 1]? = some d) ∧
      OnlyTrailingAt Rule.defaults stack text offset := by
  constructor
  · obtain ⟨rule, hmem, hflags, hrule⟩ := exists_rule_of_flaggedAt hc h
    have hpositions := hflags.2
    rw [Rule.eq_of_character_backslash rule hmem hrule, Rule.mem_positions_make rfl] at hpositions
    obtain ⟨pre, lead, trail, post, hreported, rfl⟩ := hpositions
    obtain ⟨d, hd, rfl⟩ := Rule.takes_lineBreak.mp (fits_some.mp hreported.trail_fits)
    exact ⟨d, hd, hreported.getElem?_succ⟩
  · intro rule hmem hflags
    have hrule := Option.some.inj ((Rule.getElem?_of_mem_defaults hmem hflags.2).symm.trans hc)
    rw [Rule.eq_of_character_backslash rule hmem hrule]
    rfl

end flags

/-! ## Characters that are always escaped -/

section always

variable {rules : List Rule} {stack : List Construct} {input : List Char} {around : Surroundings}
  {rule : Rule}

/-- The character of a rule that applies and has no condition is always escaped, whichever rules
there are besides. -/
theorem escaped_of_anywhere (hrules : ∀ rule ∈ Rule.defaults, rule ∈ rules)
    (hmem : rule ∈ Rule.defaults) (happlies : rule.applies stack = true)
    (hleading : rule.leading = false) (htrailing : rule.trailing = false) :
    ∀ letter ∈ lettersBetween rules stack input around, letter.char = rule.character →
      letter.escaped = true := by
  intro letter hletter hc
  obtain ⟨i, hi⟩ := List.mem_iff_getElem?.mp hletter
  obtain ⟨hinput, -⟩ := getElem?_lettersBetween_eq_some.mp hi
  rw [hc] at hinput
  have hflag :=
    unconditionalAt_of_anywhere hmem happlies hleading htrailing (getElem?_enclose around hinput)
  obtain rfl :=
    Option.some.inj (hi.symm.trans (letter_escaped_of_unconditional hinput (hflag.mono hrules)))
  rfl

/-- If a backslash cannot escape it, such a character is not written at all. -/
theorem not_mem_escapeLiteral (hrules : ∀ rule ∈ Rule.defaults, rule ∈ rules)
    (hmem : rule ∈ Rule.defaults) (happlies : rule.applies stack = true)
    (hleading : rule.leading = false) (htrailing : rule.trailing = false)
    (hencode : isPunctuation rule.character = true → rule.character ∈ around.encode) :
    rule.character ∉ escapeLiteral rules stack input around := by
  have hcharacter : ∀ rule ∈ Rule.defaults, rule.leading = false → rule.trailing = false →
      rule.character ≠ '\\' ∧ isReferenceSign rule.character = false := by
    decide
  obtain ⟨hbackslash, hreference⟩ := hcharacter rule hmem hleading htrailing
  exact not_mem_writeLetters hbackslash hreference hencode
    (escaped_of_anywhere hrules hmem happlies hleading htrailing)

end always

/-! ## Letters of a literal text -/

section letters

variable {stack : List Construct} {input : List Char} {around : Surroundings} {i : Nat}

/-- The character behind one of the literal text, be it the next one or the first one of what
follows. -/
theorem getElem?_enclose_succ (h : i < input.length) :
    (around.enclose input)[around.before.length + i + 1]? = input[i + 1]?.or
      (if i + 1 = input.length then around.after.head? else none) := by
  unfold Surroundings.enclose
  rw [List.append_assoc, List.getElem?_append_right (by omega), Nat.add_assoc,
    Nat.add_sub_cancel_left]
  rcases Nat.lt_or_eq_of_le (Nat.succ_le_of_lt h) with hlt | heq
  · rw [List.getElem?_append_left hlt, List.getElem?_eq_getElem hlt]
    rfl
  · rw [if_pos heq, List.getElem?_append_right (Nat.le_of_eq heq.symm),
      List.getElem?_eq_none (Nat.le_of_eq heq.symm), ← heq, Nat.sub_self, List.head?_eq_getElem?]
    rfl

/-- What stands behind an escaped backslash as it is written is no punctuation: it is a line break,
which is not escaped itself. Otherwise the escape of the line break would already have broken the
sequence. -/
theorem not_isPunctuation_behind_backslash {rest : List Letter}
    (h : ⟨'\\', true⟩ :: rest <:+ lettersBetween Rule.defaults stack input around) :
    (behind around.after.head? rest).any isPunctuation = false := by
  have hbreaks : ∀ d, isLineBreak d = true → isPunctuation d = false := by
    intro d hd
    rcases (by simpa [isLineBreak] using hd : d = '\n' ∨ d = '\r') with rfl | rfl <;> rfl
  obtain ⟨i, hi, hrest⟩ := exists_getElem?_of_cons_suffix h
  obtain ⟨hc, hiff⟩ := getElem?_lettersBetween_eq_some.mp hi
  obtain ⟨hflagged, hnext, -⟩ := hiff.mp rfl
  have hlt := (List.getElem?_eq_some_iff.mp hc).1
  obtain ⟨⟨d, hd, hbehind⟩, honly⟩ :=
    exists_lineBreak_of_flaggedAt_backslash (getElem?_enclose around hc) hflagged
  rw [getElem?_enclose_succ hlt] at hbehind
  unfold behind
  rw [← hrest]
  cases hletter : (lettersBetween Rule.defaults stack input around)[i + 1]? with
  | none =>
      have hin : input[i + 1]? = none := by
        rw [← map_char_lettersBetween Rule.defaults stack around input, List.getElem?_map, hletter,
          Option.map_none]
      have hlast : i + 1 = input.length := Nat.le_antisymm hlt (List.getElem?_eq_none_iff.mp hin)
      rw [hin, if_pos hlast, Option.none_or] at hbehind
      rw [Option.elim_none, hbehind, Option.any_some]
      exact hbreaks d hd
  | some next =>
      obtain ⟨e, escaped⟩ := next
      obtain ⟨hin, hescaped⟩ := getElem?_lettersBetween_eq_some.mp hletter
      rw [hin] at hbehind
      obtain rfl : e = d := Option.some.inj hbehind
      cases escaped with
      | false => exact hbreaks e hd
      | true =>
          have hflag :=
            unconditionalAt_of_flaggedAt_lineBreak (getElem?_enclose around hin) hd
              (hescaped.mp rfl).1
          have hlt := (List.getElem?_eq_some_iff.mp hin).1
          exact absurd ⟨honly, ⟨'\\', getElem?_enclose around hc, by decide⟩, hlt, hflag⟩ hnext

/-- The escapes of a literal text are well formed. -/
theorem wellEscaped_lettersBetween :
    WellEscaped around.after.head? (lettersBetween Rule.defaults stack input around) where
  referenceable := by
    intro letter hletter hescaped
    obtain ⟨i, hi⟩ := List.mem_iff_getElem?.mp hletter
    obtain ⟨hc, hiff⟩ := getElem?_lettersBetween_eq_some.mp hi
    exact isReferenceable_of_flaggedAt (getElem?_enclose around hc) (hiff.mp hescaped).1
  backslash := fun _ hrest => not_isPunctuation_behind_backslash hrest

end letters

end MarkdownWriter
