import MarkdownWriter.Proofs.Escape.Framed
import MarkdownWriter.Proofs.Escape.LineStarts

/-!
# Brackets behind a closing one

A literal text that begins with `[` or `(` and is written behind a `]` would turn what is before it
into a link. Which of these two brackets are escaped depends on the open constructs, and on whether
the closing bracket is told of (`escapesBracket`, `escapedAt_bracket_iff`).

* **Square brackets** (`escapedAt_open_iff`) are escaped wherever markup or labels are read,
  whatever is in front.
* **Round brackets** (`escapedAt_paren_iff`) are escaped right behind a closing bracket wherever
  markup is read, but not in labels. There the closing bracket is taken for one that is escaped
  itself, whoever wrote it. Where nothing is told to be in front, they are only escaped in raw
  destinations.
-/

namespace MarkdownWriter

/-! ## Where brackets are escaped -/

/-- Whether the markup of inline content is read among the open constructs. -/
def readsMarkup (stack : List Construct) : Bool :=
  stack.contains .phrasing && !stack.any Construct.literalSpans.contains

/-- Whether closing brackets end something among the open constructs. -/
def readsLabel (stack : List Construct) : Bool :=
  stack.contains .label || stack.contains .reference

/-- Whether the rules of Markdown have a bracket escaped that begins a literal text behind a closing
one, which may be told of or hidden by something without characters. -/
def escapesBracket (stack : List Construct) (told : Bool) : Char → Bool
  | '[' => readsMarkup stack || readsLabel stack
  | '(' => stack.contains .destinationRaw || (told && readsMarkup stack && !readsLabel stack)
  | _ => false

/-- What is told to be in front of a text behind a closing bracket. -/
def bracketBefore (told : Bool) : List Char :=
  if told then [']'] else []

section applies

variable {stack : List Construct} {c : Char} {before after : Option Regex}

/-- A rule about inline markup applies where that is read. -/
theorem applies_inlineMarkup :
    (Rule.inlineMarkup c before after).applies stack = readsMarkup stack := by
  have hphrasing : stack.any [Construct.phrasing].contains = stack.contains .phrasing := by
    rw [Bool.eq_iff_iff]
    simp
  rw [readsMarkup, ← hphrasing]
  rfl

/-- A rule about labels applies where brackets end one. -/
theorem applies_anywhereIn_label :
    (Rule.anywhereIn [.label, .reference] c).applies stack = readsLabel stack := by
  rw [Bool.eq_iff_iff]
  simp [Rule.anywhereIn, Rule.make, Rule.applies, readsLabel, and_or_left, exists_or]

/-- A rule about bare destinations applies in those. -/
theorem applies_anywhereIn_destinationRaw :
    (Rule.anywhereIn [.destinationRaw] c).applies stack = stack.contains .destinationRaw := by
  rw [Bool.eq_iff_iff]
  simp [Rule.anywhereIn, Rule.make, Rule.applies]

end applies

/-! ## The rules about brackets -/

namespace Rule

/-- There is a rule about opening brackets in inline content. -/
theorem inlineMarkup_open_mem_defaults : inlineMarkup '[' none none ∈ defaults := by
  simp [defaults, whitespaceRules, punctuationRules]

/-- There is one about parentheses in bare destinations. -/
theorem anywhereIn_destinationRaw_mem_defaults : anywhereIn [.destinationRaw] '(' ∈ defaults := by
  simp [defaults, whitespaceRules, punctuationRules]

/-- The rules about opening brackets: all others are about the start of a line. -/
theorem eq_of_character_open : ∀ rule ∈ defaults, rule.character = '[' →
    rule.atBreak = true ∨ rule = inlineMarkup '[' none none ∨
    rule = anywhereIn [.label, .reference] '[' := by
  simp [defaults, whitespaceRules, punctuationRules, anywhereIn, inlineMarkup, blockMarkup, make]

/-- The rules about opening parentheses; one of them asks for a closing bracket in front. -/
theorem eq_of_character_paren : ∀ rule ∈ defaults, rule.character = '(' →
    rule = anywhereIn [.destinationRaw] '(' ∨
    rule = inlineMarkup '(' (some (Regex.character ']')) none := by
  simp [defaults, whitespaceRules, punctuationRules, anywhereIn, inlineMarkup, blockMarkup, make]

/-- The only rule about closing brackets. -/
theorem eq_of_character_close : ∀ rule ∈ defaults, rule.character = ']' →
    rule = anywhereIn [.label, .reference] ']' := by
  simp [defaults, whitespaceRules, punctuationRules, anywhereIn, inlineMarkup, blockMarkup, make]

end Rule

section brackets

variable {stack : List Construct} {input : List Char} {told : Bool} {around : Surroundings}

/-- A parenthesis right behind a bracket is flagged for it. -/
theorem mem_positions_paren (rest : List Char) :
    1 ∈ (Rule.inlineMarkup '(' (some (Regex.character ']')) none).positions
      (']' :: '(' :: rest) := by
  have havoids : Avoids (Rule.context false (some (Regex.character ']'))) '(' := by
    intro offset taken rest h
    have htakes : (Regex.character ']').Takes offset taken rest := h
    obtain rfl := Regex.takes_character.mp htakes
    decide
  have hlead : (Regex.character ']').Takes 0 [']'] ('(' :: rest) := Regex.takes_character.mpr rfl
  have hhit : Hit '(' (Rule.context false (some (Regex.character ']'))) none (']' :: '(' :: rest) []
      [']'] [] rest :=
    ⟨rfl, hlead, rfl⟩
  apply (Rule.mem_positions_make rfl).mpr
  rcases hhit.reported_or_inside rfl havoids with
    ⟨trail, post, hreported⟩ | ⟨pre, lead, trail, post, front, d, back, -, -, hfront, hnil, -⟩
  · exact ⟨[], [']'], trail, post, hreported, rfl⟩
  · -- nothing is in front of the hit
    exact absurd (List.append_eq_nil_iff.mp hnil.symm).2 hfront

/-- Behind a bracket that is not told of, nothing is. -/
theorem pair_not_mem_positions (text : List Char) :
    0 ∉ (Rule.inlineMarkup '(' (some (Regex.character ']')) none).positions text := by
  intro h
  obtain ⟨pre, lead, trail, post, hreported, hlength⟩ := (Rule.mem_positions_make rfl).mp h
  have htakes : (Regex.character ']').Takes pre.length lead ('(' :: (trail ++ post)) :=
    hreported.lead_fits
  rw [Regex.takes_character.mp htakes, List.length_singleton] at hlength
  omega

/-- No rule about the start of a line flags what is behind a bracket, or behind nothing. -/
theorem not_mem_positions_behind_bracket {rule : Rule} (hmem : rule ∈ Rule.defaults)
    (hbreak : rule.atBreak = true) (rest : List Char) :
    (bracketBefore told).length ∉ rule.positions (bracketBefore told ++ rest) := by
  cases told with
  | true =>
      have htake : (bracketBefore true ++ rest).take 1 = [] ++ ']' :: [] := rfl
      exact not_mem_positions_of_take hmem hbreak htake (by decide) (by simp)
  | false =>
      intro h
      obtain ⟨pre, b, front, htake, -⟩ := exists_lineBreak_of_mem_positions hmem hbreak h
      have htake : [] = pre ++ b :: front := htake
      simp at htake

/-- Where a text begins, its first character stands. -/
theorem exists_enclose_eq {c : Char} (hinput : input.head? = some c) :
    ∃ rest, around.enclose input = around.before ++ c :: rest ∧
      (around.before ++ c :: rest)[around.before.length]? = some c := by
  obtain ⟨rest, rfl⟩ := List.head?_eq_some_iff.mp hinput
  refine ⟨rest ++ around.after, ?_, ?_⟩
  · rw [Surroundings.enclose, List.append_assoc, List.cons_append]
  · rw [List.getElem?_append_right (Nat.le_refl _), Nat.sub_self, List.getElem?_cons_zero]

/-- **Square brackets.** -/
theorem escapedAt_open_iff (hbefore : around.before = bracketBefore told)
    (hinput : input.head? = some '[') :
    EscapedAt Rule.defaults stack input around 0 ↔ readsMarkup stack = true ∨
      readsLabel stack = true := by
  obtain ⟨rest, htext, hplace⟩ := @exists_enclose_eq input around _ hinput
  constructor
  · rintro ⟨hflag, -⟩
    rw [htext, Nat.add_zero] at hflag
    obtain ⟨rule, hmem, hflags, hrule⟩ := exists_rule_of_flaggedAt hplace hflag
    rcases Rule.eq_of_character_open rule hmem hrule with hbreak | rfl | rfl
    · rw [hbefore] at hflags
      exact absurd hflags.2 (not_mem_positions_behind_bracket hmem hbreak _)
    · exact .inl (applies_inlineMarkup.symm.trans hflags.1)
    · exact .inr (applies_anywhereIn_label.symm.trans hflags.1)
  · intro hopen
    have hflag :
        UnconditionalAt Rule.defaults stack (around.before ++ '[' :: rest)
          around.before.length := by
      rcases hopen with hmarkup | hlabel
      · exact unconditionalAt_of_anywhere Rule.inlineMarkup_open_mem_defaults
          (applies_inlineMarkup.trans hmarkup) rfl
          rfl hplace
      · exact unconditionalAt_of_anywhere (Rule.anywhereIn_label_mem_defaults (.inl rfl))
          (applies_anywhereIn_label.trans hlabel) rfl rfl hplace
    rw [← htext] at hflag
    exact UnconditionalAt.escapedAt hflag

/-- Where no destination is read, only the rule about the pair flags a parenthesis. -/
theorem eq_of_flagsAt_paren (hraw : stack.contains .destinationRaw = false) {text : List Char}
    {offset : Nat} (hplace : text[offset]? = some '(') {rule : Rule} (hmem : rule ∈ Rule.defaults)
    (hflags : rule.FlagsAt stack text offset) :
    rule = Rule.inlineMarkup '(' (some (Regex.character ']')) none := by
  have hrule := Option.some.inj ((Rule.getElem?_of_mem_defaults hmem hflags.2).symm.trans hplace)
  rcases Rule.eq_of_character_paren rule hmem hrule with rfl | rfl
  · rw [← applies_anywhereIn_destinationRaw, hflags.1] at hraw
    contradiction
  · rfl

/-- A closing bracket is flagged, and then unconditionally, where it ends a label. -/
theorem unconditionalAt_close_iff {text : List Char} {offset : Nat}
    (hplace : text[offset]? = some ']') :
    UnconditionalAt Rule.defaults stack text offset ↔ readsLabel stack = true := by
  constructor
  · rintro ⟨⟨rule, hmem, hflags, -⟩, -⟩
    have hrule := Option.some.inj ((Rule.getElem?_of_mem_defaults hmem hflags.2).symm.trans hplace)
    rw [Rule.eq_of_character_close rule hmem hrule] at hflags
    exact applies_anywhereIn_label.symm.trans hflags.1
  · intro hlabel
    exact @unconditionalAt_of_anywhere stack _ _ (Rule.anywhereIn [.label, .reference] ']')
      (Rule.anywhereIn_label_mem_defaults (.inr rfl)) (applies_anywhereIn_label.trans hlabel) rfl
        rfl hplace

/-- Where no destination is read, a parenthesis right behind a closing bracket is escaped unless
that ends a label. In a label the closing bracket is unsafe by itself, so the rule about the pair is
taken to be broken already. -/
theorem escapedAt_pair_iff (hbefore : around.before = [']']) (hinput : input.head? = some '(')
    (hraw : stack.contains .destinationRaw = false) :
    EscapedAt Rule.defaults stack input around 0 ↔ readsMarkup stack = true ∧
      readsLabel stack = false := by
  obtain ⟨rest, htext, hplace⟩ := @exists_enclose_eq input around _ hinput
  rw [hbefore] at htext hplace
  have hpair : Rule.inlineMarkup '(' (some (Regex.character ']')) none ∈ Rule.defaults := by
    simp [Rule.defaults, Rule.whitespaceRules, Rule.punctuationRules]
  unfold EscapedAt SparedByNext SparedByPrevious
  rw [htext, hbefore]
  constructor
  · rintro ⟨⟨rule, hmem, hflags⟩, -, hspared⟩
    rw [eq_of_flagsAt_paren hraw hplace hmem hflags] at hflags
    refine ⟨applies_inlineMarkup.symm.trans hflags.1, ?_⟩
    rw [← Bool.not_eq_true]
    intro hlabel
    apply hspared
    refine ⟨fun rule hmem hflags => ?_, Nat.zero_lt_one, ⟨']', rfl, by decide⟩, ?_⟩
    · rw [eq_of_flagsAt_paren hraw hplace hmem hflags]
      rfl
    · exact (unconditionalAt_close_iff rfl).mpr hlabel
  · rintro ⟨hmarkup, hlabel⟩
    have hflags : (Rule.inlineMarkup '(' (some (Regex.character ']')) none).FlagsAt stack
        (']' :: '(' :: rest) 1 :=
      ⟨applies_inlineMarkup.trans hmarkup, mem_positions_paren rest⟩
    refine ⟨⟨_, hpair, hflags⟩, ?_, ?_⟩
    · rintro ⟨htrailing, -⟩
      exact absurd (htrailing _ hpair hflags) Bool.false_ne_true
    · rintro ⟨-, -, -, hprevious⟩
      rw [(unconditionalAt_close_iff rfl).mp hprevious] at hlabel
      contradiction

/-- **Round brackets.** In a raw destination they are escaped whatever is in front of them, and else
for the closing bracket in front, if that is told of. -/
theorem escapedAt_paren_iff (hbefore : around.before = bracketBefore told)
    (hinput : input.head? = some '(') :
    EscapedAt Rule.defaults stack input around 0 ↔
      stack.contains .destinationRaw = true ∨
        (told = true ∧ readsMarkup stack = true ∧ readsLabel stack = false) := by
  obtain ⟨rest, htext, hplace⟩ := @exists_enclose_eq input around _ hinput
  by_cases hraw : stack.contains .destinationRaw = true
  · have hflag :
        UnconditionalAt Rule.defaults stack (around.before ++ '(' :: rest) around.before.length :=
      unconditionalAt_of_anywhere Rule.anywhereIn_destinationRaw_mem_defaults
        (applies_anywhereIn_destinationRaw.trans hraw) rfl rfl hplace
    rw [← htext] at hflag
    exact iff_of_true (UnconditionalAt.escapedAt hflag) (.inl hraw)
  rw [or_iff_right hraw]
  rw [Bool.not_eq_true] at hraw
  cases told with
  | true => simpa using escapedAt_pair_iff hbefore hinput hraw
  | false =>
      refine iff_of_false (fun hescaped => ?_) fun htold => Bool.false_ne_true htold.1
      have hflag := hescaped.1
      rw [htext, Nat.add_zero] at hflag
      obtain ⟨rule, hmem, hflags, -⟩ := exists_rule_of_flaggedAt hplace hflag
      have hposition := hflags.2
      rw [eq_of_flagsAt_paren hraw hplace hmem hflags, hbefore] at hposition
      exact pair_not_mem_positions _ hposition

/-- **Brackets behind a closing one.** Whether a bracket is escaped with which a literal text
begins, be the closing bracket told of or not. -/
theorem escapedAt_bracket_iff (hbefore : around.before = bracketBefore told) {c : Char}
    (hc : c ∈ ['[', '(']) (hinput : input.head? = some c) :
    EscapedAt Rule.defaults stack input around 0 ↔ escapesBracket stack told c = true := by
  rcases (by simpa using hc : c = '[' ∨ c = '(') with rfl | rfl
  · rw [escapedAt_open_iff hbefore hinput]
    simp [escapesBracket]
  · rw [escapedAt_paren_iff hbefore hinput]
    simp [escapesBracket, and_assoc]

end brackets

end MarkdownWriter
