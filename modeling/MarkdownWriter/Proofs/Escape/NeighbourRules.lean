import MarkdownWriter.Proofs.Escape.MarkerRows
import MarkdownWriter.Proofs.Escape.ParagraphFlags

/-!
# Rules about neighbouring characters

In the text of a paragraph a rule that applies is about the start of a line, or it looks at one
neighbour of its character or at none (`NeighbourRule`). These are all there are among the default
rules (`NeighbourRule.exists_rule_iff`).

* **What a rule about neighbours flags** (`NeighbourRule.mem_positions_iff`) can be read off three
  characters: the matches of such a rule do not overlap in a way that hides one of them, because
  none looks at both sides, or for its own character (`NeighbourRule.oneSided`).
* **What is spared** (`escapedAt_iff_flaggedAt`, `not_escapedAt_exclamation`): of the characters
  that are flagged only an exclamation mark in front of a bracket is left alone. The bracket is
  flagged itself, and its escape breaks both.

Whatever is markup wherever it stands is in `spanSigns`; a rule that accepts one of these looks at
no neighbour, but for the one about the exclamation mark (`character_of_trailing`).
-/

namespace MarkdownWriter

open Text

/-! ## The rules -/

/-- A rule about a character and the ones next to it. -/
structure NeighbourRule where
  character : Char
  /-- The constructs the rule is suspended in. -/
  outside : List Construct := []
  before : Option CharSet := none
  after : Option CharSet := none
  deriving DecidableEq, Repr

/-- The characters that end a row. -/
def lineBreaks : CharSet :=
  .of ['\r', '\n']

/-- The rules about neighbours that apply in the text of a paragraph. -/
def neighbourRules : List NeighbourRule := [
  ⟨'\t', [], none, some lineBreaks⟩,
  ⟨'\t', [], some lineBreaks, none⟩,
  ⟨' ', [], none, some lineBreaks⟩,
  ⟨' ', [], some lineBreaks, none⟩,
  ⟨'!', Construct.literalSpans, none, some (.of ['['])⟩,
  ⟨'&', [], none, some ⟨false, [('#', '#'), ('A', 'Z'), ('a', 'z')]⟩⟩,
  ⟨'(', Construct.literalSpans, some (.of [']']), none⟩,
  ⟨'*', Construct.literalSpans, none, none⟩,
  ⟨'<', Construct.literalSpans, none,
  some ⟨false, [('!', '!'), ('/', '/'), ('?', '?'), ('A', 'Z'), ('a', 'z')]⟩⟩,
  ⟨'[', Construct.literalSpans, none, none⟩,
  ⟨'\\', [], none, some lineBreaks⟩,
  ⟨'_', Construct.literalSpans, none, none⟩,
  ⟨'\x60', Construct.literalSpans, none, none⟩]

/-- The characters that are markup wherever they stand in inline content. -/
def spanSigns : List Char :=
  ['*', '[', '_', '\x60']

/-- They are neither of what may stand in front of a marker at the start of a line. -/
theorem not_spacing_of_mem_spanSigns {c : Char} (hc : c ∈ spanSigns) :
    isLineBreak c = false ∧ isSpacing c = false ∧ isDigit c = false := by
  rcases (by simpa [spanSigns] using hc : c = '*' ∨ c = '[' ∨ c = '_' ∨ c = '\x60') with rfl | rfl |
      rfl | rfl <;> decide

/-- Whether a set holds none of some characters. -/
def excludes (signs : List Char) (s : CharSet) : Bool :=
  signs.all (!s.contains ·)

theorem excludes_iff {signs : List Char} {s : CharSet} :
    excludes signs s = true ↔ ∀ c ∈ signs, s.contains c = false := by
  simp [excludes]

namespace NeighbourRule

/-- The rule itself. -/
def rule (neighbour : NeighbourRule) : Rule :=
  Rule.make neighbour.character [.phrasing] neighbour.outside false (neighbour.before.map .set)
    (neighbour.after.map .set)

/-- Whether the rule is about a character between its neighbours. -/
def accepts (neighbour : NeighbourRule) (previous : Option Char) (c : Char) (next : Option Char) :
    Bool :=
  c == neighbour.character && neighbour.before.all (fun s => previous.any s.contains) &&
    neighbour.after.all fun s => next.any s.contains

variable {neighbour : NeighbourRule}

theorem accepts_iff {previous next : Option Char} {c : Char} :
    neighbour.accepts previous c next = true ↔ c = neighbour.character ∧
      neighbour.before.all (fun s => previous.any s.contains) = true ∧
      neighbour.after.all (fun s => next.any s.contains) = true := by
  rw [accepts, Bool.and_eq_true, Bool.and_eq_true, beq_iff_eq, and_assoc]

/-- These are all other rules of Markdown that apply in a paragraph. -/
theorem filter_applies_defaults :
    Rule.defaults.filter (fun rule => rule.applies paragraphStack && !rule.atBreak) =
      neighbourRules.map rule :=
  rfl

/-- The rules about neighbours are those that apply and are not about the start of a line. -/
theorem exists_rule_iff {r : Rule} :
    r ∈ Rule.defaults ∧ r.applies paragraphStack = true ∧ r.atBreak = false ↔
      ∃ neighbour ∈ neighbourRules, r = neighbour.rule := by
  have hfilter :
      r ∈ Rule.defaults.filter (fun rule => rule.applies paragraphStack && !rule.atBreak) ↔
      ∃ neighbour ∈ neighbourRules, neighbour.rule = r := by
    rw [filter_applies_defaults, List.mem_map]
  rw [List.mem_filter, Bool.and_eq_true, Bool.not_eq_true'] at hfilter
  simpa only [eq_comm] using hfilter

/-- No rule looks at both sides, or for its own character. -/
theorem oneSided : ∀ neighbour ∈ neighbourRules,
    (neighbour.before = none ∨ neighbour.after = none) ∧
    neighbour.before.all (fun s => !s.contains neighbour.character) = true ∧
    neighbour.after.all (fun s => !s.contains neighbour.character) = true := by
  decide

theorem avoids_set {s : CharSet} {c : Char} (hc : s.contains c = false) :
    Avoids (some (.set s)) c := by
  intro offset taken rest h hmem
  obtain ⟨d, hd, rfl⟩ := Regex.takes_set.mp (fits_some.mp h)
  rw [List.mem_singleton.mp hmem, hd] at hc
  contradiction

section positions

variable {pre post : List Char} {c : Char}

/-- What a match takes are the neighbours that its rule asks for. -/
theorem accepts_of_mem_positions (h : pre.length ∈ neighbour.rule.positions (pre ++ c :: post)) :
    neighbour.accepts pre.getLast? c post.head? = true := by
  have hunmarked : (neighbour.after.map Regex.set).all Regex.isUnmarked = true := by
    cases neighbour.after <;> rfl
  obtain ⟨pre', lead, trail, post', hreported, hlength⟩ := (Rule.mem_positions_make hunmarked).mp h
  have hcharacter := hreported.getElem?_character
  have hsucc := hreported.getElem?_succ
  rw [← hlength, getElem?_append_cons] at hcharacter
  rw [← hlength, getElem?_append_cons_succ] at hsucc
  refine accepts_iff.mpr ⟨Option.some.inj hcharacter, ?_, ?_⟩
  · cases hs : neighbour.before with
    | none => rfl
    | some s =>
        have hfits := hreported.lead_fits
        rw [hs] at hfits
        obtain ⟨d, hd, rfl⟩ := Regex.takes_set.mp (fits_some.mp hfits)
        obtain ⟨hlead, hpred⟩ := hreported.getElem?_pred (List.nil_append [d]).symm
        rw [← hlength, List.length_nil, Nat.add_zero] at hlead
        rw [List.length_nil, Nat.add_zero, List.getElem?_append_left (by omega)] at hpred
        rw [Option.all_some, List.getLast?_eq_getElem?, hlead, Nat.add_sub_cancel, hpred,
          Option.any_some]
        exact hd
  · cases hs : neighbour.after with
    | none => rfl
    | some s =>
        have hfits := hreported.trail_fits
        rw [hs] at hfits
        obtain ⟨d, hd, rfl⟩ := Regex.takes_set.mp (fits_some.mp hfits)
        rw [Option.all_some, hsucc]
        exact hd

/-- Where the neighbours are as a rule asks there is a match, and no other one can hide it. -/
theorem mem_positions_of_accepts (hmem : neighbour ∈ neighbourRules)
    (h : neighbour.accepts pre.getLast? c post.head? = true) :
    pre.length ∈ neighbour.rule.positions (pre ++ c :: post) := by
  obtain ⟨hsides, hbefore, hafter⟩ := oneSided neighbour hmem
  obtain ⟨rfl, hprevious, hnext⟩ := accepts_iff.mp h
  unfold rule
  cases hs : neighbour.before with
  | none =>
      cases ht : neighbour.after with
      | none => exact (Rule.mem_positions_of_anywhere _ _).mpr (getElem?_append_cons pre)
      | some t =>
          rw [ht] at hafter hnext
          obtain ⟨d, hd, hcontains⟩ := (Option.any_eq_true ..).mp hnext
          obtain ⟨post, rfl⟩ := List.head?_eq_some_iff.mp hd
          exact Rule.mem_positions_of_trailing _ _ rfl (avoids_set (by simpa using hafter)) rfl
            (fits_some.mpr (Regex.takes_set.mpr ⟨d, hcontains, rfl⟩))
  | some s =>
      have hnone : neighbour.after = none :=
        hsides.resolve_left (by rw [hs]; exact Option.some_ne_none s)
      rw [hs] at hbefore hprevious
      obtain ⟨d, hd, hcontains⟩ := (Option.any_eq_true ..).mp hprevious
      obtain ⟨pre, rfl⟩ := List.getLast?_eq_some_iff.mp hd
      rw [hnone, List.length_append, List.append_assoc]
      refine Rule.mem_positions_of_leading _ _ (fun h => ?_) (avoids_set (by simpa using hbefore))
        rfl
        (Regex.takes_set.mpr ⟨d, hcontains, rfl⟩)
      obtain ⟨e, -, rfl⟩ := Regex.takes_set.mp h
      exact ⟨e, rfl⟩

/-- **What a rule about neighbours flags.** -/
theorem mem_positions_iff (hmem : neighbour ∈ neighbourRules) :
    pre.length ∈ neighbour.rule.positions (pre ++ c :: post) ↔
      neighbour.accepts pre.getLast? c post.head? = true :=
  ⟨accepts_of_mem_positions, mem_positions_of_accepts hmem⟩

end positions

end NeighbourRule

/-! ## Flags -/

theorem contains_lineBreaks : lineBreaks.contains = isLineBreak := by
  funext c
  rw [Bool.eq_iff_iff, isLineBreak_iff]
  simp [lineBreaks, or_comm]

section flags

variable {pre post : List Char} {c : Char}

/-- What flags a character in the text of a paragraph is a rule about neighbours or one about the
start of a line. -/
theorem flaggedAt_iff :
    FlaggedAt Rule.defaults paragraphStack (pre ++ c :: post) pre.length ↔
      (∃ neighbour ∈ neighbourRules, neighbour.accepts pre.getLast? c post.head? = true) ∨
        ∃ line ∈ lineRules, line.rule.FlagsAt paragraphStack (pre ++ c :: post) pre.length := by
  constructor
  · rintro ⟨rule, hmem, hflags⟩
    cases hbreak : rule.atBreak with
    | true =>
        obtain ⟨line, hline, rfl⟩ := exists_lineRule_iff.mp ⟨hmem, hbreak⟩
        exact .inr ⟨line, hline, hflags⟩
    | false =>
        obtain ⟨neighbour, hneighbour, rfl⟩ :=
          NeighbourRule.exists_rule_iff.mp ⟨hmem, hflags.1, hbreak⟩
        exact .inl ⟨neighbour, hneighbour, (NeighbourRule.mem_positions_iff hneighbour).mp hflags.2⟩
  · rintro (⟨neighbour, hneighbour, haccepts⟩ | ⟨line, hline, hflags⟩)
    · obtain ⟨hmem, happlies, -⟩ := NeighbourRule.exists_rule_iff.mpr ⟨neighbour, hneighbour, rfl⟩
      exact ⟨neighbour.rule, hmem, happlies,
        (NeighbourRule.mem_positions_iff hneighbour).mpr haccepts⟩
    · exact ⟨line.rule, (exists_lineRule_iff.mpr ⟨line, hline, rfl⟩).1, hflags⟩

/-- What is flagged whatever is around it is markup wherever it stands, or a space or tab between
two line breaks. -/
theorem cases_of_unconditionalAt
    (h : UnconditionalAt Rule.defaults paragraphStack (pre ++ c :: post) pre.length) :
    c ∈ spanSigns ∨ pre.getLast?.any isLineBreak = true ∧ post.head?.any isLineBreak = true := by
  have hbreak : ∀ rule ∈ Rule.defaults, rule.leading = false → rule.atBreak = false := by decide
  have hafter : ∀ neighbour ∈ neighbourRules, neighbour.before.isSome = false →
      ∀ rule ∈ Rule.defaults, rule.applies paragraphStack = true → rule.trailing = false →
      rule.character = neighbour.character → neighbour.character ∈ spanSigns ∨
      neighbour.after = some lineBreaks ∧ rule.atBreak = false := by
    decide
  have hbefore : ∀ neighbour ∈ neighbourRules, neighbour.before.isSome = false →
      ∀ other ∈ neighbourRules, other.rule.trailing = false →
      other.character = neighbour.character → neighbour.character ∈ spanSigns ∨
      other.before = some lineBreaks := by
    decide
  obtain ⟨⟨rule, hmem, hflags, hleading⟩, rule', hmem', hflags', htrailing⟩ := h
  obtain ⟨neighbour, hneighbour, rfl⟩ :=
    NeighbourRule.exists_rule_iff.mp ⟨hmem, hflags.1, hbreak rule hmem hleading⟩
  have haccepts := (NeighbourRule.mem_positions_iff hneighbour).mp hflags.2
  have hcharacter : rule'.character = neighbour.character :=
    Option.some.inj ((Rule.getElem?_of_mem_defaults hmem' hflags'.2).symm.trans
      (Rule.getElem?_of_mem_defaults hmem hflags.2))
  have hnone : neighbour.before.isSome = false := by
    rw [← hleading]
    exact Option.isSome_map.symm
  obtain ⟨rfl, -, hnext⟩ := NeighbourRule.accepts_iff.mp haccepts
  rcases hafter neighbour hneighbour hnone rule' hmem' hflags'.1 htrailing hcharacter with hsign |
      ⟨hafter, hquiet⟩
  · exact .inl hsign
  · obtain ⟨other, hother, rfl⟩ := NeighbourRule.exists_rule_iff.mp ⟨hmem', hflags'.1, hquiet⟩
    refine (hbefore neighbour hneighbour hnone other hother htrailing hcharacter).imp id
      fun hlead => ?_
    have haccepts' := (NeighbourRule.mem_positions_iff hother).mp hflags'.2
    obtain ⟨-, hprevious, -⟩ := NeighbourRule.accepts_iff.mp haccepts'
    rw [hlead, Option.all_some, contains_lineBreaks] at hprevious
    rw [hafter, Option.all_some, contains_lineBreaks] at hnext
    exact ⟨hprevious, hnext⟩

end flags

/-! ## Sparing -/

section sparing

variable {input : List Char} {around : Surroundings} {i : Nat} {c : Char}

/-- A rule that looks at what follows, and accepts what is markup wherever it stands, is about an
exclamation mark or asterisks. -/
theorem character_of_trailing {rule : Rule} (hmem : rule ∈ Rule.defaults) {pre post : List Char}
    {d : Char} (hflags : rule.FlagsAt paragraphStack (pre ++ c :: d :: post) pre.length)
    (htrailing : rule.trailing = true) (hd : d ∈ spanSigns) : c = '!' ∨ c = '*' := by
  have hneighbours : ∀ neighbour ∈ neighbourRules, neighbour.after.all (excludes spanSigns) = true ∨
      neighbour.character = '!' := by decide
  have hlines : ∀ line ∈ lineRules, line.follows.all (excludes spanSigns) = true ∨
      line.character = '*' := by decide
  have hc : rule.character = c :=
    Option.some.inj ((Rule.getElem?_of_mem_defaults hmem hflags.2).symm.trans
      (getElem?_append_cons pre))
  cases hbreak : rule.atBreak with
  | false =>
      obtain ⟨neighbour, hneighbour, rfl⟩ :=
        NeighbourRule.exists_rule_iff.mp ⟨hmem, hflags.1, hbreak⟩
      have haccepts := (NeighbourRule.mem_positions_iff hneighbour).mp hflags.2
      obtain ⟨-, -, hnext⟩ := NeighbourRule.accepts_iff.mp haccepts
      refine .inl (hc.symm.trans ((hneighbours neighbour hneighbour).resolve_left fun hexcludes =>
        ?_))
      cases hs : neighbour.after with
      | none =>
          have hsome : (neighbour.after.map Regex.set).isSome = true := htrailing
          rw [hs] at hsome
          contradiction
      | some s =>
          rw [hs] at hnext hexcludes
          exact absurd hnext (Bool.eq_false_iff.mp (excludes_iff.mp hexcludes d hd))
  | true =>
      obtain ⟨line, hline, rfl⟩ := exists_lineRule_iff.mp ⟨hmem, hbreak⟩
      obtain ⟨pre', lead, trail, post', hreported, hlength⟩ :=
        (Rule.mem_positions_make LineRule.after_isUnmarked).mp hflags.2
      have hsucc := hreported.getElem?_succ
      rw [← hlength, getElem?_append_cons_succ, List.head?_cons] at hsucc
      refine .inr (hc.symm.trans ((hlines line hline).resolve_left fun hexcludes => ?_))
      rcases LineRule.fits_after.mp hreported.trail_fits with ⟨hfollows, -⟩ |
          ⟨s, x, hfollows, hx, rfl⟩ | ⟨-, -, rfl, rfl⟩
      · have hsome : line.after.isSome = true := htrailing
        rw [LineRule.after, hfollows] at hsome
        contradiction
      · obtain rfl : d = x := Option.some.inj hsucc
        rw [hfollows] at hexcludes
        exact absurd hx (Bool.eq_false_iff.mp (excludes_iff.mp hexcludes d hd))
      · contradiction

/-- No rule that looks at what stands before its character accepts what is markup wherever it
stands. -/
theorem leading_eq_false {rule : Rule} (hmem : rule ∈ Rule.defaults) {pre post : List Char}
    {d : Char}
    (hflags : rule.FlagsAt paragraphStack ((pre ++ [d]) ++ c :: post) (pre ++ [d]).length)
    (hd : d ∈ spanSigns) :
    rule.leading = false := by
  have hneighbours : ∀ neighbour ∈ neighbourRules,
      neighbour.before.all (excludes spanSigns) = true := by decide
  cases hbreak : rule.atBreak with
  | false =>
      obtain ⟨neighbour, hneighbour, rfl⟩ :=
        NeighbourRule.exists_rule_iff.mp ⟨hmem, hflags.1, hbreak⟩
      have haccepts := (NeighbourRule.mem_positions_iff hneighbour).mp hflags.2
      obtain ⟨-, hprevious, -⟩ := NeighbourRule.accepts_iff.mp haccepts
      rw [List.getLast?_concat] at hprevious
      have hexcludes := hneighbours neighbour hneighbour
      change (neighbour.before.map Regex.set).isSome = false
      cases hs : neighbour.before with
      | none => rfl
      | some s =>
          rw [hs] at hprevious hexcludes
          exact absurd hprevious (Bool.eq_false_iff.mp (excludes_iff.mp hexcludes d hd))
  | true =>
      have htake : ((pre ++ [d]) ++ c :: post).take (pre ++ [d]).length = pre ++ d :: [] :=
        List.take_left
      have hnone :=
        not_mem_positions_of_take hmem hbreak htake (not_spacing_of_mem_spanSigns hd) fun e he =>
        absurd he List.not_mem_nil
      exact absurd hflags.2 hnone

/-- Only an exclamation mark is spared by the character behind it. -/
theorem not_sparedByNext (hi : input[i]? = some c) (hne : c ≠ '!')
    (hflag : FlaggedAt Rule.defaults paragraphStack (around.enclose input)
      (around.before.length + i)) :
    ¬ SparedByNext Rule.defaults paragraphStack input around i := by
  have hstar : Rule.inlineMarkup '*' none none ∈ Rule.defaults := by
    simp [Rule.defaults, Rule.whitespaceRules, Rule.punctuationRules]
  rintro ⟨honly, -, hlt, hnext⟩
  have hc := getElem?_enclose around hi
  obtain ⟨pre, post, htext, hpre⟩ :=
    exists_append_of_getElem?_pair hc (getElem?_enclose around (List.getElem?_eq_getElem hlt))
  rw [htext, ← hpre, List.append_cons, show pre.length + 1 = (pre ++ [c]).length by simp] at hnext
  rcases cases_of_unconditionalAt hnext with hsign | ⟨hbreak, -⟩
  · obtain ⟨rule, hmem, hflags⟩ := hflag
    have htrailing := honly rule hmem hflags
    rw [htext, ← hpre] at hflags
    obtain rfl := (character_of_trailing hmem hflags htrailing hsign).resolve_left hne
    exact (unconditionalAt_iff.mp (unconditionalAt_of_anywhere hstar rfl rfl rfl hc)).2 honly
  · rw [List.getLast?_concat, Option.any_some] at hbreak
    exact not_flaggedAt_of_isLineBreak hc hbreak hflag

/-- No character is spared by the one before it. -/
theorem not_sparedByPrevious (hi : input[i]? = some c)
    (hflag : FlaggedAt Rule.defaults paragraphStack (around.enclose input)
      (around.before.length + i)) :
    ¬ SparedByPrevious Rule.defaults paragraphStack input around i := by
  rintro ⟨honly, hpos, ⟨d, hd, -⟩, hprevious⟩
  have hc := getElem?_enclose around hi
  obtain ⟨n, hn⟩ : ∃ n, around.before.length + i = n + 1 := ⟨_, (Nat.sub_add_cancel hpos).symm⟩
  rw [hn] at hc hflag honly
  rw [hn, Nat.add_sub_cancel] at hd hprevious
  obtain ⟨pre, post, htext, rfl⟩ := exists_append_of_getElem?_pair hd hc
  rw [htext] at hprevious
  rcases cases_of_unconditionalAt hprevious with hsign | ⟨-, hbreak⟩
  · obtain ⟨rule, hmem, hflags⟩ := hflag
    have hleading := honly rule hmem hflags
    rw [htext, List.append_cons, show pre.length + 1 = (pre ++ [d]).length by simp] at hflags
    exact absurd hleading (Bool.eq_false_iff.mp (leading_eq_false hmem hflags hsign))
  · exact not_flaggedAt_of_isLineBreak hc hbreak hflag

/-- In the text of a paragraph a flagged character is escaped, whatever is around it, if it is no
exclamation mark. -/
theorem escapedAt_iff_flaggedAt (hi : input[i]? = some c) (hne : c ≠ '!') :
    EscapedAt Rule.defaults paragraphStack input around i ↔
      FlaggedAt Rule.defaults paragraphStack (around.enclose input) (around.before.length + i) :=
  ⟨And.left, fun hflag => ⟨hflag, not_sparedByNext hi hne hflag, not_sparedByPrevious hi hflag⟩⟩

/-- An exclamation mark is flagged for the bracket behind it. -/
theorem getElem?_succ_of_exclamation {text : List Char} {place : Nat} (hc : text[place]? = some '!')
    (hflag : FlaggedAt Rule.defaults paragraphStack text place) : text[place + 1]? = some '[' := by
  have hneighbours : ∀ neighbour ∈ neighbourRules, neighbour.character = '!' →
      neighbour.after = some (.of ['[']) := by decide
  have hlines : ∀ line ∈ lineRules, line.character ≠ '!' := by decide
  obtain ⟨pre, post, rfl, rfl⟩ := exists_append_of_getElem? hc
  rcases flaggedAt_iff.mp hflag with ⟨neighbour, hmem, haccepts⟩ | ⟨line, hline, hflags⟩
  · obtain ⟨hcharacter, -, hnext⟩ := NeighbourRule.accepts_iff.mp haccepts
    rw [hneighbours neighbour hmem hcharacter.symm] at hnext
    obtain ⟨d, hd, hcontains⟩ := (Option.any_eq_true ..).mp hnext
    rw [getElem?_append_cons_succ, hd]
    simpa using hcontains
  · obtain ⟨hmem, -⟩ := exists_lineRule_iff.mpr ⟨line, hline, rfl⟩
    exact absurd (Option.some.inj ((Rule.getElem?_of_mem_defaults hmem hflags.2).symm.trans hc))
      (hlines line hline)

/-- The bracket spares it if it is part of the text. -/
theorem not_escapedAt_exclamation (hi : input[i]? = some '!')
    (hafter : around.after.head? ≠ some '[') :
    ¬ EscapedAt Rule.defaults paragraphStack input around i := by
  have htrailing : ∀ rule ∈ Rule.defaults, rule.character = '!' → rule.trailing = true := by decide
  have hbracket : Rule.inlineMarkup '[' none none ∈ Rule.defaults := by
    simp [Rule.defaults, Rule.whitespaceRules, Rule.punctuationRules]
  rintro ⟨hflag, hnext, -⟩
  have hlt := (List.getElem?_eq_some_iff.mp hi).1
  have hc := getElem?_enclose around hi
  have hopen := getElem?_succ_of_exclamation hc hflag
  rcases Nat.lt_or_eq_of_le (Nat.succ_le_of_lt hlt) with hin | hlast
  · refine hnext ⟨fun other hmem hflags => ?_, ⟨'!', hc, by decide⟩, hin,
      unconditionalAt_of_anywhere hbracket rfl rfl rfl hopen⟩
    exact htrailing other hmem (Option.some.inj
      ((Rule.getElem?_of_mem_defaults hmem hflags.2).symm.trans hc))
  · rw [getElem?_enclose_succ hlt, List.getElem?_eq_none (Nat.le_of_eq hlast.symm), if_pos hlast,
      Option.none_or] at hopen
    exact hafter hopen

end sparing

end MarkdownWriter
