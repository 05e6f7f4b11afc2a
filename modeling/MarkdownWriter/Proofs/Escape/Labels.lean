import MarkdownWriter.Proofs.Escape.Decoding
import MarkdownWriter.Proofs.Escape.Delimiters
import MarkdownWriter.Proofs.Escape.MarkerRows

/-!
# Labels in different places

The label of a definition and the labels of its references are escaped in different places: behind
different texts, with different constructs open. They are written alike all the same
(`escapeLiteral_label_eq`), because what stands before a label ends with its opening bracket.
Nothing that a rule asks for before a character goes past that bracket, and the bracket itself is
flagged in either place, so that it spares the first character or does not.

A search for a list marker might still come by other matches behind different texts, as every match
depends on the ones before it (`LineRule.Cut.reportedAt_iff`). But the rows it depends on are bare,
and there is no bracket in a bare row (`LineRule.ReportedAt.behind`).

A reader that begins behind the opening bracket comes to the closing one just when it has read the
label (`untilBare_label`).
-/

namespace MarkdownWriter

open Text

/-! ## The same flags -/

/-- Two places, each of its own text, that are flagged by the same rules. -/
def AgreeAt (rules : List Rule) (stack stack' : List Construct) (text text' : List Char)
    (offset offset' : Nat) : Prop :=
  ∀ rule ∈ rules, rule.FlagsAt stack text offset ↔ rule.FlagsAt stack' text' offset'

namespace AgreeAt

variable {rules : List Rule} {stack stack' : List Construct} {text text' : List Char}
  {offset offset' : Nat}

/-- To agree is mutual. -/
theorem symm (h : AgreeAt rules stack stack' text text' offset offset') :
    AgreeAt rules stack' stack text' text offset' offset :=
  fun rule hmem => (h rule hmem).symm

/-- Flags agree. -/
theorem flaggedAt (h : AgreeAt rules stack stack' text text' offset offset')
    (hflagged : FlaggedAt rules stack text offset) : FlaggedAt rules stack' text' offset' := by
  obtain ⟨rule, hmem, hflags⟩ := hflagged
  exact ⟨rule, hmem, (h rule hmem).mp hflags⟩

/-- So do the reasons: only for what is in front, -/
theorem onlyLeadingAt (h : AgreeAt rules stack stack' text text' offset offset')
    (honly : OnlyLeadingAt rules stack text offset) : OnlyLeadingAt rules stack' text' offset' := by
  intro rule hmem hflags
  exact honly rule hmem ((h rule hmem).mpr hflags)

/-- only for what follows, -/
theorem onlyTrailingAt (h : AgreeAt rules stack stack' text text' offset offset')
    (honly : OnlyTrailingAt rules stack text offset) :
    OnlyTrailingAt rules stack' text' offset' := by
  intro rule hmem hflags
  exact honly rule hmem ((h rule hmem).mpr hflags)

/-- or whatever stands around. -/
theorem unconditionalAt (h : AgreeAt rules stack stack' text text' offset offset')
    (hflag : UnconditionalAt rules stack text offset) :
    UnconditionalAt rules stack' text' offset' := by
  rw [unconditionalAt_iff] at hflag ⊢
  exact ⟨fun honly => hflag.1 (h.symm.onlyLeadingAt honly),
    fun honly => hflag.2 (h.symm.onlyTrailingAt honly)⟩

end AgreeAt

/-! ## The same letters -/

/-- The last character before a literal text is one of ASCII's that is flagged whatever is around
it. -/
structure Bounded (rules : List Rule) (stack : List Construct) (input : List Char)
    (around : Surroundings) : Prop where
  pos : 0 < around.before.length
  asciiAt : AsciiAt (around.enclose input) (around.before.length - 1)
  unconditionalAt : UnconditionalAt rules stack (around.enclose input) (around.before.length - 1)

section letters

variable {rules : List Rule} {stack stack' : List Construct} {input : List Char}
  {around around' : Surroundings}

/-- Where the same rules flag a text, the same letters are escaped, if what is before the text makes
no difference. -/
theorem EscapedAt.of_agreeAt
    (hagree : ∀ i < input.length,
      AgreeAt rules stack stack' (around.enclose input) (around'.enclose input)
      (around.before.length + i) (around'.before.length + i))
    (hbounded : Bounded rules stack input around) {i : Nat} (hi : i < input.length)
    (h : EscapedAt rules stack input around i) : EscapedAt rules stack' input around' i := by
  have hascii : ∀ j < input.length, AsciiAt (around'.enclose input) (around'.before.length + j) →
      AsciiAt (around.enclose input) (around.before.length + j) := by
    rintro j hj ⟨c, hc, hlt⟩
    have hchar := getElem?_enclose around' (List.getElem?_eq_getElem hj)
    obtain rfl := Option.some.inj (hchar.symm.trans hc)
    exact ⟨_, getElem?_enclose around (List.getElem?_eq_getElem hj), hlt⟩
  obtain ⟨hflagged, hnext, hprevious⟩ := h
  refine ⟨(hagree i hi).flaggedAt hflagged, ?_, ?_⟩
  · rintro ⟨honly, hlt, hin, hflag⟩
    exact hnext ⟨(hagree i hi).symm.onlyTrailingAt honly, hascii i hi hlt, hin,
      (hagree (i + 1) hin).symm.unconditionalAt hflag⟩
  · rintro ⟨honly, -, hlt, hflag⟩
    refine hprevious ⟨(hagree i hi).symm.onlyLeadingAt honly, Nat.add_pos_left hbounded.pos i, ?_⟩
    cases i with
    | zero => exact ⟨hbounded.asciiAt, hbounded.unconditionalAt⟩
    | succ j =>
        have hj : j < input.length := Nat.lt_of_succ_lt hi
        exact ⟨hascii j hj hlt, (hagree j hj).symm.unconditionalAt hflag⟩

/-- A text that is flagged alike in two places has the same letters there. -/
theorem lettersBetween_eq_of_agreeAt
    (hagree : ∀ i < input.length,
      AgreeAt rules stack stack' (around.enclose input) (around'.enclose input)
      (around.before.length + i) (around'.before.length + i))
    (hbounded : Bounded rules stack input around) (hbounded' : Bounded rules stack' input around') :
    lettersBetween rules stack input around = lettersBetween rules stack' input around' := by
  apply List.ext_getElem?
  intro i
  rcases Nat.lt_or_ge i input.length with hi | hi
  · obtain ⟨escaped, hletter, hescaped⟩ :=
      exists_letter rules stack around (List.getElem?_eq_getElem hi)
    obtain ⟨escaped', hletter', hescaped'⟩ :=
      exists_letter rules stack' around' (List.getElem?_eq_getElem hi)
    have hiff : EscapedAt rules stack input around i ↔ EscapedAt rules stack' input around' i :=
      ⟨EscapedAt.of_agreeAt hagree hbounded hi,
        EscapedAt.of_agreeAt (fun j hj => (hagree j hj).symm) hbounded' hi⟩
    rw [hletter, hletter', Bool.eq_iff_iff.mpr (hescaped.trans (hiff.trans hescaped'.symm))]
  · have hnone : ∀ stack around, (lettersBetween rules stack input around)[i]? = none := by
      intro stack around
      exact List.getElem?_eq_none (by rwa [length_lettersBetween])
    rw [hnone, hnone]

end letters

/-! ## Matches behind a bracket -/

namespace LineRule

variable {line : LineRule} {text pre front back : List Char} {b : Char}

/-- There is no opening bracket in a bare row. -/
theorem not_mem_of_isBare (hoverlap : line ∈ overlapping) {row : List Char}
    (hrow : line.isBare row = true) : '[' ∉ row := by
  have hcharacter : ∀ line ∈ overlapping, line.character ≠ '[' := by decide
  obtain ⟨front, rfl, hfront⟩ :=
    (isBare_iff (mem_lineRules_of_mem_overlapping line hoverlap)).mp hrow
  intro hmem
  rcases List.mem_append.mp hmem with hmem | hmem
  · exact hfront.not_mem rfl rfl hmem
  · exact hcharacter line hoverlap (List.mem_singleton.mp hmem).symm

/-- **What stands before a bracket does not decide which matches behind it are reported.** The
induction is on the rows between the bracket and the match. -/
theorem ReportedAt.behind (hline : line ∈ lineRules) (h : line.Cut text pre b front back)
    (context context' : List Char)
    (hreported : line.ReportedAt (context ++ ['['] ++ text) (context ++ ['['] ++ pre)) :
    line.ReportedAt (context' ++ ['['] ++ text) (context' ++ ['['] ++ pre) := by
  induction hlength : pre.length using
    Nat.strongRecOn generalizing pre b front back context context' with
  | ind n ih =>
      subst hlength
      have hcut := h.append_left (context ++ ['['])
      have hcut' := h.append_left (context' ++ ['['])
      by_cases hoverlap : line ∈ overlapping
      · rw [hcut.reportedAt_iff hoverlap] at hreported
        rw [hcut'.reportedAt_iff hoverlap]
        intro above b' row hpre hb' hrow habove
        have hne : '[' ≠ b' := by
          rintro rfl
          contradiction
        obtain ⟨more, rfl, rfl⟩ := exists_append_behind hpre hne (not_mem_of_isBare hoverlap hrow)
        have htext := h.text_eq
        rw [List.append_assoc, List.cons_append] at htext
        obtain ⟨front', -, hcutAbove⟩ := exists_cut_of_isBare hoverlap htext hrow hb' h.lineBreak
        refine hreported (context ++ ['['] ++ more) b' row (by simp) hb' hrow ?_
        exact ih more.length (by simp) hcutAbove context' context habove rfl
      · exact hcut'.reportedAt_of_not_mem hline hoverlap

/-- A rule flags the characters of the cuts that are reported. -/
theorem mem_positions_rule_iff (hline : line ∈ lineRules)
    (hlast : text.getLast? ≠ some line.character) {offset : Nat} :
    offset ∈ line.rule.positions text ↔
      ∃ pre b front back, line.Cut text pre b front back ∧ line.ReportedAt text pre ∧
        offset = pre.length + (front.length + 1) := by
  unfold rule Rule.blockMarkup
  rw [Rule.mem_positions_make after_isUnmarked]
  constructor
  · rintro ⟨pre, lead, trail, post, hreported, rfl⟩
    obtain ⟨b, front, rfl, hcut⟩ :=
      exists_cut_of_hit (fun _ => hreported.ne_nil_of_getLast? hlast) hreported.toHit
    exact ⟨pre, b, front, _, hcut, ⟨_, _, _, hreported⟩, rfl⟩
  · rintro ⟨pre, b, front, back, hcut, ⟨lead, trail, post, hreported⟩, rfl⟩
    obtain ⟨rfl, -⟩ := hcut.eq_of_hit hline hreported.toHit
    exact ⟨pre, b :: front, trail, post, hreported, rfl⟩

/-- Behind a bracket a rule flags the same places, whatever stands before the bracket. -/
theorem mem_positions_behind (hline : line ∈ lineRules)
    (hlast : text.getLast?.any (· != line.character) = true)
    {i : Nat} (context context' : List Char)
    (h : (context ++ ['[']).length + i ∈ line.rule.positions (context ++ ['['] ++ text)) :
    (context' ++ ['[']).length + i ∈ line.rule.positions (context' ++ ['['] ++ text) := by
  have hends : ∀ context, (context ++ ['['] ++ text).getLast? ≠ some line.character := by
    intro context hlast'
    obtain ⟨d, hd, hne⟩ := (Option.any_eq_true _ _).mp hlast
    rw [List.getLast?_append, hd, Option.some_or] at hlast'
    obtain rfl := Option.some.inj hlast'
    simp at hne
  rw [mem_positions_rule_iff hline (hends context)] at h
  rw [mem_positions_rule_iff hline (hends context')]
  obtain ⟨pre, b, front, back, hcut, hreported, hoffset⟩ := h
  have hne : '[' ≠ b := by
    rintro rfl
    exact absurd hcut.lineBreak (by decide)
  have hfront : '[' ∉ front := hcut.fronts.not_mem rfl rfl
  -- The stretch up to the flagged character begins behind the bracket.
  have htake := hcut.take_eq
  rw [← hoffset, List.take_length_add_append] at htake
  obtain ⟨more, rfl, -⟩ := exists_append_behind htake hne hfront
  have hbehind : line.Cut text more b front back :=
    ⟨List.append_cancel_left (hcut.text_eq.trans (List.append_assoc _ _ _)), hcut.lineBreak,
      hcut.fronts, hcut.allows⟩
  refine ⟨context' ++ ['['] ++ more, b, front, back, hbehind.append_left _,
    hreported.behind hline hbehind context context', ?_⟩
  simp only [List.length_append, List.length_singleton] at hoffset ⊢
  omega

end LineRule

/-! ## Readers of letters -/

section reading

variable {delimiter : Char} {rest : List Char}

/-- A reader passes plain text. -/
theorem untilBare_append_of_not_mem {text : List Char} (hbackslash : '\\' ∉ text)
    (hdelimiter : delimiter ∉ text) :
    untilBare delimiter (text ++ rest) = text ++ untilBare delimiter rest := by
  induction text with
  | nil => rfl
  | cons c text ih =>
      rw [List.mem_cons, not_or] at hbackslash hdelimiter
      rw [List.cons_append, List.cons_append,
        untilBare_plain (Ne.symm hbackslash.1) (Ne.symm hdelimiter.1),
        ih hbackslash.2 hdelimiter.2]

/-- Something is written for every letter. -/
theorem writeLetters_eq_nil_iff {encode : List Char} {after : Option Char} {all : List Letter} :
    writeLetters encode after all = [] ↔ all = [] := by
  constructor
  · intro h
    cases all with
    | nil => rfl
    | cons letter all =>
        have hhead := head?_writeLetters_cons encode after letter all
        rw [h] at hhead
        rcases head?_written encode letter (behind after all) with ⟨-, hsome⟩ | ⟨-, hsome | hsome⟩
        all_goals
          rw [hsome] at hhead
          contradiction
  · rintro rfl
    rfl

/-- A backslash that is not doubled is not followed by punctuation, be it in the letters behind it
or in what follows them. -/
theorem head?_writeLetters_append_of_behind {encode : List Char} {all : List Letter}
    (h : (behind rest.head? all).any isPunctuation = false) :
    (writeLetters encode rest.head? all ++ rest).head?.any isPunctuation = false := by
  by_cases hall : all = []
  · subst hall
    exact h
  · rw [List.head?_append,
      Option.or_of_isSome (List.isSome_head?.mpr (mt writeLetters_eq_nil_iff.mp hall))]
    exact head?_writeLetters_of_behind h

/-- A reader stops at a delimiter. -/
theorem untilBare_delimiter (hbackslash : delimiter ≠ '\\') :
    untilBare delimiter (delimiter :: rest) = [] := by
  rw [untilBare.eq_def]
  dsimp only
  rw [if_neg hbackslash, if_pos rfl]

/-- A reader passes guarded letters one by one and goes on with just what is behind them. -/
theorem Guarding.untilBare_writeLetters (encode : List Char)
    (hreference : isReferenceSign delimiter = false) {all : List Letter}
    (h : Guarding delimiter rest.head? all) :
    untilBare delimiter (writeLetters encode rest.head? all ++ rest) =
      writeLetters encode rest.head? all ++ untilBare delimiter rest := by
  induction all with
  | nil => rfl
  | cons letter all ih =>
      have ih := ih h.tail
      obtain ⟨c, escaped⟩ := letter
      rw [writeLetters_cons, List.append_assoc, List.append_assoc]
      rcases h.written_cases encode with
        ⟨hescaped, hwritten⟩ | ⟨-, hsign, hwritten⟩ | ⟨-, hreferenceable, hwritten⟩
      · -- a character left alone is not the delimiter
        obtain rfl : escaped = false := hescaped
        have hother : c ≠ delimiter := by
          intro hc
          exact absurd (h.escaped _ List.mem_cons_self hc) Bool.false_ne_true
        rw [hwritten]
        by_cases hc : c = '\\'
        · subst hc
          rw [plainChar_backslash]
          split
          · rw [List.cons_append, List.singleton_append, untilBare_escape rfl, ih]
            rfl
          · next hbehind =>
              rw [Bool.not_eq_true] at hbehind
              rw [List.singleton_append,
                untilBare_backslash (head?_writeLetters_append_of_behind hbehind), ih]
              rfl
        · rw [plainChar_of_ne hc, List.singleton_append, untilBare_plain hc hother, ih]
          rfl
      · -- an escape by a backslash
        rw [hwritten, List.cons_append, List.singleton_append, untilBare_escape hsign, ih]
        rfl
      · -- an escape by a reference
        rw [hwritten, untilBare_append_of_not_mem (not_mem_characterReference rfl)
          (not_mem_characterReference hreference), ih]

end reading

/-! ## Labels -/

/-- Whether constructs are open in which the same characters are unsafe as in the label of a
reference. -/
def IsLabelStack (stack : List Construct) : Prop :=
  ∀ rule ∈ Rule.defaults, rule.applies stack = rule.applies [.reference]

/-- A reference alone is enough for the rules about labels. -/
theorem isLabelStack_reference : IsLabelStack [.reference] :=
  fun _ _ => rfl

/-- The blocks around a definition make nothing unsafe in its label. -/
theorem isLabelStack_definition {nest : List Construct}
    (hnest : ∀ construct ∈ nest, construct ∈ [Construct.blockquote, .list, .listItem]) :
    IsLabelStack (.label :: .definition :: nest) := by
  have hquiet : ∀ rule ∈ Rule.defaults, ∀ construct ∈ [Construct.blockquote, .list, .listItem],
      rule.inside.contains construct = false ∧ rule.outside.contains construct = false := by decide
  have hlabel : ∀ rule ∈ Rule.defaults,
      rule.applies [.label, .definition] = rule.applies [.reference] := by decide
  intro rule hmem
  have hinside : nest.any rule.inside.contains = false := by
    rw [List.any_eq_false]
    intro construct hin
    rw [(hquiet rule hmem construct (hnest construct hin)).1]
    exact Bool.false_ne_true
  have houtside : nest.any rule.outside.contains = false := by
    rw [List.any_eq_false]
    intro construct hin
    rw [(hquiet rule hmem construct (hnest construct hin)).2]
    exact Bool.false_ne_true
  rw [← hlabel rule hmem]
  simp [Rule.applies, List.any_cons, hinside, houtside]

section labels

variable {stack stack' : List Construct} {label : List Char}

/-- What is around a label behind some text. -/
def labelSite (context : List Char) : Surroundings where
  before := context ++ ['[']
  after := [']']

/-- The rules that apply to a label are about the starts of lines or have no condition. -/
theorem unconditional_of_applies_reference :
    ∀ rule ∈ Rule.defaults, rule.applies [.reference] = true →
    rule.atBreak = false → rule.leading = false ∧ rule.trailing = false := by
  decide

/-- Behind its bracket a label is flagged in the same places. -/
theorem agreeAt_labelSite (hstack : IsLabelStack stack) (hstack' : IsLabelStack stack')
    (context context' : List Char) {i : Nat} (hi : i < label.length) :
    AgreeAt Rule.defaults stack stack' ((labelSite context).enclose label)
      ((labelSite context').enclose label) ((labelSite context).before.length + i)
      ((labelSite context').before.length + i) := by
  have hends : ∀ line ∈ lineRules, (label ++ [']']).getLast?.any (· != line.character) = true := by
    have hcharacter : ∀ line ∈ lineRules, (']' != line.character) = true := by decide
    intro line hline
    rw [List.getLast?_concat, Option.any_some]
    exact hcharacter line hline
  intro rule hmem
  unfold Rule.FlagsAt
  rw [hstack rule hmem, hstack' rule hmem]
  refine and_congr_right fun happlies => ?_
  cases hbreak : rule.atBreak with
  | true =>
      obtain ⟨line, hline, rfl⟩ := exists_lineRule_iff.mp ⟨hmem, hbreak⟩
      unfold Surroundings.enclose
      rw [List.append_assoc, List.append_assoc]
      exact ⟨LineRule.mem_positions_behind hline (hends line hline) context context',
        LineRule.mem_positions_behind hline (hends line hline) context' context⟩
  | false =>
      obtain ⟨hleading, htrailing⟩ := unconditional_of_applies_reference rule hmem happlies hbreak
      rw [Rule.eq_make_of_anywhere rule hmem hleading htrailing, Rule.mem_positions_of_anywhere,
        Rule.mem_positions_of_anywhere, getElem?_enclose _ (List.getElem?_eq_getElem hi),
        getElem?_enclose _ (List.getElem?_eq_getElem hi)]

/-- The bracket before a label is flagged whatever is around it. -/
theorem bounded_labelSite (hstack : IsLabelStack stack) (context : List Char) :
    Bounded Rule.defaults stack label (labelSite context) := by
  have hlength : (labelSite context).before.length - 1 = context.length := by simp [labelSite]
  have hbracket : ((labelSite context).enclose label)[context.length]? = some '[' := by
    simp [labelSite, Surroundings.enclose]
  have hmem := Rule.anywhereIn_label_mem_defaults (.inl (rfl : '[' = '['))
  constructor
  · simp [labelSite]
  · rw [hlength]
    exact ⟨'[', hbracket, by decide⟩
  · rw [hlength]
    exact unconditionalAt_of_anywhere hmem (hstack _ hmem) rfl rfl hbracket

/-- **Labels are written alike**, whatever stands before them and in whichever blocks their
definition is. -/
theorem escapeLiteral_label_eq (hstack : IsLabelStack stack) (hstack' : IsLabelStack stack')
    (context context' label : List Char) :
    escapeLiteral Rule.defaults stack label (labelSite context) =
      escapeLiteral Rule.defaults stack' label (labelSite context') := by
  unfold escapeLiteral
  rw [lettersBetween_eq_of_agreeAt (fun i hi =>
    agreeAt_labelSite hstack hstack' context context' hi)
    (bounded_labelSite hstack context) (bounded_labelSite hstack' context')]
  rfl

/-- A label is only written as nothing if it is nothing. -/
theorem escapeLiteral_eq_nil_iff {rules : List Rule} {around : Surroundings} :
    escapeLiteral rules stack label around = [] ↔ label = [] := by
  rw [escapeLiteral, writeLetters_eq_nil_iff, ← List.map_eq_nil_iff, map_char_lettersBetween]

/-- A reader behind the opening bracket does not meet a bracket before the one behind the label. -/
theorem untilBare_label_append (hstack : IsLabelStack stack) (context label more : List Char)
    {bracket : Char} (hbracket : bracket ∈ ['[', ']']) :
    untilBare bracket (escapeLiteral Rule.defaults stack label (labelSite context) ++ ']' :: more) =
      escapeLiteral Rule.defaults stack label (labelSite context) ++ untilBare bracket
        (']' :: more) := by
  have hall : ∀ bracket ∈ ['[', ']'], Rule.anywhereIn [.label, .reference] bracket ∈ Rule.defaults ∧
      (Rule.anywhereIn [.label, .reference] bracket).applies [.reference] = true ∧
      isReferenceSign bracket = false :=
    List.forall_mem_cons.mpr ⟨⟨Rule.anywhereIn_label_mem_defaults (.inl rfl), by decide⟩,
      List.forall_mem_singleton.mpr ⟨Rule.anywhereIn_label_mem_defaults (.inr rfl), by decide⟩⟩
  obtain ⟨hmem, happlies, hreference⟩ := hall bracket hbracket
  rw [← hstack _ hmem] at happlies
  have hguarding := guarding_lettersBetween label (labelSite context) hmem happlies rfl rfl
  exact @Guarding.untilBare_writeLetters bracket (']' :: more) [] hreference _ hguarding

/-- **A reader finds the whole label**: it comes to the closing bracket just when it has read the
label. -/
theorem untilBare_label (hstack : IsLabelStack stack) (context label more : List Char) :
    untilBare ']' (escapeLiteral Rule.defaults stack label (labelSite context) ++ ']' :: more) =
      escapeLiteral Rule.defaults stack label (labelSite context) := by
  rw [untilBare_label_append hstack context label more (by decide), untilBare_delimiter (by decide),
    List.append_nil]

end labels

end MarkdownWriter
