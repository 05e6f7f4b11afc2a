import MarkdownWriter.Proofs.Escape.Defaults

/-!
# Where a flag is not followed by an escape

A flagged character may be left alone because the escape of its neighbour already breaks what the
rule is about. This module says how far that can be relied on, in terms of what is written for each
character (`literalPieces`).

* **A neighbour is escaped** (`escapedIn_or_adjacent_iff`): the pieces make up the text as it is
  written, one for each character; of a flagged character the piece is an escape, or that of one of
  the characters next to it in the literal text is, with one exception.
* **The exception** is the first character of the text. If every rule that flags it asks for
  something before it, and the last character before the text is flagged unconditionally, it is left
  alone, although that character is not part of the text and whoever wrote it may not have escaped
  it (`not_forall_escapedIn_or_adjacent`).

The character behind the text is no exception: it is never looked at.
-/

namespace MarkdownWriter

open Text

/-! ## Pieces -/

/-- What is written for each letter, with `after` as the first character behind the last one. -/
def pieces (encode : List Char) (after : Option Char) : List Letter → List (List Char)
  | [] => []
  | letter :: rest => letter.written encode (behind after rest) :: pieces encode after rest

/-- The pieces make up what is written. -/
theorem flatten_pieces (encode : List Char) (after : Option Char) (all : List Letter) :
    (pieces encode after all).flatten = writeLetters encode after all := by
  induction all with
  | nil => rfl
  | cons letter rest ih => rw [pieces, List.flatten_cons, ih, writeLetters_cons]

/-- There are as many pieces as letters. -/
theorem length_pieces (encode : List Char) (after : Option Char) (all : List Letter) :
    (pieces encode after all).length = all.length := by
  induction all with
  | nil => rfl
  | cons letter rest ih => rw [pieces, List.length_cons, List.length_cons, ih]

/-- The piece at a place is what the letter there is written as. -/
theorem getElem?_pieces (encode : List Char) (after : Option Char) (all : List Letter) (i : Nat) :
    (pieces encode after all)[i]? =
      all[i]?.map fun letter => letter.written encode (behind after (all.drop (i + 1))) := by
  induction all generalizing i with
  | nil => rfl
  | cons letter rest ih =>
      cases i with
      | zero => rfl
      | succ i =>
          rw [pieces, List.getElem?_cons_succ, List.getElem?_cons_succ, ih, List.drop_succ_cons]

/-- What is written for each character of a literal text. -/
def literalPieces (rules : List Rule) (stack : List Construct) (input : List Char)
    (around : Surroundings) : List (List Char) :=
  pieces around.encode around.after.head? (lettersBetween rules stack input around)

/-- A character is written as a reference or behind a backslash. -/
def WritesEscaped (c : Char) (piece : List Char) : Prop :=
  piece = characterReference c ∨ ∃ tail, piece = '\\' :: c :: tail

/-- The character of a literal text at a place is escaped as it is written. -/
def EscapedIn (rules : List Rule) (stack : List Construct) (input : List Char)
    (around : Surroundings) (i : Nat) : Prop :=
  ∃ c piece, input[i]? = some c ∧ (literalPieces rules stack input around)[i]? = some piece ∧
    WritesEscaped c piece

section sparing

variable {rules : List Rule} {stack : List Construct} {input : List Char} {around : Surroundings}
  {i : Nat}

/-- The pieces make up the whole text as it is written. -/
theorem flatten_literalPieces :
    (literalPieces rules stack input around).flatten = escapeLiteral rules stack input around :=
  flatten_pieces _ _ _

/-- There is one piece for every character. -/
theorem length_literalPieces : (literalPieces rules stack input around).length = input.length :=
  (length_pieces _ _ _).trans (length_lettersBetween _ _ _ input)

/-- An escaped letter is written as an escape. -/
theorem writesEscaped_written (encode : List Char) (c : Char) (next : Option Char) :
    WritesEscaped c (Letter.written encode ⟨c, true⟩ next) := by
  rcases written_cases encode ⟨c, true⟩ next with ⟨hescaped, -⟩ | ⟨-, -, hwritten⟩ | ⟨-, hwritten⟩
  · contradiction
  · right
    rw [hwritten]
    unfold plainChar
    split
    · exact ⟨[c], rfl⟩
    · exact ⟨[], rfl⟩
  · exact .inl hwritten

/-- A letter left alone is written as an escape only if it is a backslash that is doubled. -/
theorem not_writesEscaped_written (encode : List Char) {c : Char} (hc : c ≠ '\\')
    (next : Option Char) : ¬ WritesEscaped c (Letter.written encode ⟨c, false⟩ next) := by
  change ¬ WritesEscaped c (plainChar c next)
  rw [plainChar_of_ne hc]
  rintro (hreference | ⟨tail, htail⟩)
  · have := congrArg List.length hreference
    rw [characterReference_eq] at this
    simp at this
  · exact absurd (List.cons.inj htail).2 (List.cons_ne_nil c tail).symm

/-- The piece of a letter of the text. -/
theorem exists_getElem?_literalPieces {letter : Letter}
    (h : (lettersBetween rules stack input around)[i]? = some letter) :
    ∃ next, (literalPieces rules stack input around)[i]? =
      some (letter.written around.encode next) := by
  refine ⟨behind around.after.head? ((lettersBetween rules stack input around).drop (i + 1)), ?_⟩
  rw [literalPieces, getElem?_pieces, h, Option.map_some]

/-- A character that the rules escape is written as an escape. -/
theorem EscapedAt.escapedIn {c : Char} (hc : input[i]? = some c)
    (h : EscapedAt rules stack input around i) : EscapedIn rules stack input around i := by
  have hletter : (lettersBetween rules stack input around)[i]? = some ⟨c, true⟩ :=
    getElem?_lettersBetween_eq_some.mpr ⟨hc, fun _ => h, fun _ => rfl⟩
  obtain ⟨next, hpiece⟩ := exists_getElem?_literalPieces hletter
  exact ⟨c, _, hc, hpiece, writesEscaped_written around.encode c next⟩

/-- A character flagged whatever is around it is written as an escape. -/
theorem UnconditionalAt.escapedIn (hi : i < input.length)
    (h : UnconditionalAt rules stack (around.enclose input) (around.before.length + i)) :
    EscapedIn rules stack input around i :=
  h.escapedAt.escapedIn (List.getElem?_eq_getElem hi)

end sparing

section defaults

variable {stack : List Construct} {input : List Char} {around : Surroundings} {i : Nat}

/-- A character that the character before it spares is not written as an escape: it is no backslash,
as the rule about backslashes asks for nothing before them. -/
theorem SparedByPrevious.not_escapedIn
    (hflag : FlaggedAt Rule.defaults stack (around.enclose input) (around.before.length + i))
    (h : SparedByPrevious Rule.defaults stack input around i) :
    ¬ EscapedIn Rule.defaults stack input around i := by
  rintro ⟨c, piece, hc, hpiece, hwritten⟩
  obtain ⟨rule, hmem, hflags, hrule⟩ := exists_rule_of_flaggedAt (getElem?_enclose around hc) hflag
  have hbackslash : c ≠ '\\' := by
    intro heq
    have hleading := h.1 rule hmem hflags
    rw [Rule.eq_of_character_backslash rule hmem (hrule.trans heq)] at hleading
    contradiction
  have hletter : (lettersBetween Rule.defaults stack input around)[i]? = some ⟨c, false⟩ :=
    getElem?_lettersBetween_eq_some.mpr
      ⟨hc, fun hescaped => absurd hescaped Bool.false_ne_true,
        fun hescaped => absurd h hescaped.2.2⟩
  obtain ⟨next, hplain⟩ := exists_getElem?_literalPieces hletter
  obtain rfl := Option.some.inj (hplain.symm.trans hpiece)
  exact not_writesEscaped_written around.encode hbackslash next hwritten

/-- **A neighbour is escaped.** A literal text is written piece by piece, one piece for each
character. A flagged character is escaped or stands next to a character of the text that is, unless
it is the first one, is spared by the character before the text, and has no escaped character behind
it. -/
theorem escapedIn_or_adjacent_iff (hi : i < input.length)
    (hflag : FlaggedAt Rule.defaults stack (around.enclose input) (around.before.length + i)) :
    (literalPieces Rule.defaults stack input around).flatten =
        escapeLiteral Rule.defaults stack input around ∧
      (literalPieces Rule.defaults stack input around).length = input.length ∧
      ((EscapedIn Rule.defaults stack input around i ∨
          ∃ j, (j + 1 = i ∨ i + 1 = j) ∧ EscapedIn Rule.defaults stack input around j) ↔
        ¬ (i = 0 ∧ SparedByPrevious Rule.defaults stack input around 0 ∧
          ¬ EscapedIn Rule.defaults stack input around 1)) := by
  refine ⟨flatten_literalPieces, length_literalPieces, ?_⟩
  constructor
  · rintro (hescaped | ⟨j, hj | rfl, hescaped⟩) ⟨rfl, hspared, hnext⟩
    · exact hspared.not_escapedIn hflag hescaped
    · omega
    · exact hnext hescaped
  · intro hexception
    by_cases hescaped : EscapedAt Rule.defaults stack input around i
    · exact .inl (hescaped.escapedIn (List.getElem?_eq_getElem hi))
    right
    by_cases hnext : SparedByNext Rule.defaults stack input around i
    · obtain ⟨-, -, hlt, hneighbour⟩ := hnext
      exact ⟨i + 1, .inr rfl, UnconditionalAt.escapedIn hlt hneighbour⟩
    have hprevious : SparedByPrevious Rule.defaults stack input around i := by
      by_contra hprevious
      exact hescaped ⟨hflag, hnext, hprevious⟩
    cases i with
    | zero =>
        -- spared from outside the text, so the exception has to fail behind the character
        refine ⟨1, .inr rfl, ?_⟩
        by_contra hbehind
        exact hexception ⟨rfl, hprevious, hbehind⟩
    | succ j =>
        exact ⟨j, .inl rfl, UnconditionalAt.escapedIn (Nat.lt_of_succ_lt hi) hprevious.2.2.2⟩

end defaults

/-- The resource of a link written in the label of another one: its parenthesis is left alone, as
the bracket before it is escaped. -/
theorem escapedIn_or_adjacent_resource :
    FlaggedAt Rule.defaults [.label, .phrasing] "](".toList 1 ∧
      (EscapedIn Rule.defaults [.label, .phrasing] "](".toList {} 1 ∨
        ∃ j, (j + 1 = 1 ∨ 1 + 1 = j) ∧
          EscapedIn Rule.defaults [.label, .phrasing] "](".toList {} j) ∧
      escapeLiteral Rule.defaults [.label, .phrasing] "](".toList {} = "\\](".toList := by
  have hflag : FlaggedAt Rule.defaults [.label, .phrasing] "](".toList 1 :=
    ⟨Rule.inlineMarkup '(' (some (Regex.character ']')) none,
      by simp [Rule.defaults, Rule.whitespaceRules, Rule.punctuationRules], by decide, by decide⟩
  refine ⟨hflag, (escapedIn_or_adjacent_iff (by decide) hflag).2.2.mpr ?_, by decide +kernel⟩
  rintro ⟨hfirst, -⟩
  contradiction

/-- A parenthesis behind a bracket that is not part of the text is left alone with nothing escaped
beside it. -/
theorem not_forall_escapedIn_or_adjacent :
    ¬ ∀ (stack : List Construct) (input : List Char) (around : Surroundings) (i : Nat),
      i < input.length →
      FlaggedAt Rule.defaults stack (around.enclose input) (around.before.length + i) →
        EscapedIn Rule.defaults stack input around i ∨
          ∃ j, (j + 1 = i ∨ i + 1 = j) ∧ EscapedIn Rule.defaults stack input around j := by
  intro h
  have hflag : FlaggedAt Rule.defaults [.label, .phrasing] "](".toList 1 :=
    ⟨Rule.inlineMarkup '(' (some (Regex.character ']')) none,
      by simp [Rule.defaults, Rule.whitespaceRules, Rule.punctuationRules], by decide, by decide⟩
  have hpieces : literalPieces Rule.defaults [.label, .phrasing] ['('] ⟨[']'], [], []⟩ =
      [['(']] := by decide +kernel
  rcases h [.label, .phrasing] ['('] ⟨[']'], [], []⟩ 0 (by decide) hflag with
    ⟨c, piece, hc, hpiece, hwritten⟩ | ⟨j, hj, c, piece, hc, -⟩
  · rw [hpieces] at hpiece
    obtain rfl := Option.some.inj hc
    obtain rfl := Option.some.inj hpiece
    rcases hwritten with hreference | ⟨tail, htail⟩
    · exact absurd hreference (by decide)
    · exact absurd (List.cons.inj htail).1 (by decide)
  · obtain rfl : j = 1 := by omega
    contradiction

end MarkdownWriter
