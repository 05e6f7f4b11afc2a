import MarkdownWriter.Proofs.Escape.Defaults

/-!
# Decoding undoes escaping

A literal text in inline content reads back as itself (`decodeWith_escapeLiteral`), whatever is open
besides, whatever stands around it and whichever characters may not be escaped by backslashes. Only
what the text itself is written as is decoded, not its surroundings.

Three things could go wrong, and `Readable` says of the letters of a text that none of them does: a
character may be escaped that has no reference; the backslash of an escaped backslash may itself
escape what comes next; an ampersand left alone may begin a reference. The doubling of other
backslashes is right by itself, as it looks at the very character that is written next.
-/

namespace MarkdownWriter

open Text

/-! ## Letters that read back -/

/-- What keeps letters readable when they are written before `after`. -/
structure Readable (after : Option Char) (all : List Letter) :
    Prop extends WellEscaped after all where
  /-- An ampersand left alone has no `#` and no letter behind it. -/
  ampersand : ∀ rest, ⟨'&', false⟩ :: rest <:+ all →
    (rest.head?.map Letter.char).any startsReference = false

theorem Readable.tail {after : Option Char} {letter : Letter} {rest : List Letter}
    (h : Readable after (letter :: rest)) : Readable after rest where
  toWellEscaped := h.toWellEscaped.tail
  ampersand := fun back hback => h.ampersand back (hback.trans (List.suffix_cons letter rest))

/-- A backslash that is not doubled is not followed by punctuation as it is written. -/
theorem head?_writeLetters_of_behind {encode : List Char} {after : Option Char} {rest : List Letter}
    (h : (behind after rest).any isPunctuation = false) :
    (writeLetters encode after rest).head?.any isPunctuation = false := by
  cases rest with
  | nil => rfl
  | cons next rest =>
      change (some next.front).any isPunctuation = false at h
      rw [head?_writeLetters_cons]
      rcases head?_written encode next (behind after rest) with ⟨hescaped, hhead⟩ | ⟨hescaped, -⟩
      · rw [Letter.front, hescaped] at h
        rw [hhead]
        exact h
      · rw [Letter.front, hescaped] at h
        contradiction

/-- Every letter but an ampersand left alone is read back, whatever comes behind it. -/
theorem decodeWith_writeLetters_cons {references : References} (hreferences : references.IsStandard)
    (encode : List Char) {after : Option Char} {letter : Letter} {rest : List Letter}
    (h : WellEscaped after (letter :: rest)) (hampersand : letter ≠ ⟨'&', false⟩) :
    decodeWith references (writeLetters encode after (letter :: rest)) =
      letter.char :: decodeWith references (writeLetters encode after rest) := by
  rw [writeLetters_cons]
  obtain ⟨c, escaped⟩ := letter
  rcases h.written_cases encode with
    ⟨hescaped, hwritten⟩ | ⟨-, hsign, hwritten⟩ | ⟨-, hreferenceable, hwritten⟩
  · -- a character left alone
    obtain rfl : escaped = false := hescaped
    rw [hwritten]
    by_cases hbackslash : c = '\\'
    · subst hbackslash
      rw [plainChar_backslash]
      split
      · rw [List.cons_append, List.singleton_append, decodeWith_escape rfl]
      · next hbehind =>
          rw [Bool.not_eq_true] at hbehind
          rw [List.singleton_append, decodeWith_backslash (head?_writeLetters_of_behind hbehind)]
    · have hc : c ≠ '&' := by
        rintro rfl
        exact hampersand rfl
      rw [plainChar_of_ne hbackslash, List.singleton_append, decodeWith_plain hbackslash hc]
  · -- an escape by a backslash
    rw [hwritten, List.cons_append, List.singleton_append, decodeWith_escape hsign]
  · -- an escape by a reference
    rw [hwritten, decodeWith_characterReference hreferences hreferenceable]

/-- An ampersand left alone is written as it is. -/
theorem writeLetters_ampersand (encode : List Char) (after : Option Char) (rest : List Letter) :
    writeLetters encode after (⟨'&', false⟩ :: rest) = '&' :: writeLetters encode after rest :=
  rfl

/-- Readable letters are read back one by one. -/
theorem decodeWith_writeLetters {references : References} (hreferences : references.IsStandard)
    (encode : List Char) {after : Option Char} {all : List Letter} (h : Readable after all) :
    decodeWith references (writeLetters encode after all) = all.map Letter.char := by
  induction all with
  | nil => exact decodeWith_nil
  | cons letter rest ih =>
      have ih := ih h.tail
      by_cases hampersand : letter = ⟨'&', false⟩
      · subst hampersand
        rw [writeLetters_ampersand, decodeWith_ampersand (readReference_eq_none hreferences ?_), ih,
          List.map_cons]
        have hnext := h.ampersand rest List.suffix_rfl
        cases rest with
        | nil => rfl
        | cons next rest =>
            rw [head?_writeLetters_cons]
            rcases head?_written encode next (behind after rest) with ⟨-, hhead⟩ |
                ⟨-, hhead | hhead⟩
            all_goals rw [hhead]
            · exact hnext
            · rfl
            · rfl
      · rw [decodeWith_writeLetters_cons hreferences encode h.toWellEscaped hampersand, ih,
          List.map_cons]

/-! ## Literal texts in inline content -/

section inline

variable {stack : List Construct} {input : List Char} {around : Surroundings}

/-- The rule about ampersands. -/
def ampersandRule : Rule :=
  Rule.make '&' [.phrasing] [] false none (some Rule.referenceStart)

/-- In inline content an ampersand before `#` or a letter is flagged. -/
theorem flagsAt_ampersand (hstack : .phrasing ∈ stack) {text : List Char} {offset : Nat} {d : Char}
    (hampersand : text[offset]? = some '&') (hnext : text[offset + 1]? = some d)
    (hd : startsReference d = true) : ampersandRule.FlagsAt stack text offset := by
  constructor
  · rw [Rule.applies, Bool.and_eq_true, Bool.or_eq_true, List.any_eq_true]
    exact ⟨.inr ⟨.phrasing, hstack, rfl⟩, by simp [ampersandRule, Rule.make]⟩
  · obtain ⟨pre, post, hsplit, rfl⟩ := exists_append_of_getElem?_pair hampersand hnext
    have havoids : Avoids (some Rule.referenceStart) '&' := by
      intro _ _ _ hfits hmem
      obtain ⟨e, he, rfl⟩ := Regex.takes_set.mp (fits_some.mp hfits)
      obtain rfl := List.mem_singleton.mp hmem
      revert he
      decide
    have htakes : Rule.referenceStart.Takes (pre.length + 1) [d] post := by
      refine Regex.takes_set.mpr ⟨d, ?_, rfl⟩
      simp only [startsReference, isLetter, Bool.or_eq_true, Bool.and_eq_true, beq_iff_eq,
        decide_eq_true_eq] at hd
      simp only [CharSet.contains, List.any_cons, List.any_nil, Bool.or_false, bne_iff_ne, ne_eq,
        Bool.not_eq_false, Bool.or_eq_true, Bool.and_eq_true, decide_eq_true_eq]
      rcases hd with rfl | hlower | hupper
      · exact .inl ⟨Char.le_refl _, Char.le_refl _⟩
      · exact .inr (.inr hlower)
      · exact .inr (.inl hupper)
    exact Rule.mem_positions_of_trailing [.phrasing] [] (by decide) havoids hsplit htakes

/-- What follows an ampersand is not flagged unconditionally if it could begin a reference: letters
are never flagged, and `#` only before a line ending or at the start of a line. -/
theorem not_unconditionalAt_behind_ampersand {text : List Char} {offset : Nat} {d : Char}
    (hampersand : text[offset]? = some '&') (hnext : text[offset + 1]? = some d)
    (hd : startsReference d = true) : ¬ UnconditionalAt Rule.defaults stack text (offset + 1) := by
  have hhash : ∀ rule ∈ Rule.defaults, startsReference rule.character = true →
      rule.trailing = false → rule = Rule.make '#' [] [] true none none := by
    simp +decide [Rule.defaults, Rule.whitespaceRules, Rule.punctuationRules, Rule.anywhereIn,
      Rule.inlineMarkup, Rule.blockMarkup, Rule.make]
  rintro ⟨-, rule, hmem, hflags, htrailing⟩
  obtain rfl := Option.some.inj ((Rule.getElem?_of_mem_defaults hmem hflags.2).symm.trans hnext)
  have hpositions := hflags.2
  rw [hhash rule hmem hd htrailing, Rule.mem_positions_make rfl] at hpositions
  obtain ⟨pre, lead, trail, post, hreported, hoffset⟩ := hpositions
  obtain ⟨b, spacing, rfl, hb, hspacing⟩ :=
    Rule.takes_lineStart.mp (fits_some.mp hreported.lead_fits)
  -- the character before `#` is a line break, a space or a tab
  obtain ⟨front, e, hlead⟩ :=
    List.eq_nil_or_concat (b :: spacing) |>.resolve_left (List.cons_ne_nil b spacing)
  rw [List.concat_eq_append] at hlead
  obtain ⟨hlength, he⟩ := hreported.getElem?_pred hlead
  obtain rfl : offset = pre.length + front.length := by omega
  obtain rfl := Option.some.inj (he.symm.trans hampersand)
  have hmem' : '&' ∈ b :: spacing := by
    rw [hlead]
    exact List.mem_append_right front List.mem_cons_self
  rcases List.mem_cons.mp hmem' with rfl | hmem'
  · contradiction
  · exact absurd (hspacing _ hmem') (by decide)

/-- The letters of a text in inline content are readable. -/
theorem readable_lettersBetween (hstack : .phrasing ∈ stack) :
    Readable around.after.head? (lettersBetween Rule.defaults stack input around) where
  toWellEscaped := wellEscaped_lettersBetween
  ampersand := by
    intro rest hrest
    obtain ⟨i, hi, hnext⟩ := exists_getElem?_of_cons_suffix hrest
    obtain ⟨hampersand, hescaped⟩ := getElem?_lettersBetween_eq_some.mp hi
    rw [← hnext, ← List.getElem?_map, map_char_lettersBetween Rule.defaults stack around input]
    cases hin : input[i + 1]? with
    | none => rfl
    | some d =>
        by_contra hstarts
        rw [Option.any_some, Bool.not_eq_false] at hstarts
        have hthis := getElem?_enclose around hampersand
        have hthat := getElem?_enclose around hin
        have hflags := flagsAt_ampersand hstack hthis hthat hstarts
        have hrule : ampersandRule ∈ Rule.defaults := by
          simp [ampersandRule, Rule.defaults, Rule.whitespaceRules, Rule.punctuationRules]
        refine absurd (hescaped.mpr ⟨⟨_, hrule, hflags⟩, ?_, ?_⟩) Bool.false_ne_true
        · intro hspared
          exact not_unconditionalAt_behind_ampersand hthis hthat hstarts hspared.2.2.2
        · intro hspared
          exact absurd (hspared.1 _ hrule hflags) Bool.false_ne_true

/-- **Decoding undoes escaping.** Read with any table that knows numeric references and no names
that begin with digits, a literal text in inline content is itself again. -/
theorem decodeWith_escapeLiteral {references : References} (hreferences : references.IsStandard)
    (hstack : .phrasing ∈ stack) :
    decodeWith references (escapeLiteral Rule.defaults stack input around) = input := by
  rw [escapeLiteral,
    decodeWith_writeLetters hreferences around.encode (readable_lettersBetween hstack),
    map_char_lettersBetween]

end inline

/-- In the label of a link a doubled backslash, a reference for what may not be escaped, the
backslash of a line ending and an ampersand are all read back. -/
theorem decode_escapeLiteral_label :
    escapeLiteral Rule.defaults [.label, .phrasing] "\\*](\\\n\t&#x41;\\".toList
        ⟨"[".toList, "](b)".toList, ['*']⟩ =
      "\\\\&#x2A;\\](\\\\\n&#x9;\\&#x41;\\\\".toList ∧
      decode "\\\\&#x2A;\\](\\\\\n&#x9;\\&#x41;\\\\".toList = "\\*](\\\n\t&#x41;\\".toList := by
  have hwritten : escapeLiteral Rule.defaults [.label, .phrasing] "\\*](\\\n\t&#x41;\\".toList
      ⟨"[".toList, "](b)".toList, ['*']⟩ = "\\\\&#x2A;\\](\\\\\n&#x9;\\&#x41;\\\\".toList := by
    decide +kernel
  refine ⟨hwritten, ?_⟩
  rw [← hwritten]
  exact decodeWith_escapeLiteral isStandard_htmlReferences (by decide)

end MarkdownWriter
