import MarkdownWriter.Proofs.Escape.Decoding
import MarkdownWriter.Proofs.Escape.Framed
import MarkdownWriter.Proofs.Escape.LineStarts

/-!
# Ampersands outside inline content

The rule about ampersands is for inline content only. In the info string of code and in the parts of
a definition what looks like a character reference is written as it is, and read as what it stands
for: outside inline content a literal text comes back with its references resolved
(`decodeWith_escapeLiteral_of_not_mem`). So it comes back as itself exactly if it holds no reference
(`decodeWith_escapeLiteral_eq_self_iff`), and never longer (`length_decodeWith_escapeLiteral_le`).

* **No escape comes in the way of a reference.** Letters, digits and semicolons are never flagged,
  ampersands only in inline content, and a number sign behind an ampersand only before a line ending
  (`not_flaggedAt_between`). `LeavesReferences` says so of the letters of a text.
* **No escape makes a reference** (`readReference_writeLetters_eq_none`), as it begins with a
  backslash or an ampersand itself.

The table of references is a parameter: what the library writes is read back by it
(`References.IsStandard`), and no reference stands for more than it takes (`References.Shorten`).
The induction is on the number of letters, because a reference takes several of them at once.
-/

namespace MarkdownWriter

open Text

/-! ## Letters that leave references alone -/

/-- What keeps the references among letters as they are. -/
structure LeavesReferences (after : Option Char) (all : List Letter) :
    Prop extends WellEscaped after all where
  /-- Of the characters references are made of only number signs are escaped. -/
  sign : ∀ letter ∈ all, isReferenceSign letter.char = true → letter.char ≠ '#' →
    letter.escaped = false
  /-- A number sign behind an ampersand is not escaped before a letter or digit. -/
  hash : ∀ ampersand next rest, ampersand :: ⟨'#', true⟩ :: next :: rest <:+ all →
    ampersand.char = '&' → isLetter next.char = false ∧ isDigit next.char = false

theorem LeavesReferences.of_suffix {after : Option Char} {all back : List Letter}
    (h : LeavesReferences after all) (hback : back <:+ all) : LeavesReferences after back where
  referenceable := fun letter hletter => h.referenceable letter (hback.subset hletter)
  backslash := fun rest hrest => h.backslash rest (hrest.trans hback)
  sign := fun letter hletter => h.sign letter (hback.subset hletter)
  hash := fun ampersand next rest hrest => h.hash ampersand next rest (hrest.trans hback)

theorem LeavesReferences.of_append {after : Option Char} {all more : List Letter}
    (h : LeavesReferences after (all ++ more)) : LeavesReferences (behind after more) all where
  toWellEscaped := h.toWellEscaped.of_append
  sign := fun letter hletter => h.sign letter (List.mem_append_left more hletter)
  hash := fun ampersand next rest hrest =>
    h.hash ampersand next (rest ++ more) (List.suffix_append_self_iff.mpr hrest)

/-- Letters none of which is escaped are the characters left alone. -/
theorem eq_map_plain {all : List Letter} (h : ∀ letter ∈ all, letter.escaped = false) :
    all = (all.map Letter.char).map .plain := by
  induction all with
  | nil => rfl
  | cons letter all ih =>
      obtain ⟨hletter, hall⟩ := List.forall_mem_cons.mp h
      obtain ⟨c, escaped⟩ := letter
      obtain rfl : escaped = false := hletter
      rw [List.map_cons, List.map_cons, ← ih hall]
      rfl

/-- The letters of what stands in a reference are left alone. -/
theorem LeavesReferences.escaped_eq_false {after : Option Char} {ampersand : Letter}
    {taken rest : List Letter} (h : LeavesReferences after (ampersand :: (taken ++ rest)))
    (hampersand : ampersand.char = '&') (hform : hasReferenceForm (taken.map Letter.char) = true) :
    ∀ letter ∈ taken, letter.escaped = false := by
  have hsign : ∀ letter ∈ taken, isLetter letter.char = true ∨ isDigit letter.char = true →
      letter.escaped = false := by
    intro letter hletter hc
    refine h.sign letter (List.mem_cons_of_mem _ (List.mem_append_left rest hletter)) ?_ ?_
    · rcases hc with hc | hc <;> simp [isReferenceSign, hc]
    · intro heq
      rw [heq] at hc
      revert hc
      decide
  rcases cases_of_hasReferenceForm hform with hall | ⟨d, digits, heq, hall⟩
  · intro letter hletter
    exact hsign letter hletter (hall letter.char (List.mem_map_of_mem hletter))
  · obtain ⟨number, others, rfl, hnumber, hothers⟩ := List.map_eq_cons_iff.mp heq
    refine List.forall_mem_cons.mpr ⟨?_, ?_⟩
    · obtain ⟨next, more, rfl, rfl, -⟩ := List.map_eq_cons_iff.mp hothers
      obtain ⟨c, escaped⟩ := number
      obtain rfl : c = '#' := hnumber
      rw [← Bool.not_eq_true]
      rintro (rfl : escaped = true)
      obtain ⟨hletter, hdigit⟩ := h.hash ampersand next (more ++ rest) List.suffix_rfl hampersand
      have hnext := hall next.char List.mem_cons_self
      simp [hletter, hdigit] at hnext
    · intro letter hletter
      refine hsign letter (List.mem_cons_of_mem number hletter) (hall letter.char ?_)
      rw [← hothers]
      exact List.mem_map_of_mem hletter

/-- A reference in a text is left alone with its semicolon. -/
theorem LeavesReferences.exists_plain {after : Option Char} {ampersand : Letter}
    {rest : List Letter} (h : LeavesReferences after (ampersand :: rest))
    (hampersand : ampersand.char = '&') {body tail : List Char}
    (hform : hasReferenceForm body = true) (hrest : rest.map Letter.char = body ++ ';' :: tail) :
    ∃ more, rest = (body ++ [';']).map .plain ++ more ∧ more.map Letter.char = tail := by
  obtain ⟨taken, back, rfl, rfl, hback⟩ := List.map_eq_append_iff.mp hrest
  obtain ⟨semicolon, more, rfl, hsemicolon, rfl⟩ := List.map_eq_cons_iff.mp hback
  have htaken := eq_map_plain (h.escaped_eq_false hampersand hform)
  obtain ⟨c, escaped⟩ := semicolon
  obtain rfl : c = ';' := hsemicolon
  obtain rfl : escaped = false := h.sign ⟨';', escaped⟩ (by simp) rfl (by simp)
  refine ⟨more, ?_, rfl⟩
  rw [List.map_append, ← htaken, List.append_assoc]
  rfl

section reading

variable {references : References} {encode : List Char} {after : Option Char} {rest : List Letter}

/-- A reference in a text is a reference in what is written. -/
theorem LeavesReferences.exists_readReference {ampersand : Letter}
    (h : LeavesReferences after (ampersand :: rest)) (hampersand : ampersand.char = '&')
    {value tail : List Char}
    (hread : readReference references (rest.map Letter.char) = some (value, tail)) :
    ∃ more, more <:+ rest ∧ more.map Letter.char = tail ∧
      readReference references (writeLetters encode after rest) =
        some (value, writeLetters encode after more) := by
  obtain ⟨body, htext, hform, hvalue⟩ := readReference_eq_some_iff.mp hread
  obtain ⟨more, rfl, rfl⟩ := h.exists_plain hampersand hform htext
  refine ⟨more, List.suffix_append _ more, rfl, ?_⟩
  rw [writeLetters_plain_append (not_mem_reference hform (by decide)), List.append_assoc,
    List.singleton_append]
  exact readReference_eq_some_iff.mpr ⟨body, rfl, hform, hvalue⟩

/-- Where there is no reference in a text, none is written. -/
theorem readReference_writeLetters_eq_none
    (hread : readReference references (rest.map Letter.char) = none) :
    readReference references (writeLetters encode after rest) = none := by
  rw [Option.eq_none_iff_forall_ne_some]
  rintro ⟨value, tail⟩ hwritten
  obtain ⟨body, htext, hform, hvalue⟩ := readReference_eq_some_iff.mp hwritten
  rw [List.append_cons] at htext
  have hplain : ∀ d ∈ body ++ [';'], d ≠ '\\' ∧ d ≠ '&' := by
    intro d hd
    constructor
    · rintro rfl
      exact not_mem_reference hform (by decide) hd
    · rintro rfl
      exact not_mem_reference hform (by decide) hd
  obtain ⟨more, rfl, -⟩ := exists_plain_of_writeLetters_append hplain htext
  rw [List.map_append, map_char_plain, List.append_assoc, List.singleton_append] at hread
  rw [readReference_eq_some_iff.mpr ⟨body, rfl, hform, hvalue⟩] at hread
  contradiction

end reading

/-- **Letters are read back as a text with its references resolved.** The induction is on how many
letters there are, as a reference is passed as a whole. -/
theorem decodeWith_writeLetters_eq_resolveReferences {references : References}
    (hreferences : references.IsStandard) (encode : List Char) {after : Option Char}
    {all : List Letter} (h : LeavesReferences after all) :
    decodeWith references (writeLetters encode after all) = resolveReferences references
      (all.map Letter.char) := by
  induction hlength : all.length using Nat.strongRecOn generalizing all with
  | ind n ih =>
      subst hlength
      cases all with
      | nil =>
          rw [List.map_nil, resolveReferences]
          exact decodeWith_nil
      | cons letter rest =>
          have hrest := h.of_suffix (List.suffix_cons letter rest)
          have ihRest := ih rest.length (Nat.lt_succ_self _) hrest rfl
          by_cases hampersand : letter = ⟨'&', false⟩
          · subst hampersand
            rw [writeLetters_ampersand, List.map_cons]
            cases hread : readReference references (rest.map Letter.char) with
            | none =>
                rw [resolveReferences_ampersand hread,
                  decodeWith_ampersand (readReference_writeLetters_eq_none hread),
                  ihRest]
            | some read =>
                obtain ⟨more, hmore, htail, hwritten⟩ := h.exists_readReference rfl hread
                have ihMore :=
                  ih more.length (Nat.lt_succ_of_le hmore.length_le) (hrest.of_suffix hmore) rfl
                rw [resolveReferences_reference hread, decodeWith_reference hwritten, ihMore, htail]
          · have hc : letter.char ≠ '&' := by
              intro hc
              obtain ⟨c, escaped⟩ := letter
              obtain rfl : c = '&' := hc
              obtain rfl : escaped = false := h.sign ⟨'&', escaped⟩ List.mem_cons_self rfl (by simp)
              exact hampersand rfl
            rw [decodeWith_writeLetters_cons hreferences encode h.toWellEscaped hampersand,
              List.map_cons, resolveReferences_plain hc, ihRest]

/-! ## Literal texts outside inline content -/

section literal

variable {stack : List Construct} {input : List Char} {around : Surroundings}

/-- Only two rules are about characters of references: that about ampersands, and those about number
signs. -/
theorem sign_of_mem_defaults : ∀ rule ∈ Rule.defaults, isReferenceSign rule.character = true →
    rule = ampersandRule ∨
      rule.character = '#' ∧
      (rule.atBreak = true ∨
        rule = Rule.make '#' [.headingAtx] [] false none (some Rule.lineEnd)) := by
  simp +decide [ampersandRule, Rule.defaults, Rule.whitespaceRules, Rule.punctuationRules,
    Rule.anywhereIn, Rule.inlineMarkup, Rule.blockMarkup, Rule.make]

/-- A number sign is not flagged between an ampersand and a letter or digit: it neither starts a
line nor ends a heading. -/
theorem not_flaggedAt_between {text : List Char} {offset : Nat} {d : Char}
    (hampersand : text[offset]? = some '&') (hnumber : text[offset + 1]? = some '#')
    (hd : text[offset + 2]? = some d) (hsign : isLetter d = true ∨ isDigit d = true) :
    ¬ FlaggedAt Rule.defaults stack text (offset + 1) := by
  intro hflagged
  obtain ⟨rule, hmem, hflags, hrule⟩ := exists_rule_of_flaggedAt hnumber hflagged
  rcases sign_of_mem_defaults rule hmem (by rw [hrule]; rfl) with rfl | ⟨-, hbreak | rfl⟩
  · exact absurd hrule (by decide)
  · have htake : text.take (offset + 1) = text.take offset ++ ['&'] := by
      rw [List.take_add_one, hampersand]
      rfl
    exact not_mem_positions_of_take hmem hbreak htake (by decide)
      (fun d hd => absurd hd List.not_mem_nil) hflags.2
  · obtain ⟨pre, lead, trail, post, hreported, hoffset⟩ := (Rule.mem_positions_make rfl).mp hflags.2
    have hbehind := hreported.getElem?_succ
    rw [← hoffset, hd] at hbehind
    rcases Regex.takes_alt.mp (fits_some.mp hreported.trail_fits) with hbreak | hfinish
    · obtain ⟨e, he, rfl⟩ := Rule.takes_lineBreak.mp hbreak
      obtain rfl : d = e := Option.some.inj hbehind
      rcases isLineBreak_iff.mp he with rfl | rfl <;> simp [isLetter, isDigit] at hsign
    · obtain ⟨rfl, rfl⟩ := Regex.takes_finish.mp hfinish
      contradiction

/-- The letters of a text outside inline content leave references alone. -/
theorem leavesReferences_lettersBetween (hstack : .phrasing ∉ stack) :
    LeavesReferences around.after.head? (lettersBetween Rule.defaults stack input around) where
  toWellEscaped := wellEscaped_lettersBetween
  sign := by
    intro letter hletter hsign hhash
    obtain ⟨i, hi⟩ := List.mem_iff_getElem?.mp hletter
    obtain ⟨hc, hiff⟩ := getElem?_lettersBetween_eq_some.mp hi
    rw [← Bool.not_eq_true]
    intro hescaped
    obtain ⟨rule, hmem, hflags, hrule⟩ :=
      exists_rule_of_flaggedAt (getElem?_enclose around hc) (hiff.mp hescaped).1
    rw [← hrule] at hsign hhash
    rcases sign_of_mem_defaults rule hmem hsign with rfl | ⟨hnumber, -⟩
    · have happlies := hflags.1
      simp only [Rule.applies, ampersandRule, Rule.make, Bool.and_eq_true, List.any_eq_true,
        List.isEmpty_cons, Bool.false_or] at happlies
      obtain ⟨⟨construct, hin, hphrasing⟩, -⟩ := happlies
      rw [List.contains_iff_mem, List.mem_singleton] at hphrasing
      exact hstack (hphrasing ▸ hin)
    · exact hhash hnumber
  hash := by
    intro ampersand next rest hsuffix hampersand
    obtain ⟨front, hall⟩ := hsuffix
    have hi : ∀ k, (lettersBetween Rule.defaults stack input around)[front.length + k]? =
        (ampersand :: ⟨'#', true⟩ :: next :: rest)[k]? := by
      intro k
      rw [← hall]
      exact getElem?_append_add _ _ rfl
    obtain ⟨hfirst, -⟩ := getElem?_lettersBetween_eq_some.mp (hi 0)
    obtain ⟨hnumber, hiff⟩ := getElem?_lettersBetween_eq_some.mp (hi 1)
    obtain ⟨hnext, -⟩ := getElem?_lettersBetween_eq_some.mp (hi 2)
    rw [hampersand] at hfirst
    by_contra hsign
    rw [← Bool.or_eq_false_iff, Bool.not_eq_false, Bool.or_eq_true] at hsign
    exact not_flaggedAt_between (getElem?_enclose around hfirst) (getElem?_enclose around hnumber)
      (getElem?_enclose around hnext) hsign (hiff.mp rfl).1

/-- **Outside inline content a literal text comes back with its references resolved.** -/
theorem decodeWith_escapeLiteral_of_not_mem {references : References}
    (hreferences : references.IsStandard) (hstack : .phrasing ∉ stack) :
    decodeWith references (escapeLiteral Rule.defaults stack input around) =
      resolveReferences references input := by
  rw [escapeLiteral, decodeWith_writeLetters_eq_resolveReferences hreferences around.encode
    (leavesReferences_lettersBetween hstack), map_char_lettersBetween]

/-- A literal text comes back as itself in inline content, and elsewhere if it holds no reference.
-/
theorem decodeWith_escapeLiteral_eq_self_iff {references : References}
    (hreferences : references.IsStandard) (hshorten : references.Shorten) :
    decodeWith references (escapeLiteral Rule.defaults stack input around) = input ↔
      .phrasing ∈ stack ∨ holdsReference references input = false := by
  by_cases hstack : .phrasing ∈ stack
  · exact iff_of_true (decodeWith_escapeLiteral hreferences hstack) (.inl hstack)
  · rw [decodeWith_escapeLiteral_of_not_mem hreferences hstack,
      resolveReferences_eq_self_iff hshorten, or_iff_right hstack]

/-- A literal text never comes back longer. -/
theorem length_decodeWith_escapeLiteral_le {references : References}
    (hreferences : references.IsStandard) (hshorten : references.Shorten) :
    (decodeWith references (escapeLiteral Rule.defaults stack input around)).length ≤
      input.length := by
  by_cases hstack : .phrasing ∈ stack
  · exact Nat.le_of_eq (congrArg List.length (decodeWith_escapeLiteral hreferences hstack))
  · rw [decodeWith_escapeLiteral_of_not_mem hreferences hstack]
    exact length_resolveReferences_le hshorten

end literal

end MarkdownWriter
