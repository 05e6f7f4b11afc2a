import MarkdownWriter.Proofs.Escape.TextPieces
import Mathlib.Data.List.Forall2

/-!
# What is written for several texts

The letters of several texts are those of one text, but some of them are not escaped
(`IsPiece.exists_letters`). So what is written for the texts one by one is part of what is written
for them in one, and as a part it is the whole only if no letter is written otherwise
(`append_eq_append_iff_of_sublist`).

* **Letters** (`writeLetters_sublist`), by induction on them: a backslash is doubled against the
  next letter, which counts as punctuation whether it is escaped or not.
* **One text** (`IsPiece.written`): the last letter is written against the next text.
* **All of them** (`flatten_textsFrom`), by induction on the texts that are left.
-/

namespace MarkdownWriter

open Text

/-! ## Parts of concatenations -/

/-- Sublists put together are the whole only if each is its part. -/
theorem append_eq_append_iff_of_sublist {α : Type} {front front' back back' : List α}
    (hfront : front.Sublist front') (hback : back.Sublist back') : front ++ back = front' ++ back' ↔
      front = front' ∧ back = back' := by
  constructor
  · intro h
    have hlength := congrArg List.length h
    rw [List.length_append, List.length_append] at hlength
    have := hfront.length_le
    have := hback.length_le
    exact ⟨hfront.eq_of_length (by omega), hback.eq_of_length (by omega)⟩
  · rintro ⟨rfl, rfl⟩
    rfl

/-! ## Letters that are escaped less -/

/-- A letter of the same character as another one, escaped only if that one is. Left alone instead
it is punctuation and no backslash. -/
structure Letter.LiesBelow (letter other : Letter) : Prop where
  char_eq : letter.char = other.char
  escaped_mono : letter.escaped = true → other.escaped = true
  escaped_eq_or : letter.escaped = other.escaped ∨
    isPunctuation letter.char = true ∧ letter.char ≠ '\\'

namespace Letter

variable {letter other : Letter} {next next' : Option Char}

/-- Either one counts as the same in front of a backslash. -/
theorem LiesBelow.isPunctuation_front (h : letter.LiesBelow other) :
    isPunctuation letter.front = isPunctuation other.front := by
  obtain ⟨c, escaped⟩ := letter
  obtain ⟨d, escaped'⟩ := other
  obtain ⟨rfl, -, rfl | ⟨hsign, -⟩⟩ := h
  · rfl
  · have hfront : ∀ escaped, isPunctuation (front ⟨c, escaped⟩) = true := by
      intro escaped
      cases escaped with
      | false => exact hsign
      | true => rfl
    rw [hfront, hfront]

/-- Only a backslash is written against what comes next. -/
theorem written_eq_of_ne {c : Char} (hc : c ≠ '\\') (escaped : Bool) (next next' : Option Char) :
    written [] ⟨c, escaped⟩ next = written [] ⟨c, escaped⟩ next' := by
  unfold written
  rw [plainChar_of_ne hc, plainChar_of_ne hc]

/-- A backslash is doubled or not. -/
theorem plainChar_backslash_sublist
    (hnext : next.any isPunctuation = true → next'.any isPunctuation = true) :
    (plainChar '\\' next).Sublist (plainChar '\\' next') ∧
      (plainChar '\\' next = plainChar '\\' next' ↔
        next.any isPunctuation = next'.any isPunctuation) := by
  rw [plainChar_backslash, plainChar_backslash]
  cases hleft : next.any isPunctuation with
  | true =>
      rw [hnext hleft]
      exact ⟨List.Sublist.refl _, iff_of_true rfl rfl⟩
  | false =>
      cases next'.any isPunctuation with
      | true => exact ⟨by decide, by decide⟩
      | false => exact ⟨List.Sublist.refl _, iff_of_true rfl rfl⟩

/-- What is written for the letter is part of what is written for the other one. It is all of it
only if the letters are the same, and a backslash is doubled in front of both or of neither. -/
theorem LiesBelow.written (h : letter.LiesBelow other)
    (hnext : next.any isPunctuation = true → next'.any isPunctuation = true) :
    (letter.written [] next).Sublist (other.written [] next') ∧
      (letter.written [] next = other.written [] next' ↔
        letter = other ∧
          (letter.char = '\\' → next.any isPunctuation = next'.any isPunctuation)) := by
  obtain ⟨c, escaped⟩ := letter
  obtain ⟨d, escaped'⟩ := other
  obtain ⟨rfl, hmono, heq⟩ := h
  by_cases hc : c = '\\'
  · obtain rfl : escaped = escaped' := heq.resolve_right fun h => h.2 hc
    subst hc
    obtain ⟨hsublist, hequal⟩ := plainChar_backslash_sublist hnext
    cases escaped with
    | false => exact ⟨hsublist, hequal.trans (by simp)⟩
    | true =>
        exact ⟨hsublist.cons_cons '\\', (List.cons_inj_right '\\').trans (hequal.trans (by simp))⟩
  · rw [written_eq_of_ne hc escaped next next']
    by_cases hsame : escaped = escaped'
    · subst hsame
      exact ⟨List.Sublist.refl _, iff_of_true rfl ⟨rfl, fun h => absurd h hc⟩⟩
    · obtain ⟨hsign, -⟩ := heq.resolve_left hsame
      cases escaped with
      | true => exact absurd (hmono rfl).symm hsame
      | false =>
          obtain rfl : escaped' = true := by simpa using hsame
          have hplain : Letter.written [] ⟨c, false⟩ next' = [c] := plainChar_of_ne hc
          have hescaped : Letter.written [] ⟨c, true⟩ next' = ['\\', c] := by
            simp [Letter.written, hsign, plainChar_of_ne hc]
          rw [hplain, hescaped]
          exact ⟨by simp, by simp⟩

end Letter

section letters

variable {all all' : List Letter} {after after' : Option Char}

/-- What comes next counts as the same in front of a backslash, be it a letter or not. -/
theorem isPunctuation_behind (h : List.Forall₂ Letter.LiesBelow all all')
    (hafter : after.any isPunctuation = true → after'.any isPunctuation = true) :
    ((behind after all).any isPunctuation = true → (behind after' all').any isPunctuation = true) ∧
      (all ≠ [] → (behind after all).any isPunctuation =
        (behind after' all').any isPunctuation) := by
  cases h with
  | nil => exact ⟨hafter, fun h => absurd rfl h⟩
  | cons hletter hrest =>
      have hfront := hletter.isPunctuation_front
      change (isPunctuation _ = true → isPunctuation _ = true) ∧
          (_ → isPunctuation _ = isPunctuation _)
      exact ⟨fun h => hfront ▸ h, fun _ => hfront⟩

/-- What is written for letters is part of what is written for others that they lie below. It is all
of it only if the letters are the same, and a backslash at their end is doubled in front of both or
of neither. The induction is on the letters. -/
theorem writeLetters_sublist (h : List.Forall₂ Letter.LiesBelow all all')
    (hafter : after.any isPunctuation = true → after'.any isPunctuation = true) :
    (writeLetters [] after all).Sublist (writeLetters [] after' all') ∧
      (writeLetters [] after all = writeLetters [] after' all' ↔
        all = all' ∧ (all.getLast?.map Letter.char = some '\\' →
          after.any isPunctuation = after'.any isPunctuation)) := by
  induction h with
  | nil => exact ⟨List.Sublist.refl _, by simp [writeLetters]⟩
  | @cons letter other rest rest' hletter hrest ih =>
      obtain ⟨hbehind, hsame⟩ := isPunctuation_behind hrest hafter
      obtain ⟨hwritten, hwritten_iff⟩ := hletter.written hbehind
      rw [writeLetters_cons, writeLetters_cons]
      refine ⟨hwritten.append ih.1, ?_⟩
      rw [append_eq_append_iff_of_sublist hwritten ih.1, hwritten_iff, ih.2, List.cons.injEq]
      cases hrest with
      | nil => simp [behind]
      | cons hnext hmore =>
          rw [List.getLast?_cons_cons, and_iff_left (fun _ => hsame (List.cons_ne_nil _ _)),
            and_assoc]

end letters

/-! ## One text of several -/

/-- The letters of a paragraph's text. -/
def textLetters (value : List Char) : List Letter :=
  lettersBetween Rule.defaults paragraphStack value ownLines

/-- Those of them that are of the text `piece`, with the texts `before` and `behind` around it. -/
def segment (before piece : List Char) (behind : List (List Char)) : List Letter :=
  ((textLetters (before ++ piece ++ behind.flatten)).drop before.length).take piece.length

/-- What the last one of these is written against. -/
def nextSign (before piece : List Char) (rest : List (List Char)) : Option Char :=
  behind (some '\n') ((textLetters (before ++ piece ++ rest.flatten)).drop (before ++ piece).length)

/-- What stands around the text as far as it is told. -/
def toldSite (told : Char) (behind : List (List Char)) : Surroundings where
  before := [told]
  after := [toldAhead behind]

/-- A text of several that make up a paragraph without stacked markers. The texts in front of it are
`before` together, and `told` is told of their last character. -/
structure IsPiece (before piece : List Char) (behind : List (List Char)) (told : Char) : Prop where
  behind_ne_nil : ∀ text ∈ behind, text ≠ []
  told_alike : ∃ actual, ('\n' :: before).getLast? = some actual ∧ BehindAlike told actual
  unstacked : Unstacked (ownLines.enclose (before ++ piece ++ behind.flatten))

theorem BehindAlike.same {told actual : Char} (h : BehindAlike told actual) :
    told = actual ∨ isLineBreak told = false ∧ isLineBreak actual = false := by
  rcases h with rfl | ⟨rfl, hspacing⟩
  · exact .inl rfl
  · exact .inr ⟨rfl, isLineBreak_of_isSpacing hspacing⟩

/-- When a character of a paragraph's text is escaped. -/
theorem escapedAt_ownLines_iff {pre post : List Char} {c : Char}
    (h : Unstacked (ownLines.enclose (pre ++ c :: post))) :
    EscapedAt Rule.defaults paragraphStack (pre ++ c :: post) ownLines pre.length ↔
      isSpanMarkup ('\n' :: pre).getLast? c (post ++ ['\n']).head? = true ∨
        BeginsBlock ('\n' :: pre) c (post ++ ['\n']) := by
  have htext : ownLines.enclose (pre ++ c :: post) = ('\n' :: pre) ++ c :: (post ++ ['\n']) := by
    simp [ownLines, Surroundings.enclose]
  refine escapedAt_iff (by simp) htext ?_ (by simp [ownLines]) (by simp) h
  rw [List.length_cons, Nat.add_comm]
  rfl

namespace IsPiece

variable {before piece pre post : List Char} {behind : List (List Char)} {told c : Char}

/-- When a character of one of several texts is escaped. -/
theorem escapedAt_told_iff (h : IsPiece before (pre ++ c :: post) behind told) :
    EscapedAt Rule.defaults paragraphStack (pre ++ c :: post) (toldSite told behind) pre.length ↔
      isSpanMarkup (told :: pre).getLast? c (post ++ [toldAhead behind]).head? = true ∨
        BeginsBlock (told :: pre) c (post ++ [toldAhead behind]) := by
  obtain ⟨actual, hlast, halike⟩ := h.told_alike
  have htext :
      (toldSite told behind).enclose (pre ++ c :: post) =
        (told :: pre) ++ c :: (post ++ [toldAhead behind]) := by
    simp [toldSite, Surroundings.enclose]
  refine escapedAt_iff (by simp) htext ?_ ?_ (by simp) ?_
  · rw [List.length_cons, Nat.add_comm]
    rfl
  · rcases cases_of_ahead h.behind_ne_nil with ⟨-, htold⟩ | ⟨d, text, rest, -, htold⟩
    · simp [toldSite, htold]
    · simpa [toldSite, htold] using aheadSign_ne_bracket d text.head?
  · exact h.unstacked.of_whole hlast halike.same h.behind_ne_nil

/-- When the same character is escaped in one text. -/
theorem escapedAt_whole_iff (h : IsPiece before (pre ++ c :: post) behind told) :
    EscapedAt Rule.defaults paragraphStack (before ++ (pre ++ c :: post) ++ behind.flatten) ownLines
        (before.length + pre.length) ↔
      isSpanMarkup ('\n' :: (before ++ pre)).getLast? c (post ++ (behind.flatten ++ ['\n'])).head? =
        true ∨ BeginsBlock ('\n' :: (before ++ pre)) c (post ++ (behind.flatten ++ ['\n'])) := by
  have htext :
      before ++ (pre ++ c :: post) ++ behind.flatten =
        (before ++ pre) ++ c :: (post ++ behind.flatten) := by
    simp
  have hunstacked := h.unstacked
  rw [htext] at hunstacked ⊢
  rw [← List.length_append, ← List.append_assoc post]
  exact escapedAt_ownLines_iff hunstacked

/-- A character is escaped in one text if it is in several, and it is only there exactly if the cuts
are where they matter to it. A backslash is escaped in both. -/
theorem escapedAt (h : IsPiece before (pre ++ c :: post) behind told) :
    (EscapedAt Rule.defaults paragraphStack (pre ++ c :: post) (toldSite told behind) pre.length →
        EscapedAt Rule.defaults paragraphStack (before ++ (pre ++ c :: post) ++ behind.flatten)
          ownLines (before.length + pre.length)) ∧
      (¬ EscapedAt Rule.defaults paragraphStack (pre ++ c :: post) (toldSite told behind)
          pre.length ∧
        EscapedAt Rule.defaults paragraphStack (before ++ (pre ++ c :: post) ++ behind.flatten)
          ownLines (before.length + pre.length) ↔
        c ≠ '\\' ∧ CutsMarkup before pre c post behind) := by
  obtain ⟨actual, hlast, halike⟩ := h.told_alike
  obtain ⟨x, x', hx, hx', hbehind⟩ := @exists_behindAlike before pre told actual hlast halike
  obtain ⟨y, y', hy, hy', hahead⟩ := exists_aheadAlike post h.behind_ne_nil
  rw [h.escapedAt_told_iff, h.escapedAt_whole_iff, hx, hx', hy, hy',
    isSpanMarkup_congr hbehind hahead]
  have hmono : BeginsBlock (told :: pre) c (post ++ [toldAhead behind]) → _ :=
    fun hblock => hblock.of_told hlast halike.same h.behind_ne_nil
  refine ⟨Or.imp_right hmono, ?_⟩
  constructor
  · rintro ⟨hplain, hescaped⟩
    obtain ⟨hspan, hnot⟩ := not_or.mp hplain
    have hblock := hescaped.resolve_left hspan
    exact ⟨hblock.character.2.2, hblock.cutsMarkup hnot hlast halike.same h.behind_ne_nil⟩
  · rintro ⟨hc, hcuts⟩
    obtain ⟨hblock, hnot⟩ := hcuts.beginsBlock hlast halike.same hc
    refine ⟨not_or.mpr ⟨?_, hnot⟩, .inr hblock⟩
    rw [hblock.character.1]
    exact Bool.false_ne_true

/-- The letters of a character in several texts and in one. -/
theorem exists_letters (h : IsPiece before (pre ++ c :: post) behind told) :
    ∃ escaped escaped',
      (lettersBetween Rule.defaults paragraphStack (pre ++ c :: post)
        (toldSite told behind))[pre.length]? = some ⟨c, escaped⟩ ∧
      (textLetters (before ++ (pre ++ c :: post) ++ behind.flatten))[before.length + pre.length]? =
        some ⟨c, escaped'⟩ ∧ Letter.LiesBelow ⟨c, escaped⟩ ⟨c, escaped'⟩ ∧
      (escaped = escaped' ↔ ¬ (c ≠ '\\' ∧ CutsMarkup before pre c post behind)) := by
  obtain ⟨hmono, hcuts⟩ := h.escapedAt
  have hplace : (before ++ (pre ++ c :: post) ++ behind.flatten)[before.length + pre.length]? =
      some c := by
    rw [List.append_assoc, getElem?_append_add _ _ rfl, List.append_assoc]
    exact getElem?_append_cons pre
  obtain ⟨escaped, hletter, hescaped⟩ :=
    exists_letter Rule.defaults paragraphStack (toldSite told behind)
      (getElem?_append_cons pre : (pre ++ c :: post)[_]? = _)
  obtain ⟨escaped', hletter', hescaped'⟩ :=
    exists_letter Rule.defaults paragraphStack ownLines hplace
  rw [← hescaped, ← hescaped'] at hmono hcuts
  have hsame : escaped = escaped' ↔ ¬ (c ≠ '\\' ∧ CutsMarkup before pre c post behind) := by
    rw [← hcuts]
    revert hmono
    cases escaped <;> cases escaped' <;> decide
  refine ⟨escaped, escaped', hletter, hletter', ⟨rfl, hmono, ?_⟩, hsame⟩
  by_cases heq : escaped = escaped'
  · exact .inl heq
  · obtain ⟨hc, hcut⟩ := Classical.not_not.mp (mt hsame.mpr heq)
    exact .inr ⟨hcut.isPunctuation, hc⟩

theorem length_segment : (segment before piece behind).length = piece.length := by
  rw [segment, List.length_take, List.length_drop, textLetters, length_lettersBetween,
    List.length_append, List.length_append]
  omega

theorem getElem?_segment {i : Nat} (hi : i < piece.length) :
    (segment before piece behind)[i]? = (textLetters
      (before ++ piece ++ behind.flatten))[before.length + i]? := by
  rw [segment, List.getElem?_take_of_lt hi, List.getElem?_drop]

/-- The letters of one of several texts lie below those of the whole. -/
theorem forall₂_letters (h : IsPiece before piece behind told) :
    List.Forall₂ Letter.LiesBelow (lettersBetween Rule.defaults paragraphStack piece
      (toldSite told behind)) (segment before piece behind) := by
  refine List.forall₂_iff_get.mpr ⟨by rw [length_lettersBetween, length_segment],
    fun i hi hi' => ?_⟩
  have hlt : i < piece.length := by rwa [length_lettersBetween] at hi
  obtain ⟨c, hc⟩ : ∃ c, piece[i]? = some c := ⟨_, List.getElem?_eq_getElem hlt⟩
  obtain ⟨pre, post, rfl, rfl⟩ := exists_append_of_getElem? hc
  obtain ⟨escaped, escaped', hletter, hletter', hbelow, -⟩ := h.exists_letters
  rw [← getElem?_segment hlt] at hletter'
  obtain ⟨_, hget⟩ := List.getElem?_eq_some_iff.mp hletter
  obtain ⟨_, hget'⟩ := List.getElem?_eq_some_iff.mp hletter'
  rw [List.get_eq_getElem, List.get_eq_getElem, hget, hget']
  exact hbelow

/-- They are the same if no cut matters to a marker. -/
theorem letters_eq_iff (h : IsPiece before piece behind told) :
    lettersBetween Rule.defaults paragraphStack piece (toldSite told behind) =
        segment before piece behind ↔
      ∀ pre c post, piece = pre ++ c :: post → c ≠ '\\' →
        ¬ CutsMarkup before pre c post behind := by
  constructor
  · rintro heq pre c post rfl hc hcuts
    obtain ⟨escaped, escaped', hletter, hletter', -, hsame⟩ := h.exists_letters
    rw [heq, getElem?_segment (by simp), hletter'] at hletter
    exact hsame.mp (congrArg Letter.escaped (Option.some.inj hletter)).symm ⟨hc, hcuts⟩
  · intro hnone
    apply List.ext_getElem?
    intro i
    by_cases hlt : i < piece.length
    · obtain ⟨c, hc⟩ : ∃ c, piece[i]? = some c := ⟨_, List.getElem?_eq_getElem hlt⟩
      obtain ⟨pre, post, rfl, rfl⟩ := exists_append_of_getElem? hc
      obtain ⟨escaped, escaped', hletter, hletter', -, hsame⟩ := h.exists_letters
      rw [hletter, getElem?_segment hlt, hletter',
        hsame.mpr fun hcuts => hnone _ _ _ rfl hcuts.1 hcuts.2]
    · rw [List.getElem?_eq_none (by rw [length_lettersBetween]; omega),
        List.getElem?_eq_none (by rw [length_segment]; omega)]

end IsPiece

/-- What the letters from a place on count as in front of a backslash. -/
theorem isPunctuation_behind_textLetters {pre post : List Char} {c : Char}
    (h : Unstacked (ownLines.enclose (pre ++ c :: post))) :
    (behind (some '\n') ((textLetters (pre ++ c :: post)).drop pre.length)).any isPunctuation =
      true ↔ isPunctuation c = true ∨ isSpacing c = true ∧
        (('\n' :: pre).getLast?.any isLineBreak = true ∨
          (post ++ ['\n']).head?.any isLineBreak = true) := by
  obtain ⟨escaped, hletter, hescaped⟩ := exists_letter Rule.defaults paragraphStack ownLines
    (getElem?_append_cons pre : (pre ++ c :: post)[_]? = _)
  rw [escapedAt_ownLines_iff h] at hescaped
  have hbehind : behind (some '\n') ((textLetters (pre ++ c :: post)).drop pre.length) =
      some (Letter.front ⟨c, escaped⟩) := by
    unfold behind
    rw [List.head?_drop]
    change ((lettersBetween Rule.defaults paragraphStack (pre ++ c :: post)
        ownLines)[pre.length]?).elim _ _ = _
    rw [hletter]
    rfl
  rw [hbehind, Option.any_some]
  cases hsign : isPunctuation c with
  | true =>
      refine iff_of_true ?_ (.inl rfl)
      cases escaped with
      | false => exact hsign
      | true => rfl
  | false =>
      have hblock : ¬ BeginsBlock ('\n' :: pre) c (post ++ ['\n']) := by
        intro hblock
        rw [hblock.character.2.1] at hsign
        contradiction
      rw [or_iff_left hblock, isSpanMarkup_iff_of_not_isPunctuation hsign] at hescaped
      rw [or_iff_right Bool.false_ne_true, ← hescaped]
      cases escaped with
      | false => exact iff_of_false (Bool.eq_false_iff.mp hsign) Bool.false_ne_true
      | true => exact iff_of_true rfl rfl

section nextSign

variable {before piece : List Char}

/-- A line ending stands behind the last text. -/
theorem nextSign_nil : nextSign before piece [] = some '\n' := by
  unfold nextSign
  rw [List.drop_eq_nil_of_le (by rw [textLetters, length_lettersBetween]; simp)]
  rfl

/-- What stands behind any other text counts as punctuation if it is, or if it is a space or tab
that is escaped. -/
theorem isPunctuation_nextSign_iff {d : Char} {text : List Char} {rest : List (List Char)}
    (h : Unstacked (ownLines.enclose (before ++ piece ++ ((d :: text) :: rest).flatten))) :
    (nextSign before piece ((d :: text) :: rest)).any isPunctuation = true ↔
      isPunctuation d = true ∨
        isSpacing d = true ∧
          (('\n' :: (before ++ piece)).getLast?.any isLineBreak = true ∨
            (text ++ (rest.flatten ++ ['\n'])).head?.any isLineBreak = true) := by
  have htext :
      before ++ piece ++ ((d :: text) :: rest).flatten =
        (before ++ piece) ++ d :: (text ++ rest.flatten) := by
    simp
  rw [htext] at h
  have hnext := isPunctuation_behind_textLetters h
  rwa [← htext, List.append_assoc text] at hnext

end nextSign

namespace IsPiece

variable {before piece : List Char} {behind : List (List Char)} {told : Char}

/-- What is told to stand behind a text is punctuation only if what stands there in one text counts
as such. -/
theorem isPunctuation_next (h : IsPiece before piece behind told)
    (htold : isPunctuation (toldAhead behind) = true) :
    (nextSign before piece behind).any isPunctuation = true := by
  rcases cases_of_ahead h.behind_ne_nil with ⟨rfl, hnext⟩ | ⟨d, text, rest, rfl, hnext⟩
  · rw [hnext] at htold
    contradiction
  · rw [hnext, isPunctuation_aheadSign_iff] at htold
    refine (isPunctuation_nextSign_iff h.unstacked).mpr
      (htold.imp_right (And.imp_right fun hbreak => .inr ?_))
    cases text with
    | nil => contradiction
    | cons e text => exact hbreak

/-- Behind a backslash at the end of a text both are the same unless the cut is where it matters. -/
theorem isPunctuation_next_eq_iff {pre : List Char}
    (h : IsPiece before (pre ++ ['\\']) behind told) :
    isPunctuation (toldAhead behind) = (nextSign before (pre ++ ['\\']) behind).any isPunctuation ↔
      ¬ CutsMarkup before pre '\\' [] behind := by
  rcases cases_of_ahead h.behind_ne_nil with ⟨rfl, hnext⟩ | ⟨d, text, rest, rfl, hnext⟩
  · rw [hnext, nextSign_nil]
    refine iff_of_true rfl fun hcuts => ?_
    obtain ⟨s, rest, -, hnil, -⟩ := cutsMarkup_backslash_iff.mp hcuts
    contradiction
  · have hlast : ('\n' :: (before ++ (pre ++ ['\\']))).getLast?.any isLineBreak = false := by
      rw [← List.append_assoc, ← List.cons_append, List.getLast?_concat]
      rfl
    rw [hnext, Bool.eq_iff_iff, isPunctuation_nextSign_iff h.unstacked, isPunctuation_aheadSign_iff,
      cutsMarkup_backslash_cons_iff, hlast]
    cases text with
    | cons e text => simp
    | nil =>
        simp only [List.head?_nil, Option.any_none, Bool.false_eq_true, and_false, or_false,
          false_or, true_and, List.nil_append]
        -- a space or tab that ends a line is a reference in one text, but not to who looks ahead to
        -- it alone
        refine ⟨fun hsame hcut => ?_, fun hnot => (or_iff_left hnot).symm⟩
        exact Bool.eq_false_iff.mp (isPunctuation_of_isSpacing hcut.1) (hsame.mpr (.inr hcut))

/-- **One text of several.** What is written for it is part of what is written for it in one text,
and all of it exactly if no character of it is where the cuts matter. -/
theorem written (h : IsPiece before piece behind told) :
    (escapeLiteral Rule.defaults paragraphStack piece (toldSite told behind)).Sublist
        (writeLetters [] (nextSign before piece behind) (segment before piece behind)) ∧
      (escapeLiteral Rule.defaults paragraphStack piece (toldSite told behind) =
          writeLetters [] (nextSign before piece behind) (segment before piece behind) ↔
        ∀ pre c post, piece = pre ++ c :: post → ¬ CutsMarkup before pre c post behind) := by
  obtain ⟨hsublist, hiff⟩ :=
    @writeLetters_sublist _ _ (some (toldAhead behind)) _ h.forall₂_letters h.isPunctuation_next
  refine ⟨hsublist, hiff.trans ?_⟩
  rw [h.letters_eq_iff, ← List.getLast?_map, map_char_lettersBetween]
  constructor
  · rintro ⟨hothers, hlast⟩ pre c post rfl hcuts
    by_cases hc : c = '\\'
    · subst hc
      obtain ⟨s, rest, rfl, rfl, -⟩ := cutsMarkup_backslash_iff.mp hcuts
      exact h.isPunctuation_next_eq_iff.mp (hlast List.getLast?_concat) hcuts
    · exact hothers pre c post rfl hc hcuts
  · intro hnone
    refine ⟨fun pre c post hpiece _ => hnone pre c post hpiece, fun hlast => ?_⟩
    obtain ⟨pre, rfl⟩ := List.getLast?_eq_some_iff.mp hlast
    exact h.isPunctuation_next_eq_iff.mpr (hnone pre '\\' [] rfl)

end IsPiece

/-! ## All of several texts -/

/-- What is written for several texts one by one, the first one behind what `told` is told of. -/
def textsFrom (told : Char) : List (List Char) → List (List Char)
  | [] => []
  | piece :: behind =>
      let text := escapeLiteral Rule.defaults paragraphStack piece (toldSite told behind)
      text :: textsFrom (text.getLast?.getD told) behind

/-- What holds of each element of a list between those in front of it and those behind it, holds of
the first one and of the others. -/
theorem forall_split_cons_iff {α : Type} {x : α} {rest : List α} {P : List α → α → List α → Prop} :
    (∀ front y back, x :: rest = front ++ y :: back → P front y back) ↔
      P [] x rest ∧ ∀ front y back, rest = front ++ y :: back → P (x :: front) y back := by
  constructor
  · intro h
    exact ⟨h [] x rest rfl,
      fun front y back heq => h (x :: front) y back (congrArg (List.cons x) heq)⟩
  · rintro ⟨hfirst, hothers⟩ front y back heq
    cases front with
    | nil =>
        obtain ⟨rfl, rfl⟩ := List.cons.inj heq
        exact hfirst
    | cons z front =>
        obtain ⟨rfl, hrest⟩ := List.cons.inj heq
        exact hothers front y back hrest

/-- What is written from a text on begins with the text. -/
theorem writeLetters_drop (before piece : List Char) (rest : List (List Char)) :
    writeLetters [] (some '\n') ((textLetters (before ++ piece ++ rest.flatten)).drop
      before.length) = writeLetters [] (nextSign before piece rest) (segment before piece rest) ++
        writeLetters [] (some '\n') ((textLetters (before ++ piece ++ rest.flatten)).drop
          (before ++ piece).length) := by
  rw [nextSign, segment, ← writeLetters_append, List.length_append, ← List.drop_drop,
    List.take_append_drop]

/-- What is written for several texts is part of what is written for one text, and all of it exactly
if no character is where the cuts matter. The induction is on the texts that are left. -/
theorem flatten_textsFrom {before : List Char} {told actual : Char} {pieces : List (List Char)}
    (hpieces : ∀ text ∈ pieces, text ≠ []) (hlast : ('\n' :: before).getLast? = some actual)
    (halike : BehindAlike told actual)
    (hunstacked : Unstacked (ownLines.enclose (before ++ pieces.flatten))) :
    (textsFrom told pieces).flatten.Sublist
        (writeLetters [] (some '\n') ((textLetters (before ++ pieces.flatten)).drop
          before.length)) ∧
      ((textsFrom told pieces).flatten =
          writeLetters [] (some '\n') ((textLetters (before ++ pieces.flatten)).drop
            before.length) ↔
        ∀ front piece behind, pieces = front ++ piece :: behind →
          ∀ pre c post, piece = pre ++ c :: post →
          ¬ CutsMarkup (before ++ front.flatten) pre c post behind) := by
  induction pieces generalizing before told actual with
  | nil =>
      rw [List.drop_eq_nil_of_le (by rw [textLetters, length_lettersBetween]; simp)]
      refine ⟨List.Sublist.refl _, iff_of_true rfl ?_⟩
      intro front piece behind hnil
      exact absurd hnil.symm (List.append_ne_nil_of_right_ne_nil front
        (List.cons_ne_nil piece behind))
  | cons piece behind ih =>
      obtain ⟨hpiece, hbehind⟩ := List.forall_mem_cons.mp hpieces
      obtain ⟨front, c, rfl⟩ := (List.eq_nil_or_concat piece).resolve_left hpiece
      rw [List.concat_eq_append] at hunstacked ⊢
      rw [List.flatten_cons, ← List.append_assoc] at hunstacked ⊢
      have hone : IsPiece before (front ++ [c]) behind told :=
        ⟨hbehind, ⟨actual, hlast, halike⟩, hunstacked⟩
      obtain ⟨hsublist, hiff⟩ := hone.written
      obtain ⟨told', htold, halike'⟩ :=
        @exists_getLast?_behindAlike c front [told] [toldAhead behind]
      have hlast' : ('\n' :: (before ++ (front ++ [c]))).getLast? = some c := by
        rw [← List.append_assoc, ← List.cons_append, List.getLast?_concat]
      obtain ⟨hrest, hrest_iff⟩ := ih hbehind hlast' halike' hunstacked
      have htexts : (textsFrom told ((front ++ [c]) :: behind)).flatten =
          escapeLiteral Rule.defaults paragraphStack (front ++ [c]) (toldSite told behind) ++
            (textsFrom told' behind).flatten := by
        rw [textsFrom, List.flatten_cons]
        change _ ++ (textsFrom ((escapeLiteral _ _ _ ⟨[told], [toldAhead behind], []⟩).getLast?.getD
            told) _).flatten = _
        rw [htold, Option.getD_some]
      rw [htexts, writeLetters_drop]
      refine ⟨hsublist.append hrest, (append_eq_append_iff_of_sublist hsublist hrest).trans ?_⟩
      rw [hiff, hrest_iff, forall_split_cons_iff]
      simp only [List.flatten_nil, List.append_nil, List.flatten_cons, List.append_assoc]

/-- **Where several texts are written as one.** If no list marker stands below a row that holds
nothing but the same marker, what is written for several texts is what is written for one text, with
letters left out, and none is left out exactly if no character is where the cuts matter. -/
theorem flatten_textsFrom_eq_iff {pieces : List (List Char)} (hpieces : ∀ text ∈ pieces, text ≠ [])
    (hstacked : hasStackedMarkers pieces.flatten = false) :
    (textsFrom '\n' pieces).flatten = paragraphText pieces.flatten ↔
      ∀ front piece behind, pieces = front ++ piece :: behind →
        ∀ pre c post, piece = pre ++ c :: post → ¬ CutsMarkup front.flatten pre c post behind :=
  (@flatten_textsFrom [] '\n' '\n' pieces hpieces rfl (.inl rfl) (unstacked_ownLines hstacked)).2

/-- Several texts end in a line break as they are written exactly if they do so themselves. -/
theorem getLast?_flatten_textsFrom (told : Char) (pieces : List (List Char)) :
    ((textsFrom told pieces).flatten = [] ↔ pieces.flatten = []) ∧
      ((textsFrom told pieces).flatten.getLast?.any isLineBreak = true ↔
        pieces.flatten.getLast?.any isLineBreak = true) := by
  have hstack : ∀ construct ∈ paragraphStack, construct ∉ Rule.singleLine := by decide
  induction pieces generalizing told with
  | nil => exact ⟨Iff.rfl, Iff.rfl⟩
  | cons piece behind ih =>
      rw [textsFrom, List.flatten_cons, List.flatten_cons, List.append_eq_nil_iff,
        List.append_eq_nil_iff, escapeLiteral_eq_nil_iff]
      generalize hrest : textsFrom _ behind = rest
      obtain ⟨hnil, hbreak⟩ :=
        ih ((escapeLiteral Rule.defaults paragraphStack piece (toldSite told behind)).getLast?.getD
          told)
      rw [hrest] at hnil hbreak
      refine ⟨and_congr_right' hnil, ?_⟩
      by_cases hempty : behind.flatten = []
      · rw [hnil.mpr hempty, hempty, List.append_nil, List.append_nil]
        exact isLineBreak_getLast?_escapeLiteral_iff hstack
      · rw [List.getLast?_append_of_ne_nil _ (mt hnil.mp hempty),
          List.getLast?_append_of_ne_nil _ hempty]
        exact hbreak

end MarkdownWriter
