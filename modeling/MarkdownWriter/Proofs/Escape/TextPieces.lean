import MarkdownWriter.Proofs.Escape.BlockMarkers
import MarkdownWriter.Proofs.Escape.LineBreaks

/-!
# Texts in front of each other

A text of several that make up a paragraph is told of one character before it and of one after it.
The one before is what is written last, so the end of a reference may stand for a space or tab
(`BehindAlike`). The one after is what would be written first with nothing around it, so the start
of an escape may stand for what is escaped (`AheadAlike`).

* **Neighbours** (`isSpanMarkup_congr`): no rule about neighbours tells these from what stands
  there.
* **The start of a line** (`CutsMarkup.beginsBlock`, `BeginsBlock.cutsMarkup`): a marker is seen to
  begin a line unless the line starts in an earlier text and goes on there, or an escape stands for
  the space or tab that should follow the marker. `CutsMarkup` says this, and when a backslash at
  the end of a text is not doubled.
* **Fewer matches** (`BeginsBlock.of_told`, `Unstacked.of_whole`): what is told makes up no marker
  that is not there.
-/

namespace MarkdownWriter

open Text

/-! ## What is told of neighbours -/

/-- The first character that is written for `c` with `next` behind it and nothing before it. -/
def aheadSign (c : Char) (next : Option Char) : Char :=
  if isSpanMarkup none c next then if isPunctuation c then '\\' else '&' else c

/-- What is told of the last character of a text: itself, or the end of the reference that is
written for it. -/
def BehindAlike (told actual : Char) : Prop :=
  told = actual ∨ told = ';' ∧ isSpacing actual = true

/-- The characters, other than a backslash, that are escaped for the character behind them or
whatever is there. -/
def aheadSigns : List Char :=
  '<' :: '&' :: ' ' :: '\t' :: spanSigns

/-- What is told of the first character of a text: itself, or the start of the escape that is
written for it. -/
def AheadAlike (told actual : Char) : Prop :=
  told = actual ∨ (told = '\\' ∨ told = '&') ∧ actual ∈ aheadSigns

section signs

variable {c d told : Char} {previous next : Option Char}

/-- Spaces and tabs are no punctuation, so they are written as references. -/
theorem isPunctuation_of_isSpacing (h : isSpacing c = true) : isPunctuation c = false := by
  rcases isSpacing_iff.mp h with rfl | rfl <;> decide

/-- They are escaped at the edges of lines. -/
theorem isSpanMarkup_of_isSpacing (h : isSpacing c = true) :
    isSpanMarkup previous c next = (previous.any isLineBreak || next.any isLineBreak) := by
  rcases isSpacing_iff.mp h with rfl | rfl
  · simp [isSpanMarkup, neighbourRules, NeighbourRule.accepts, contains_lineBreaks, Bool.or_comm]
  · simp [isSpanMarkup, neighbourRules, NeighbourRule.accepts, contains_lineBreaks, Bool.or_comm]

/-- Only punctuation, spaces and tabs are escaped for their neighbours. -/
theorem isPunctuation_or_isSpacing (h : isSpanMarkup previous c next = true) :
    isPunctuation c = true ∨ isSpacing c = true := by
  have hall : ∀ neighbour ∈ neighbourRules,
      isPunctuation neighbour.character = true ∨ isSpacing neighbour.character = true := by decide
  obtain ⟨-, neighbour, hmem, haccepts⟩ := isSpanMarkup_iff.mp h
  obtain ⟨rfl, -⟩ := NeighbourRule.accepts_iff.mp haccepts
  exact hall neighbour hmem

/-- Nothing else but punctuation is escaped for its neighbours. -/
theorem isSpanMarkup_iff_of_not_isPunctuation (h : isPunctuation c = false) :
    isSpanMarkup previous c next = true ↔
      isSpacing c = true ∧ (previous.any isLineBreak = true ∨ next.any isLineBreak = true) := by
  constructor
  · intro hspan
    have hspacing := (isPunctuation_or_isSpacing hspan).resolve_left (Bool.eq_false_iff.mp h)
    rw [isSpanMarkup_of_isSpacing hspacing, Bool.or_eq_true] at hspan
    exact ⟨hspacing, hspan⟩
  · rintro ⟨hspacing, hbreak⟩
    rw [isSpanMarkup_of_isSpacing hspacing, Bool.or_eq_true]
    exact hbreak

/-- A set that holds none of some characters does not tell them apart. -/
theorem all_contains_congr {set : Option CharSet} {signs : List Char}
    (hset : set.all (excludes signs) = true) (hc : c ∈ signs) (hd : d ∈ signs) :
    set.all (·.contains c) = set.all (·.contains d) := by
  cases set with
  | none => rfl
  | some s =>
      rw [Option.all_some, Option.all_some, excludes_iff.mp hset c hc, excludes_iff.mp hset d hd]

section neighbours

variable {neighbour : NeighbourRule} {actual : Char}

/-- What is told of a character in front is as good to a rule as the character. -/
theorem BehindAlike.all_before (h : BehindAlike told actual) (hmem : neighbour ∈ neighbourRules) :
    neighbour.before.all (·.contains told) = neighbour.before.all (·.contains actual) := by
  have hall : ∀ neighbour ∈ neighbourRules,
      neighbour.before.all (excludes [';', ' ', '\t']) = true := by decide
  rcases h with rfl | ⟨rfl, hspacing⟩
  · rfl
  · refine all_contains_congr (hall neighbour hmem) (by decide) ?_
    rcases isSpacing_iff.mp hspacing with rfl | rfl <;> decide

/-- So is what is told of one behind, if the rule is not about an exclamation mark. -/
theorem AheadAlike.all_after (h : AheadAlike told actual) (hmem : neighbour ∈ neighbourRules)
    (hne : neighbour.character ≠ '!') :
    neighbour.after.all (·.contains told) = neighbour.after.all (·.contains actual) := by
  have hall : ∀ neighbour ∈ neighbourRules, neighbour.character ≠ '!' →
      neighbour.after.all (excludes ('\\' :: aheadSigns)) = true := by decide
  rcases h with rfl | ⟨htold, hactual⟩
  · rfl
  · refine all_contains_congr (hall neighbour hmem hne) ?_ (List.mem_cons_of_mem _ hactual)
    rcases htold with rfl | rfl <;> decide

end neighbours

/-- No rule tells the neighbours that are told of from those that stand there. -/
theorem isSpanMarkup_congr {before before' after after' : Char}
    (hbefore : BehindAlike before before') (hafter : AheadAlike after after') :
    isSpanMarkup (some before) c (some after) = isSpanMarkup (some before') c (some after') := by
  rw [Bool.eq_iff_iff, isSpanMarkup_iff, isSpanMarkup_iff]
  refine and_congr_right fun hne => exists_congr fun neighbour => and_congr_right fun hmem => ?_
  rw [NeighbourRule.accepts_iff, NeighbourRule.accepts_iff]
  refine and_congr_right fun hc => ?_
  simp only [Option.any_some]
  rw [hbefore.all_before hmem, hafter.all_after hmem (hc ▸ hne)]

/-- Told of what is ahead is the character, or the start of its escape. -/
theorem aheadAlike_aheadSign (c : Char) (next : Option Char) : AheadAlike (aheadSign c next) c := by
  have hall : ∀ neighbour ∈ neighbourRules, neighbour.character ≠ '!' → neighbour.before = none →
      neighbour.character = '\\' ∨ neighbour.character ∈ aheadSigns := by decide
  unfold aheadSign
  split
  · next hspan =>
      obtain ⟨hne, neighbour, hmem, haccepts⟩ := isSpanMarkup_iff.mp hspan
      obtain ⟨rfl, hbefore, -⟩ := NeighbourRule.accepts_iff.mp haccepts
      have hnone : neighbour.before = none := by
        cases hs : neighbour.before with
        | none => rfl
        | some s =>
            rw [hs] at hbefore
            contradiction
      rcases hall neighbour hmem hne hnone with hbackslash | hsign
      · rw [hbackslash]
        exact .inl rfl
      · refine .inr ⟨?_, hsign⟩
        split
        · exact .inl rfl
        · exact .inr rfl
  · exact .inl rfl

/-- It is punctuation if the character is, or if it is a space or tab that is escaped. -/
theorem isPunctuation_aheadSign_iff :
    isPunctuation (aheadSign c next) = true ↔
      isPunctuation c = true ∨ isSpacing c = true ∧ next.any isLineBreak = true := by
  unfold aheadSign
  cases hsign : isPunctuation c with
  | true =>
      refine iff_of_true ?_ (.inl rfl)
      split
      · rfl
      · exact hsign
  | false =>
      have hspan := @isSpanMarkup_iff_of_not_isPunctuation c none next hsign
      simp only [Option.any_none, Bool.false_eq_true, false_or] at hspan ⊢
      rw [← hspan]
      split
      · next hescaped => exact iff_of_true rfl hescaped
      · next hplain => exact iff_of_false (by rw [hsign]; exact Bool.false_ne_true) hplain

/-- An opening bracket is never told of: it is escaped, so a backslash is. -/
theorem aheadSign_ne_bracket (c : Char) (next : Option Char) : aheadSign c next ≠ '[' := by
  unfold aheadSign
  split
  · split
    · decide
    · decide
  · next hspan =>
      rintro rfl
      exact hspan rfl

/-- What a letter is written with first. -/
theorem head?_written_eq (letter : Letter) (next : Option Char) :
    (letter.written [] next).head? =
      some (if letter.escaped then if isPunctuation letter.char then
        '\\' else '&' else letter.char) := by
  obtain ⟨c, escaped⟩ := letter
  unfold Letter.written
  cases escaped with
  | false =>
      change (plainChar c next).head? = some c
      unfold plainChar
      split <;> rfl
  | true => cases isPunctuation c <;> rfl

/-- What a letter is written with last. -/
theorem getLast?_written_eq (letter : Letter) (next : Option Char) :
    (letter.written [] next).getLast? =
      some (if letter.escaped && !isPunctuation letter.char then ';' else letter.char) := by
  obtain ⟨c, escaped⟩ := letter
  have hplain : (plainChar c next).getLast? = some c := by
    unfold plainChar
    split <;> rfl
  unfold Letter.written
  cases escaped with
  | false => exact hplain
  | true =>
      cases hsign : isPunctuation c with
      | true => exact (List.getLast?_cons ..).trans (by rw [hplain]; rfl)
      | false => exact List.getLast?_concat

/-- What is written first for a text with nothing around it. -/
theorem head?_escapeLiteral_alone (rest : List Char) :
    (escapeLiteral Rule.defaults paragraphStack (c :: rest) {}).head? =
      some (aheadSign c rest.head?) := by
  obtain ⟨escaped, hletter, hescaped⟩ :=
    exists_letter Rule.defaults paragraphStack {} (rfl : (c :: rest)[0]? = some c)
  rw [escapedAt_head_iff, ← Bool.eq_iff_iff] at hescaped
  unfold escapeLiteral aheadSign
  rw [← hescaped]
  cases hall : lettersBetween Rule.defaults paragraphStack (c :: rest) {} with
  | nil => rw [hall] at hletter; contradiction
  | cons letter more =>
      rw [hall] at hletter
      obtain rfl := Option.some.inj hletter
      rw [head?_writeLetters_cons, head?_written_eq]

/-- What is written last for a text of a paragraph. -/
theorem exists_getLast?_behindAlike (front : List Char) (before after : List Char) :
    ∃ told, (escapeLiteral Rule.defaults paragraphStack (front ++ [c]) ⟨before, after,
      []⟩).getLast? = some told ∧ BehindAlike told c := by
  have hall : ∀ rule ∈ Rule.defaults, rule.applies paragraphStack = true →
      isPunctuation rule.character = true ∨ isSpacing rule.character = true := by decide
  obtain ⟨escaped, hletter, hescaped⟩ :=
    exists_letter Rule.defaults paragraphStack ⟨before, after, []⟩
      (getElem?_append_cons front : (front ++ [c])[_]? = _)
  obtain ⟨written, hwritten⟩ := exists_escapeLiteral_eq_append hletter
  refine ⟨_, by rw [hwritten, List.getLast?_append, getLast?_written_eq, Option.some_or], ?_⟩
  split
  · next hsemicolon =>
      rw [Bool.and_eq_true, Bool.not_eq_true'] at hsemicolon
      obtain ⟨rule, hmem, hflags, rfl⟩ :=
        exists_rule_of_flaggedAt (getElem?_enclose _ (getElem?_append_cons front))
          (hescaped.mp hsemicolon.1).1
      exact .inr ⟨rfl, (hall rule hmem hflags.1).resolve_left (Bool.eq_false_iff.mp hsemicolon.2)⟩
  · exact .inl rfl

end signs

/-- What is told to stand behind a text in front of others. -/
def toldAhead : List (List Char) → Char
  | (c :: text) :: _ => aheadSign c text.head?
  | _ => '\n'

/-! ## The start of a line -/

namespace LineRule

variable {line : LineRule} {before front pre : List Char} {b told actual : Char}

/-- A line that `pre` goes on with starts in `before`, not at its very end, and nothing visible but
a number that the rule asks for stands on it so far. -/
def BeginsIn (line : LineRule) (before pre : List Char) : Prop :=
  ∃ start b front, '\n' :: before = start ++ b :: front ∧ isLineBreak b = true ∧ front ≠ [] ∧
    line.Fronts (front ++ pre)

/-- Which of two characters that end no row stands first does not matter to what is behind a line
break. -/
theorem exists_append_of_cons
    (hsame : told = actual ∨ isLineBreak told = false ∧ isLineBreak actual = false)
    {text start rest : List Char} (hb : isLineBreak b = true)
    (htext : told :: text = start ++ b :: rest) :
    ∃ start', actual :: text = start' ++ b :: rest := by
  rcases hsame with rfl | ⟨htold, -⟩
  · exact ⟨start, htext⟩
  · cases start with
    | nil =>
        obtain rfl := (List.cons.inj htext).1
        rw [hb] at htold
        contradiction
    | cons c start => exact ⟨actual :: start, congrArg (List.cons actual) (List.cons.inj htext).2⟩

/-- Whether a line is opened does not depend on which of two characters that end no row stands
first. -/
theorem opens_cons_congr
    (hsame : told = actual ∨ isLineBreak told = false ∧ isLineBreak actual = false) :
    line.Opens (told :: pre) ↔ line.Opens (actual :: pre) := by
  constructor
  · rintro ⟨start, b, front, htext, hb, hfront⟩
    obtain ⟨start', htext'⟩ := exists_append_of_cons hsame hb htext
    exact ⟨start', b, front, htext', hb, hfront⟩
  · rintro ⟨start, b, front, htext, hb, hfront⟩
    obtain ⟨start', htext'⟩ := exists_append_of_cons (hsame.imp Eq.symm And.symm) hb htext
    exact ⟨start', b, front, htext', hb, hfront⟩

/-- A line starts in the second of two texts, or in the first one and goes on in the second. -/
theorem opens_append_iff {more : List Char} :
    line.Opens (front ++ more) ↔ line.Opens more ∨
      ∃ start b rest, front = start ++ b :: rest ∧ isLineBreak b = true ∧
      line.Fronts (rest ++ more) := by
  constructor
  · rintro ⟨start, b, rest, htext, hb, hrest⟩
    rcases List.append_eq_append_iff.mp htext with ⟨start', rfl, hmore⟩ | ⟨rest', hfront, hmore⟩
    · exact .inl ⟨start', b, rest, hmore, hb, hrest⟩
    · cases rest' with
      | nil => exact .inl ⟨[], b, rest, hmore.symm, hb, hrest⟩
      | cons d rest' =>
          obtain ⟨rfl, rfl⟩ := List.cons.inj hmore
          exact .inr ⟨start, b, rest', hfront, hb, hrest⟩
  · rintro (⟨start, b, rest, rfl, hb, hrest⟩ | ⟨start, b, rest, rfl, hb, hrest⟩)
    · exact ⟨front ++ start, b, rest, (List.append_assoc ..).symm, hb, hrest⟩
    · exact ⟨start, b, rest ++ more, by rw [List.append_assoc, List.cons_append], hb, hrest⟩

/-- The last character of what stands before a line has a row of its own, or the line starts before
it. -/
theorem opens_iff (hlast : ('\n' :: before).getLast? = some actual) :
    line.Opens ('\n' :: (before ++ pre)) ↔ line.Opens (actual :: pre) ∨
      line.BeginsIn before pre := by
  obtain ⟨front, hfront⟩ := List.getLast?_eq_some_iff.mp hlast
  rw [← List.cons_append, hfront, List.append_assoc, opens_append_iff]
  refine or_congr_right ⟨?_, ?_⟩
  · rintro ⟨start, b, rest, rfl, hb, hrest⟩
    refine ⟨start, b, rest ++ [actual], by rw [hfront, List.append_assoc, List.cons_append], hb, ?_,
      ?_⟩
    · exact List.append_ne_nil_of_right_ne_nil rest (List.cons_ne_nil actual [])
    · rwa [List.append_assoc]
  · rintro ⟨start, b, rest, htext, hb, hne, hrest⟩
    obtain ⟨rest, d, rfl⟩ := (List.eq_nil_or_concat rest).resolve_left hne
    rw [hfront, List.concat_eq_append, ← List.cons_append, ← List.append_assoc] at htext
    obtain ⟨rfl, hd⟩ := List.append_inj' htext rfl
    obtain rfl := (List.cons.inj hd).1
    rw [List.concat_eq_append, List.append_assoc] at hrest
    exact ⟨start, b, rest, rfl, hb, hrest⟩

/-- A line that starts earlier does not start behind the last character as well. -/
theorem BeginsIn.not_opens (hlast : ('\n' :: before).getLast? = some actual)
    (h : line.BeginsIn before pre) : ¬ line.Opens (actual :: pre) := by
  obtain ⟨start, b, front, htext, hb, hne, hfront⟩ := h
  rintro ⟨start', b', front', hopens, hb', -⟩
  have hmem : b' ∈ front ++ pre := by
    obtain ⟨rest, d, rfl⟩ := (List.eq_nil_or_concat front).resolve_left hne
    rw [htext, List.concat_eq_append, ← List.cons_append, ← List.append_assoc,
      List.getLast?_concat] at hlast
    obtain rfl := Option.some.inj hlast
    rw [List.concat_eq_append, List.append_assoc, List.singleton_append, hopens]
    exact List.mem_append_right rest (List.mem_append_right start' List.mem_cons_self)
  rw [hfront.isLineBreak_eq_false b' hmem] at hb'
  contradiction

/-- The start of an escape may follow a character where the escaped one may, except that it hides a
space or tab from the rule about a list marker. -/
theorem allows_aheadSign_iff (hline : line ∈ blockMarkers) {c : Char} {next : Option Char} :
    line.allows (some (aheadSign c next)) = true ↔
      line.allows (some c) = true ∧
        ¬ (line ∈ listMarkers ∧ isSpacing c = true ∧ next.any isLineBreak = true) := by
  have hnone : ∀ line ∈ blockMarkers, line ∈ listMarkers → line.follows ≠ none := by decide
  have hsome : ∀ line ∈ blockMarkers, ∀ s ∈ line.follows, s.contains '\\' = false ∧
      s.contains '&' = false ∧ ∀ neighbour ∈ neighbourRules, s.contains neighbour.character = true →
        isSpacing neighbour.character = true ∧ line ∈ listMarkers := by decide
  unfold aheadSign
  split
  · next hspan =>
      cases hfollows : line.follows with
      | none =>
          have hall : ∀ next, line.allows next = true := by simp [LineRule.allows, hfollows]
          exact iff_of_true (hall _) ⟨hall _, fun h => hnone line hline h.1 hfollows⟩
      | some s =>
          obtain ⟨hbackslash, hampersand, hspacing⟩ := hsome line hline s hfollows
          simp only [LineRule.allows, hfollows, Option.all_some, Option.any_some]
          refine iff_of_false ?_ ?_
          · split
            · exact Bool.eq_false_iff.mp hbackslash
            · exact Bool.eq_false_iff.mp hampersand
          · rintro ⟨hcontains, hnot⟩
            obtain ⟨-, neighbour, hmem, haccepts⟩ := isSpanMarkup_iff.mp hspan
            obtain ⟨rfl, -⟩ := NeighbourRule.accepts_iff.mp haccepts
            obtain ⟨hspace, hlist⟩ := hspacing neighbour hmem hcontains
            rw [isSpanMarkup_of_isSpacing hspace] at hspan
            exact hnot ⟨hlist, hspace, hspan⟩
  · next hspan =>
      refine (and_iff_left ?_).symm
      rintro ⟨-, hspace, hbreak⟩
      rw [isSpanMarkup_of_isSpacing hspace, Option.any_none, Bool.false_or] at hspan
      exact hspan hbreak

end LineRule

/-! ## Markup across texts -/

/-- A character of one of several texts that make up a paragraph is written otherwise than in one
text, because of where the texts are cut. The texts in front of its own are `before` together, those
behind it are `behind`, and its own text is `pre`, the character and `post`. -/
inductive CutsMarkup (before pre : List Char) : Char → List Char → List (List Char) → Prop
  /-- A marker begins a line that starts in an earlier text and goes on there. -/
  | line {line : LineRule} {post : List Char} {behind : List (List Char)}
    (hline : line ∈ blockMarkers) (hbegins : line.BeginsIn before pre)
    (hallows : line.allows (post ++ (behind.flatten ++ ['\n'])).head? = true) :
      CutsMarkup before pre line.character post behind
  /-- A list marker ends its text, and the next one begins with a space or tab in front of a line
  break. -/
  | space {line : LineRule} {s b : Char} {more : List Char} {rest : List (List Char)}
    (hline : line ∈ listMarkers) (hopens : line.Opens ('\n' :: (before ++ pre)))
    (hspace : isSpacing s = true) (hbreak : isLineBreak b = true) :
      CutsMarkup before pre line.character [] ((s :: b :: more) :: rest)
  /-- A backslash ends its text, and the next one is a single space or tab that ends a line. -/
  | backslash {s : Char} {rest : List (List Char)} (hspace : isSpacing s = true)
      (hbreak : (rest.flatten ++ ['\n']).head?.any isLineBreak = true) :
      CutsMarkup before pre '\\' [] ([s] :: rest)

/-- The character is punctuation. -/
theorem CutsMarkup.isPunctuation {before pre post : List Char} {c : Char}
    {behind : List (List Char)} (h : CutsMarkup before pre c post behind) :
    isPunctuation c = true := by
  have hall : ∀ line ∈ blockMarkers, Text.isPunctuation line.character = true := by decide
  cases h with
  | line hline _ _ => exact hall _ hline
  | space hline _ _ _ => exact hall _ (mem_blockMarkers_of_mem_listMarkers _ hline)
  | backslash _ _ => rfl

/-- What cuts do to a backslash. -/
theorem cutsMarkup_backslash_iff {before pre post : List Char} {behind : List (List Char)} :
    CutsMarkup before pre '\\' post behind ↔ ∃ s rest, post = [] ∧ behind = [s] :: rest ∧
      isSpacing s = true ∧ (rest.flatten ++ ['\n']).head?.any isLineBreak = true := by
  have hall : ∀ line ∈ blockMarkers, line.character ≠ '\\' := by decide
  constructor
  · intro h
    generalize hc : '\\' = c at h
    cases h with
    | line hline _ _ => exact absurd hc.symm (hall _ hline)
    | space hline _ _ _ =>
        exact absurd hc.symm (hall _ (mem_blockMarkers_of_mem_listMarkers _ hline))
    | @backslash s rest hspace hbreak => exact ⟨s, rest, rfl, rfl, hspace, hbreak⟩
  · rintro ⟨s, rest, rfl, rfl, hspace, hbreak⟩
    exact .backslash hspace hbreak

/-- What they do to a backslash at the end of a text. -/
theorem cutsMarkup_backslash_cons_iff {before pre text : List Char} {d : Char}
    {rest : List (List Char)} :
    CutsMarkup before pre '\\' [] ((d :: text) :: rest) ↔
      text = [] ∧ isSpacing d = true ∧ (rest.flatten ++ ['\n']).head?.any isLineBreak = true := by
  rw [cutsMarkup_backslash_iff]
  constructor
  · rintro ⟨s, rest', -, hbehind, hspace, hbreak⟩
    obtain ⟨htext, rfl⟩ := List.cons.inj hbehind
    obtain ⟨rfl, rfl⟩ := List.cons.inj htext
    exact ⟨rfl, hspace, hbreak⟩
  · rintro ⟨rfl, hspace, hbreak⟩
    exact ⟨d, rest, rfl, rfl, hspace, hbreak⟩

section pieces

variable {before pre post : List Char} {behind : List (List Char)} {c told actual : Char}

/-- What is told to stand behind a text, and what does. -/
theorem cases_of_ahead (hbehind : ∀ text ∈ behind, text ≠ []) :
    (behind = [] ∧ toldAhead behind = '\n') ∨
      ∃ d text rest, behind = (d :: text) :: rest ∧ toldAhead behind = aheadSign d text.head? := by
  cases behind with
  | nil => exact .inl ⟨rfl, rfl⟩
  | cons text rest =>
      obtain ⟨d, text, rfl⟩ := List.exists_cons_of_ne_nil (hbehind text List.mem_cons_self)
      exact .inr ⟨d, text, rest, rfl, rfl⟩

/-- What may be told to follow a marker may follow it. -/
theorem allows_of_toldAhead {line : LineRule} (hline : line ∈ blockMarkers)
    (hbehind : ∀ text ∈ behind, text ≠ [])
    (h : line.allows (post ++ [toldAhead behind]).head? = true) :
    line.allows (post ++ (behind.flatten ++ ['\n'])).head? = true := by
  cases post with
  | cons d post => exact h
  | nil =>
      rcases cases_of_ahead hbehind with ⟨rfl, -⟩ | ⟨d, text, rest, rfl, -⟩
      · exact h
      · exact ((LineRule.allows_aheadSign_iff hline).mp h).1

/-- Where the cuts matter a marker begins a line, but not in what is told. -/
theorem CutsMarkup.beginsBlock (h : CutsMarkup before pre c post behind)
    (hlast : ('\n' :: before).getLast? = some actual)
    (hsame : told = actual ∨ isLineBreak told = false ∧ isLineBreak actual = false)
    (hc : c ≠ '\\') :
    BeginsBlock ('\n' :: (before ++ pre)) c (post ++ (behind.flatten ++ ['\n'])) ∧
      ¬ BeginsBlock (told :: pre) c (post ++ [toldAhead behind]) := by
  have hunique : ∀ line ∈ blockMarkers, ∀ other ∈ blockMarkers, line.character = other.character →
      line = other := by
    decide
  have hspaces : ∀ line ∈ listMarkers, line.allows (some ' ') = true ∧
      line.allows (some '\t') = true := by decide
  rcases h with ⟨hline, hbegins, hallows⟩ | ⟨hline, hopens, hspace, hbreak⟩ | _
  · refine ⟨⟨_, hline, rfl, (LineRule.opens_iff hlast).mpr (.inr hbegins), hallows⟩, ?_⟩
    rintro ⟨other, hother, hcharacter, hopens, -⟩
    obtain rfl := hunique _ hline other hother hcharacter
    exact hbegins.not_opens hlast ((LineRule.opens_cons_congr hsame).mp hopens)
  · have hblock := mem_blockMarkers_of_mem_listMarkers _ hline
    refine ⟨⟨_, hblock, rfl, hopens, ?_⟩, ?_⟩
    · rcases isSpacing_iff.mp hspace with rfl | rfl
      · exact (hspaces _ hline).1
      · exact (hspaces _ hline).2
    · rintro ⟨other, hother, hcharacter, -, hallows⟩
      obtain rfl := hunique _ hblock other hother hcharacter
      exact ((LineRule.allows_aheadSign_iff hblock).mp hallows).2 ⟨hline, hspace, hbreak⟩
  · exact absurd rfl hc

/-- A marker that begins a line and is not told to do so is cut from what is before it or from what
is behind it. -/
theorem BeginsBlock.cutsMarkup
    (h : BeginsBlock ('\n' :: (before ++ pre)) c (post ++ (behind.flatten ++ ['\n'])))
    (hnot : ¬ BeginsBlock (told :: pre) c (post ++ [toldAhead behind]))
    (hlast : ('\n' :: before).getLast? = some actual)
    (hsame : told = actual ∨ isLineBreak told = false ∧ isLineBreak actual = false)
    (hbehind : ∀ text ∈ behind, text ≠ []) : CutsMarkup before pre c post behind := by
  obtain ⟨line, hline, rfl, hopens, hallows⟩ := h
  rcases (LineRule.opens_iff hlast).mp hopens with hpiece | hbegins
  · have htold : ¬ line.allows (post ++ [toldAhead behind]).head? = true := by
      intro h
      exact hnot ⟨line, hline, rfl, (LineRule.opens_cons_congr hsame).mpr hpiece, h⟩
    cases post with
    | cons d post => exact absurd hallows htold
    | nil =>
        rcases cases_of_ahead hbehind with ⟨rfl, -⟩ | ⟨d, text, rest, rfl, -⟩
        · exact absurd hallows htold
        · have hhidden := mt (LineRule.allows_aheadSign_iff hline).mpr htold
          rw [not_and, Classical.not_not] at hhidden
          obtain ⟨hlist, hspace, hbreak⟩ := hhidden hallows
          obtain ⟨b, hb, hbreak⟩ := (Option.any_eq_true ..).mp hbreak
          obtain ⟨more, rfl⟩ := List.head?_eq_some_iff.mp hb
          exact .space hlist hopens hspace hbreak
  · exact .line hline hbegins hallows

/-- A marker that is escaped in several texts is escaped in one. -/
theorem BeginsBlock.of_told (hlast : ('\n' :: before).getLast? = some actual)
    (hsame : told = actual ∨ isLineBreak told = false ∧ isLineBreak actual = false)
    (hbehind : ∀ text ∈ behind, text ≠ [])
    (h : BeginsBlock (told :: pre) c (post ++ [toldAhead behind])) :
    BeginsBlock ('\n' :: (before ++ pre)) c (post ++ (behind.flatten ++ ['\n'])) := by
  obtain ⟨line, hline, rfl, hopens, hallows⟩ := h
  exact ⟨line, hline, rfl,
    (LineRule.opens_iff hlast).mpr (.inl ((LineRule.opens_cons_congr hsame).mp hopens)),
    allows_of_toldAhead hline hbehind hallows⟩

/-- In a text without stacked markers there are none in what its parts are told of. -/
theorem Unstacked.of_whole {piece : List Char} (hlast : ('\n' :: before).getLast? = some actual)
    (hsame : told = actual ∨ isLineBreak told = false ∧ isLineBreak actual = false)
    (hbehind : ∀ text ∈ behind, text ≠ [])
    (h : Unstacked (ownLines.enclose (before ++ piece ++ behind.flatten))) :
    Unstacked (told :: (piece ++ [toldAhead behind])) := by
  have hnone : ∀ line ∈ listMarkers, line.allows none = false := by decide
  intro line hline above b' row b front back hcut hb'
  have hallows := hcut.allows
  rcases List.eq_nil_or_concat back with rfl | ⟨back, q, rfl⟩
  · rw [List.head?_nil, hnone line hline] at hallows
    contradiction
  · have htext : told :: piece ++ [toldAhead behind] =
        (above ++ b' :: (row ++ b :: (front ++ line.character :: back))) ++ [q] := by
      simpa using hcut.text_eq
    obtain ⟨hpiece, hq⟩ := List.append_inj' htext rfl
    obtain rfl := (List.cons.inj hq).1
    rw [List.concat_eq_append] at hallows
    obtain ⟨start, hstart⟩ := LineRule.exists_append_of_cons hsame hb' hpiece
    obtain ⟨first, hfirst⟩ := List.getLast?_eq_some_iff.mp hlast
    refine h line hline (first ++ start) b' row b front (back ++ (behind.flatten ++ ['\n']))
      ⟨?_, hcut.lineBreak, hcut.fronts,
        allows_of_toldAhead (mem_blockMarkers_of_mem_listMarkers line hline) hbehind hallows⟩ hb'
    calc ownLines.enclose (before ++ piece ++ behind.flatten)
        = '\n' :: before ++ piece ++ (behind.flatten ++ ['\n']) := by
          simp [ownLines, Surroundings.enclose]
      _ = first ++ (actual :: piece) ++ (behind.flatten ++ ['\n']) := by rw [hfirst]; simp
      _ = _ := by rw [hstart]; simp

/-! ## The same characters are escaped -/

/-- What is told of the character in front of a place is alike to the one that stands there. -/
theorem exists_behindAlike (hlast : ('\n' :: before).getLast? = some actual)
    (htold : BehindAlike told actual) :
    ∃ x x', (told :: pre).getLast? = some x ∧ ('\n' :: (before ++ pre)).getLast? = some x' ∧
      BehindAlike x x' := by
  rcases List.eq_nil_or_concat pre with rfl | ⟨pre, d, rfl⟩
  · exact ⟨told, actual, rfl, by rw [List.append_nil, hlast], htold⟩
  · rw [List.concat_eq_append, ← List.cons_append, ← List.append_assoc, ← List.cons_append]
    exact ⟨d, d, List.getLast?_concat, List.getLast?_concat, .inl rfl⟩

/-- So is what is told of the character behind it. -/
theorem exists_aheadAlike (post : List Char) (hbehind : ∀ text ∈ behind, text ≠ []) :
    ∃ y y', (post ++ [toldAhead behind]).head? = some y ∧
      (post ++ (behind.flatten ++ ['\n'])).head? = some y' ∧
      AheadAlike y y' := by
  cases post with
  | cons d post => exact ⟨d, d, rfl, rfl, .inl rfl⟩
  | nil =>
      rcases cases_of_ahead hbehind with ⟨rfl, -⟩ | ⟨d, text, rest, rfl, -⟩
      · exact ⟨'\n', '\n', rfl, rfl, .inl rfl⟩
      · exact ⟨aheadSign d text.head?, d, rfl, rfl, aheadAlike_aheadSign d text.head?⟩

end pieces

end MarkdownWriter
