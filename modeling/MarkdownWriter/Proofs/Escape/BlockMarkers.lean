import MarkdownWriter.Proofs.Escape.NeighbourRules
import MarkdownWriter.Proofs.Escape.ParagraphText

/-!
# Which characters of a paragraph's text are escaped

A character is escaped in the text of a paragraph for its neighbours (`isSpanMarkup`) or because it
starts a line (`BeginsBlock`), and for nothing else (`escapedAt_iff`).

* **For its neighbours**: that takes the characters beside it only, and is what
  `NeighbourRule.mem_positions_iff` says with all rules about neighbours put together.
* **At the start of a line**: what the rules flag is the first character of its line
  (`LineRule.opens_of_flagsAt`), behind a number if one is asked for (`LineRule.Opens`). The
  converse can be said without searching for matches only of texts in which no list marker stands
  below a row that holds nothing but the same marker (`Unstacked`): of such a text every match is
  reported (`LineRule.Cut.reportedAt_of_unstacked`).

Where the rest of the rules about the start of a line flag something it is markup for its neighbours
anyway (`isSpanMarkup_of_flagsAt`), so that only `blockMarkers` are left to be looked at.
-/

namespace MarkdownWriter

open Text

/-! ## Markup by the neighbours -/

/-- Whether a character is escaped for its neighbours. An exclamation mark is not: the bracket
behind it is. -/
def isSpanMarkup (previous : Option Char) (c : Char) (next : Option Char) : Bool :=
  c != '!' && neighbourRules.any (·.accepts previous c next)

theorem isSpanMarkup_iff {previous next : Option Char} {c : Char} :
    isSpanMarkup previous c next = true ↔
      c ≠ '!' ∧ ∃ neighbour ∈ neighbourRules, neighbour.accepts previous c next = true := by
  rw [isSpanMarkup, Bool.and_eq_true, bne_iff_ne, List.any_eq_true]

/-- The rules about the start of a line whose character is not unsafe in inline content anyway. -/
def blockMarkers : List LineRule := [
  ⟨'#', false, none, false⟩,
  ⟨')', true, none, false⟩,
  .plus,
  .dash,
  .number,
  ⟨'=', false, none, false⟩,
  ⟨'>', false, none, false⟩,
  ⟨'~', false, none, false⟩]

theorem mem_lineRules_of_mem_blockMarkers : ∀ line ∈ blockMarkers, line ∈ lineRules := by
  decide

theorem mem_blockMarkers_of_mem_listMarkers : ∀ line ∈ listMarkers, line ∈ blockMarkers := by
  decide

section flags

variable {line : LineRule} {pre post : List Char} {c : Char}

/-- What any other rule about the start of a line flags is unsafe in inline content anyway. -/
theorem isSpanMarkup_of_flagsAt (hline : line ∈ lineRules) (hnot : line ∉ blockMarkers)
    (hflags : line.rule.FlagsAt paragraphStack (pre ++ c :: post) pre.length) :
    isSpanMarkup pre.getLast? c post.head? = true := by
  have hneighbour : ∀ line ∈ lineRules, line ∉ blockMarkers → line.character ≠ '!' ∧
      line.orFinish = false ∧ ∃ neighbour ∈ neighbourRules, neighbour.character = line.character ∧
      neighbour.before = none ∧ (neighbour.after = none ∨ neighbour.after = line.follows) := by
    decide
  obtain ⟨hne, hfinish, neighbour, hmem, hcharacter, hbefore, hafter⟩ := hneighbour line hline hnot
  obtain ⟨pre', lead, trail, post', hreported, hlength⟩ :=
    (Rule.mem_positions_make LineRule.after_isUnmarked).mp hflags.2
  obtain ⟨b, front, -, hcut⟩ := LineRule.exists_cut_of_hit (by simp [hfinish]) hreported.toHit
  have hcharacter' := hreported.getElem?_character
  have hsucc := hreported.getElem?_succ
  rw [← hlength, getElem?_append_cons] at hcharacter'
  rw [← hlength, getElem?_append_cons_succ] at hsucc
  obtain rfl := Option.some.inj hcharacter'
  refine isSpanMarkup_iff.mpr ⟨hne, neighbour, hmem,
    NeighbourRule.accepts_iff.mpr ⟨hcharacter.symm, ?_, ?_⟩⟩
  · rw [hbefore]
    rfl
  · rw [hsucc]
    rcases hafter with hafter | hafter
    · rw [hafter]
      rfl
    · rw [hafter]
      exact hcut.allows

end flags

section escaped

variable {input : List Char} {around : Surroundings} {i : Nat} {c : Char} {pre post : List Char}

/-- A character is escaped for its neighbours, or for a rule about the start of a line. -/
theorem escapedAt_iff_flagsAt (hi : i < input.length)
    (htext : around.enclose input = pre ++ c :: post) (hpre : pre.length = around.before.length + i)
    (hbracket : around.after.head? ≠ some '[') :
    EscapedAt Rule.defaults paragraphStack input around i ↔
      isSpanMarkup pre.getLast? c post.head? = true ∨
        ∃ line ∈ blockMarkers, line.rule.FlagsAt paragraphStack (pre ++ c :: post) pre.length := by
  have hlines : ∀ line ∈ lineRules, line.character ≠ '!' := by decide
  have hc : input[i]? = some c := by
    have hplace := getElem?_enclose around (List.getElem?_eq_getElem hi)
    rw [htext, ← hpre, getElem?_append_cons] at hplace
    rw [List.getElem?_eq_getElem hi, hplace]
  by_cases hne : c = '!'
  · subst hne
    refine iff_of_false (not_escapedAt_exclamation hc hbracket) ?_
    rintro (hspan | ⟨line, hline, hflags⟩)
    · exact (isSpanMarkup_iff.mp hspan).1 rfl
    · obtain ⟨hmem, -⟩ :=
        exists_lineRule_iff.mpr ⟨line, mem_lineRules_of_mem_blockMarkers line hline, rfl⟩
      have hcharacter :=
        (Rule.getElem?_of_mem_defaults hmem hflags.2).symm.trans (getElem?_append_cons pre)
      exact hlines line (mem_lineRules_of_mem_blockMarkers line hline) (Option.some.inj hcharacter)
  · rw [escapedAt_iff_flaggedAt hc hne, htext, ← hpre, flaggedAt_iff]
    constructor
    · rintro (⟨neighbour, hmem, haccepts⟩ | ⟨line, hline, hflags⟩)
      · left
        exact isSpanMarkup_iff.mpr ⟨hne, neighbour, hmem, haccepts⟩
      · by_cases hblock : line ∈ blockMarkers
        · exact .inr ⟨line, hblock, hflags⟩
        · exact .inl (isSpanMarkup_of_flagsAt hline hblock hflags)
    · rintro (hspan | ⟨line, hline, hflags⟩)
      · exact .inl (isSpanMarkup_iff.mp hspan).2
      · exact .inr ⟨line, mem_lineRules_of_mem_blockMarkers line hline, hflags⟩

end escaped

/-! ## The start of a line -/

namespace LineRule

variable {line : LineRule}

/-- Whether what stands before a character leaves it the first one of its line, behind a number if
one is asked for. -/
def Opens (line : LineRule) (pre : List Char) : Prop :=
  ∃ start b front, pre = start ++ b :: front ∧ isLineBreak b = true ∧ line.Fronts front

/-- Whether a row begins with a marker, behind spaces and tabs. -/
def isMarked (line : LineRule) (row : List Char) : Bool :=
  (line.rest? (row.dropWhile isSpacing)).any fun rest => line.allows (rest.head?.or (some '\n'))

end LineRule

/-- Whether some row holds nothing but a list marker and the row below it begins with the same
marker, both behind spaces and tabs. -/
def hasStackedMarkers (text : List Char) : Bool :=
  listMarkers.any fun line =>
    ((rows text).zip (rows text).tail).any fun (above, row) =>
      line.isBare above && line.isMarked row

/-- The same of a text that begins with a line break, and of no row. -/
def Unstacked (text : List Char) : Prop :=
  ∀ line ∈ listMarkers, ∀ above b' row b front back,
    line.Cut text (above ++ b' :: row) b front back → isLineBreak b' = true →
      line.isBare row = false

/-- The character is the marker that a line begins with. -/
def BeginsBlock (pre : List Char) (c : Char) (post : List Char) : Prop :=
  ∃ line ∈ blockMarkers, c = line.character ∧ line.Opens pre ∧ line.allows post.head? = true

/-- What makes a line start is no markup for its neighbours; it is punctuation, but no backslash. -/
theorem BeginsBlock.character {pre post : List Char} {c : Char} (h : BeginsBlock pre c post) :
    (∀ previous next, isSpanMarkup previous c next = false) ∧ isPunctuation c = true ∧
      c ≠ '\\' := by
  have hall : ∀ line ∈ blockMarkers,
      (∀ neighbour ∈ neighbourRules, line.character ≠ neighbour.character) ∧
      isPunctuation line.character = true ∧ line.character ≠ '\\' := by decide
  obtain ⟨line, hline, rfl, -⟩ := h
  obtain ⟨hne, hsign⟩ := hall line hline
  refine ⟨fun previous next => ?_, hsign⟩
  rw [← Bool.not_eq_true]
  intro hspan
  obtain ⟨-, neighbour, hmem, haccepts⟩ := isSpanMarkup_iff.mp hspan
  exact hne neighbour hmem (NeighbourRule.accepts_iff.mp haccepts).1

theorem mem_zip_tail {α : Type} {front back : List α} {x y : α} :
    (x, y) ∈ (front ++ x :: y :: back).zip (front ++ x :: y :: back).tail := by
  induction front with
  | nil => exact List.mem_cons_self
  | cons z front ih =>
      cases front with
      | nil => exact List.mem_cons_of_mem _ List.mem_cons_self
      | cons w front => exact List.mem_cons_of_mem _ ih

namespace LineRule

variable {line : LineRule}

/-- A row with a marker that a line break or another character that may follow is behind. -/
theorem isMarked_of_fronts (hline : line ∈ listMarkers) {front rest post : List Char} {b : Char}
    (hfront : line.Fronts front) (hallows : line.allows (rest ++ b :: post).head? = true) :
    line.isMarked (front ++ line.character :: rest) = true := by
  rw [isMarked, rest?_dropWhile (mem_lineRules_of_mem_listMarkers line hline) hfront,
    Option.any_some]
  cases rest with
  | nil => exact allows_lineBreak (mem_overlapping_of_mem_listMarkers hline) rfl
  | cons c rest => exact hallows

end LineRule

/-- A text without stacked markers has none on its own lines. -/
theorem unstacked_ownLines {value : List Char} (h : hasStackedMarkers value = false) :
    Unstacked (ownLines.enclose value) := by
  intro line hline above b' row b front back hcut hb'
  rw [← Bool.not_eq_true]
  intro hbare
  have hrule := LineRule.mem_lineRules_of_mem_listMarkers line hline
  have hrow :=
    LineRule.isLineBreak_of_isBare (LineRule.mem_overlapping_of_mem_listMarkers hline) hbare
  obtain ⟨rest, b'', post, rfl, hb'', hbelow⟩ := hcut.exists_row hrule getLast?_ownLines
  have htext : '\n' :: (value ++ ['\n']) =
      (above ++ b' :: row) ++ b :: ((front ++ line.character :: rest) ++ b'' :: post) := by
    rw [List.append_assoc front, List.cons_append]
    exact hcut.text_eq
  obtain ⟨below, hrows⟩ := exists_rows_eq_of_cut hcut.lineBreak hb'' hbelow htext
  rw [rows_append_cons hb', rows_eq_singleton hrow, List.tail_append_of_ne_nil (rows_ne_nil above),
    List.append_assoc, List.singleton_append] at hrows
  have hstacked : hasStackedMarkers value = true := by
    unfold hasStackedMarkers
    refine List.any_eq_true.mpr ⟨line, hline,
      List.any_eq_true.mpr ⟨(row, front ++ line.character :: rest), ?_, ?_⟩⟩
    · rw [hrows]
      exact mem_zip_tail
    · exact Bool.and_eq_true_iff.mpr ⟨hbare,
        LineRule.isMarked_of_fronts hline hcut.fronts hcut.allows⟩
  rw [h] at hstacked
  contradiction

namespace LineRule

variable {line : LineRule} {pre post : List Char} {c : Char}

/-- Of such a text every match is reported. -/
theorem Cut.reportedAt_of_unstacked {text front back : List Char} {b : Char}
    (hline : line ∈ blockMarkers) (hunstacked : Unstacked text)
    (h : line.Cut text pre b front back) : line.ReportedAt text pre := by
  have hmarkers : ∀ line ∈ blockMarkers, line ∈ overlapping → line ∈ listMarkers := by decide
  by_cases hoverlap : line ∈ overlapping
  · rw [h.reportedAt_iff hoverlap]
    rintro above b' row rfl hb' hbare
    rw [hunstacked line (hmarkers line hline hoverlap) _ _ _ _ _ _ h hb'] at hbare
    contradiction
  · exact h.reportedAt_of_not_mem (mem_lineRules_of_mem_blockMarkers line hline) hoverlap

/-- What a rule about the start of a line flags is the first character of its line. -/
theorem opens_of_flagsAt (hflags : line.rule.FlagsAt paragraphStack (pre ++ c :: post) pre.length) :
    line.Opens pre := by
  obtain ⟨pre', lead, trail, post', hreported, hlength⟩ :=
    (Rule.mem_positions_make after_isUnmarked).mp hflags.2
  have htext := hreported.text_eq
  rw [← List.append_assoc] at htext
  obtain ⟨rfl, -⟩ := List.append_inj htext (by rw [hlength, List.length_append])
  obtain ⟨b, front, rfl, hb, hfront⟩ := fits_context.mp hreported.lead_fits
  exact ⟨pre', b, front, rfl, hb, hfront⟩

/-- What it flags in such a text. -/
theorem flagsAt_iff (hline : line ∈ blockMarkers) (hunstacked : Unstacked (pre ++ c :: post))
    (hpost : post ≠ []) :
    line.rule.FlagsAt paragraphStack (pre ++ c :: post) pre.length ↔
      c = line.character ∧ line.Opens pre ∧ line.allows post.head? = true := by
  have hrule := mem_lineRules_of_mem_blockMarkers line hline
  constructor
  · intro hflags
    obtain ⟨pre', lead, trail, post', hreported, hlength⟩ :=
      (Rule.mem_positions_make after_isUnmarked).mp hflags.2
    have htext := hreported.text_eq
    rw [← List.append_assoc] at htext
    obtain ⟨rfl, hrest⟩ := List.append_inj htext (by rw [hlength, List.length_append])
    obtain ⟨rfl, rfl⟩ := List.cons.inj hrest
    obtain ⟨b, front, -, hcut⟩ := exists_cut_of_hit (fun _ => hpost) hreported.toHit
    exact ⟨rfl, opens_of_flagsAt hflags, hcut.allows⟩
  · rintro ⟨rfl, ⟨start, b, front, rfl, hb, hfront⟩, hallows⟩
    have hcut : line.Cut ((start ++ b :: front) ++ line.character :: post) start b front post :=
      ⟨by simp, hb, hfront, hallows⟩
    obtain ⟨-, hflags⟩ :=
      (hcut.reportedAt_of_unstacked hline hunstacked).flaggedAt hrule hcut paragraphStack
    rwa [List.length_append, List.length_cons]

end LineRule

section escaped

variable {input : List Char} {around : Surroundings} {i : Nat} {c : Char} {pre post : List Char}

/-- **When a character is escaped.** -/
theorem escapedAt_iff (hi : i < input.length) (htext : around.enclose input = pre ++ c :: post)
    (hpre : pre.length = around.before.length + i) (hbracket : around.after.head? ≠ some '[')
    (hpost : post ≠ []) (hunstacked : Unstacked (around.enclose input)) :
    EscapedAt Rule.defaults paragraphStack input around i ↔
      isSpanMarkup pre.getLast? c post.head? = true ∨ BeginsBlock pre c post := by
  rw [escapedAt_iff_flagsAt hi htext hpre hbracket]
  rw [htext] at hunstacked
  refine or_congr_right ⟨?_, ?_⟩
  · rintro ⟨line, hline, hflags⟩
    exact ⟨line, hline, (LineRule.flagsAt_iff hline hunstacked hpost).mp hflags⟩
  · rintro ⟨line, hline, hbegins⟩
    exact ⟨line, hline, (LineRule.flagsAt_iff hline hunstacked hpost).mpr hbegins⟩

/-- The first character of a text with nothing around it is escaped for the one behind it alone. -/
theorem escapedAt_head_iff {rest : List Char} :
    EscapedAt Rule.defaults paragraphStack (c :: rest) {} 0 ↔
      isSpanMarkup none c rest.head? = true := by
  have htext : ({} : Surroundings).enclose (c :: rest) = [] ++ c :: rest := by
    simp [Surroundings.enclose]
  rw [escapedAt_iff_flagsAt (by simp) htext rfl (by simp)]
  refine or_iff_left ?_
  rintro ⟨line, -, hflags⟩
  obtain ⟨start, b, front, hnil, -⟩ := LineRule.opens_of_flagsAt hflags
  exact absurd hnil.symm (List.append_ne_nil_of_right_ne_nil start (List.cons_ne_nil b front))

end escaped

end MarkdownWriter
