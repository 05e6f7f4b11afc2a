import MarkdownWriter.Options
import MarkdownWriter.Proofs.Escape.ParagraphText

/-!
# Paragraphs of one text

A document of one paragraph that holds one text is the text of the paragraph, with a line ending
behind it (`toMarkdown_paragraph_text`). Its lines are meant to start no other block.

* **What is missed** (`matchesAt_toMarkdown_paragraph_iff`): a line starts with markup that is not
  escaped exactly if the search for its list marker misses the line, as it does for every second one
  of several lines that hold nothing but the marker.
* **The end of the document** (`terminated`): the line ending behind the text is added only where
  there is none yet. It makes no cuts of rules and takes none away
  (`exists_cut_terminated_iff`), so what is known of the text on lines of its own holds of
  the document.
-/

namespace MarkdownWriter

open Text

/-! ## Rendering -/

/-- The writer for options that choose nothing. -/
def Writer.standard : Writer where
  handlers := Handler.defaults
  references := htmlReferences
  rules := Rule.defaults
  joins := [Join.defaultRule]

theorem writer_default : Options.writer (.node {} []) = .ok (Writer.standard, {}) := by
  unfold Options.writer
  rfl

/-- A text is written as a literal text between its neighbours. -/
theorem render_text (value : String) (parent : Option Node) (site : Site) :
    Writer.standard.render (.leaf (.text value)) parent site = fun state =>
      (.ok (escapeLiteral Rule.defaults state.constructs value.toList ⟨site.before, site.after,
        []⟩), state) := by
  rw [Writer.render]
  rfl

/-- A paragraph of one text is written as the text between what stands around the paragraph. -/
theorem render_paragraph_text (value : String) (parent : Option Node) (site : Site)
    (state : State) :
    Writer.standard.render (.branch .paragraph [.leaf (.text value)]) parent site state =
      (.ok (escapeLiteral Rule.defaults (.phrasing :: .paragraph :: state.constructs) value.toList
        ⟨site.before, site.after, []⟩), state) := by
  rw [Writer.render]
  simp only [Writer.inlinesFrom, render_text]
  change (Except.ok [escapeLiteral Rule.defaults (.phrasing :: .paragraph :: state.constructs)
      value.toList
    ⟨site.before, site.after, []⟩].flatten, state) = _
  rw [List.flatten_singleton]

/-- A document of one paragraph is the text of the paragraph, with a line ending behind it. -/
theorem toMarkdown_paragraph_text (value : String) :
    toMarkdown (.node {} []) (.branch .paragraph [.leaf (.text value)]) =
      .ok (String.ofList (terminated (paragraphText value.toList))) := by
  unfold toMarkdown writeTree
  rw [writer_default]
  dsimp only [bind, Except.bind]
  rw [render_paragraph_text]
  rfl

/-! ## Starts of lines -/

/-- A line ending behind a text is one line break more on its own lines, or none. -/
theorem enclose_terminated (text : List Char) :
    ownLines.enclose (terminated text) = ownLines.enclose text ∨
      ownLines.enclose (terminated text) = ownLines.enclose text ++ ['\n'] := by
  unfold terminated
  split
  · exact .inl rfl
  · exact .inr rfl

/-- A line ending behind a text makes no cuts and takes none away. -/
theorem exists_cut_terminated_iff {line : LineRule} (hline : line ∈ lineRules) {text : List Char}
    {n : Nat} :
    (∃ pre b front back, line.Cut (ownLines.enclose (terminated text)) pre b front back ∧
        pre.countP isLineBreak = n) ↔
      ∃ pre b front back, line.Cut (ownLines.enclose text) pre b front back ∧
        pre.countP isLineBreak = n := by
  have hne := LineRule.lineBreak_ne_character hline
  have hlast : (ownLines.enclose text).getLast? ≠ some line.character := by rwa [getLast?_ownLines]
  have hcuts : ∀ {pre b front back}, line.Cut (ownLines.enclose text ++ ['\n']) pre b front back ↔
      ∃ more, back = more ++ ['\n'] ∧ line.Cut (ownLines.enclose text) pre b front more :=
    LineRule.cut_concat_iff hlast fun heq => hne (congrArg some heq)
  rcases enclose_terminated text with htext | htext
  · rw [htext]
  · rw [htext]
    constructor
    · rintro ⟨pre, b, front, back, hcut, hrow⟩
      obtain ⟨more, -, hcut⟩ := hcuts.mp hcut
      exact ⟨pre, b, front, more, hcut, hrow⟩
    · rintro ⟨pre, b, front, back, hcut, hrow⟩
      exact ⟨pre, b, front, back ++ ['\n'], hcuts.mpr ⟨back, rfl, hcut⟩, hrow⟩

/-- A rule about the start of a line matches on a row of a paragraph exactly if it is about list
markers and the marker of the same row of the text is missed. -/
theorem exists_matchesAt_terminated_iff {line : LineRule} (hline : line ∈ lineRules)
    {value : List Char} {n : Nat} :
    (∃ i < (terminated (paragraphText value)).length,
        line.rule.MatchesAt (ownLines.enclose (terminated (paragraphText value))) (i + 1) ∧
          rowAt (terminated (paragraphText value)) i = n) ↔
      line ∈ listMarkers ∧ line.misses value n = true :=
  (LineRule.exists_matchesAt_ownLines_iff hline).trans
    ((exists_cut_terminated_iff hline).trans (LineRule.exists_cut_paragraphText_iff hline))

/-- **Which rows of a document of one paragraph start a block.** Of the rules about the start of a
line only those about list markers match in what is written, and they match on the rows whose marker
is missed. -/
theorem matchesAt_toMarkdown_paragraph_iff (value : String) :
    ∃ out, toMarkdown (.node {} []) (.branch .paragraph [.leaf (.text value)]) = .ok out ∧
      ∀ rule n,
        (rule ∈ Rule.defaults ∧ rule.atBreak = true ∧ ∃ i < out.toList.length,
            rule.MatchesAt ('\n' :: (out.toList ++ ['\n'])) (i + 1) ∧ rowAt out.toList i = n) ↔
          ∃ marker ∈ listMarkers, rule = marker.rule ∧ marker.misses value.toList n = true := by
  refine ⟨_, toMarkdown_paragraph_text value, fun rule n => ?_⟩
  rw [String.toList_ofList]
  constructor
  · rintro ⟨hmem, hbreak, hmatches⟩
    obtain ⟨line, hline, rfl⟩ := exists_lineRule_iff.mp ⟨hmem, hbreak⟩
    obtain ⟨hmarker, hmisses⟩ := (exists_matchesAt_terminated_iff hline).mp hmatches
    exact ⟨line, hmarker, rfl, hmisses⟩
  · rintro ⟨line, hmarker, rfl, hmisses⟩
    have hline := LineRule.mem_lineRules_of_mem_listMarkers line hmarker
    obtain ⟨hmem, hbreak⟩ := exists_lineRule_iff.mpr ⟨line, hline, rfl⟩
    exact ⟨hmem, hbreak, (exists_matchesAt_terminated_iff hline).mpr ⟨hmarker, hmisses⟩⟩

/-- The second of two lines that hold nothing but a dash is not escaped. -/
theorem exists_matchesAt_toMarkdown_dashes :
    toMarkdown (.node {} []) (.branch .paragraph [.leaf (.text "-\n-")]) = .ok "\\-\n-\n" ∧
      ∃ rule ∈ Rule.defaults, rule.atBreak = true ∧ ∃ i < "\\-\n-\n".toList.length,
        rule.MatchesAt ('\n' :: ("\\-\n-\n".toList ++ ['\n'])) (i + 1) := by
  have hout : terminated (paragraphText "-\n-".toList) = "\\-\n-\n".toList := by decide +kernel
  have hline : LineRule.dash ∈ lineRules := by decide
  have hmisses : LineRule.dash.misses "-\n-".toList 1 = true := by decide
  obtain ⟨i, hi, hmatches, -⟩ := (exists_matchesAt_terminated_iff hline).mpr ⟨by decide, hmisses⟩
  obtain ⟨hmem, hbreak⟩ := exists_lineRule_iff.mpr ⟨.dash, hline, rfl⟩
  rw [hout] at hi hmatches
  refine ⟨?_, LineRule.dash.rule, hmem, hbreak, i, hi, hmatches⟩
  rw [toMarkdown_paragraph_text, hout]
  rfl

end MarkdownWriter
