import MarkdownWriter.Proofs.Render.BuiltIn
import MarkdownWriter.Proofs.Render.Paragraph
import MarkdownWriter.Proofs.Text.EdgeLines

/-!
# Indented code

Indented code has no fences to say where it begins and ends: its blank first and last lines are not
part of it, and whether a line belongs to it can only be told by its indent. `IsIndentedCode` says
of a text that it is read as the code with a given value.

* **Which code is indented.** The four conditions on whitespace in the value say together that
  neither its first nor its last line is blank, whatever the lines end in
  (`CodeBlock.isIndented_iff`).
* **Indented code is lossless** (`Writer.LaysOut.render_indented`): lines are rewritten one by one,
  and every line that is not empty gets the indent that is removed again (`drop_indentLine`). An
  indent has no line breaks in it, and an empty line is not made out of another
  (`keeps_indentLine`), which is all that maps of lines are asked for.
-/

namespace MarkdownWriter

open Text

/-! ## Which code is indented -/

/-- The line before the first line break is not blank exactly if it is not blank with text behind
it, and not blank with nothing behind it. -/
theorem any_takeWhile_not_isLineBreak (text : List Char) :
    (text.takeWhile (!isLineBreak ·)).any (!isSpacing ·) =
      (!startsWithBlankLine text && !text.all isSpacing) := by
  unfold startsWithBlankLine
  induction text with
  | nil => rfl
  | cons c text ih =>
      by_cases hspacing : isSpacing c = true
      · have hbreak := isLineBreak_of_isSpacing hspacing
        simpa [hspacing, hbreak] using ih
      · cases hbreak : isLineBreak c <;> simp [hspacing, hbreak]

/-- The condition on a side of a value, in terms of the line there. -/
theorem exists_mem_iff_of_eq_takeWhile {line text : List Char}
    (h : line = text.takeWhile (!isLineBreak ·)) :
    (∃ c ∈ line, isSpacing c = false) ↔ startsWithBlankLine text = false ∧
      text.all isSpacing = false := by
  have hany := any_takeWhile_not_isLineBreak text
  rw [← h] at hany
  rw [← Bool.not_eq_true', ← Bool.not_eq_true', ← Bool.and_eq_true, ← hany, List.any_eq_true]
  simp

/-- **Which code is indented**: code without a language whose first and last line are not blank,
unless the style wants all code fenced. -/
theorem CodeBlock.isIndented_iff {style : Style} {block : CodeBlock} :
    block.isIndented style = true ↔
      style.alwaysFences = false ∧ nonEmpty block.lang = none ∧
        (∃ c ∈ (Lines.ofText block.value.toList).first, isSpacing c = false) ∧
        ∃ c ∈ (Lines.ofText block.value.toList).last, isSpacing c = false := by
  have hfirst := exists_mem_iff_of_eq_takeWhile (Lines.first_eq_takeWhile block.value.toList)
  have hlast :=
    exists_mem_iff_of_eq_takeWhile (List.reverse_eq_iff.mpr
      (Lines.last_eq_rtakeWhile block.value.toList))
  rw [List.all_reverse] at hlast
  simp only [List.mem_reverse] at hlast
  -- What is neither a space nor part of a line ending is there as well: the first line holds it.
  have hany (h : ∃ c ∈ (Lines.ofText block.value.toList).first, isSpacing c = false) :
      block.value.toList.any (fun c => !(c == ' ' || isLineBreak c)) = true := by
    obtain ⟨c, hc, hspacing⟩ := h
    have hbreak := Lines.isLineBreak_of_mem_first c hc
    rw [Lines.first_eq_takeWhile] at hc
    refine List.any_eq_true.mpr ⟨c, (List.takeWhile_prefix _).subset hc, ?_⟩
    simp only [isSpacing, Bool.or_eq_false_iff] at hspacing
    simp [hspacing.1, hbreak]
  unfold CodeBlock.isIndented
  simp only [Bool.and_eq_true, Bool.not_eq_true', Option.isNone_iff_eq_none]
  constructor
  · rintro ⟨⟨⟨⟨⟨hfences, hlang⟩, -⟩, hall⟩, hstart⟩, hend⟩
    exact ⟨hfences, hlang, hfirst.mpr ⟨hstart, hall⟩, hlast.mpr ⟨hend, hall⟩⟩
  · rintro ⟨hfences, hlang, hfirstLine, hlastLine⟩
    exact ⟨⟨⟨⟨⟨hfences, hlang⟩, hany hfirstLine⟩, (hfirst.mp hfirstLine).2⟩,
      (hfirst.mp hfirstLine).1⟩, (hlast.mp hlastLine).1⟩

/-! ## Reading it back -/

/-- A text that is read as indented code with the given value: it neither begins nor ends with a
blank line, what is in a line stands behind an indent of four spaces, and without the indents it is
the value, with its line endings. -/
structure IsIndentedCode (value text : List Char) : Prop where
  first : ∃ c ∈ (Lines.ofText text).first, isSpacing c = false
  last : ∃ c ∈ (Lines.ofText text).last, isSpacing c = false
  indented : ∀ line ∈ (Lines.ofText text).contents, line ≠ [] → [' ', ' ', ' ', ' '] <+: line
  unindented : mapLines (fun _ line => line.drop 4) text = value

namespace Layout

/-- A line of indented code. -/
def indentLine (line : List Char) : List Char :=
  if line.isEmpty then [] else codeIndent ++ line

/-- A line that is not empty gets the indent. -/
theorem indentLine_of_ne_nil {line : List Char} (h : line ≠ []) :
    indentLine line = codeIndent ++ line :=
  if_neg (by simpa using h)

/-- Without its first four characters it is what it was, and so is an empty one. -/
theorem drop_indentLine (line : List Char) : (indentLine line).drop 4 = line := by
  cases line <;> rfl

/-- Nothing of a line is lost. -/
theorem mem_indentLine {line : List Char} {c : Char} (h : c ∈ line) : c ∈ indentLine line := by
  rw [indentLine_of_ne_nil (List.ne_nil_of_mem h)]
  exact List.mem_append_right _ h

/-- An indent has no line breaks in it, and an empty line is not made out of another. -/
theorem keeps_indentLine : Lines.Keeps fun _ line => indentLine line where
  free := by
    intro _ line hline c hc
    cases line with
    | nil => exact hline c hc
    | cons d line =>
        rcases List.mem_append.mp hc with hc | hc
        · exact isLineBreak_of_mem_replicate (c := ' ') rfl 4 c hc
        · exact hline c hc
  eq_nil := by
    intro _ line h
    simpa [h] using drop_indentLine line

variable (value : List Char)

/-- The lines of indented code are the lines of its value, indented. -/
theorem ofText_indentedCode :
    Lines.ofText (indentedCode value) = (Lines.ofText value).mapIdx fun _ line => indentLine line :=
  Lines.ofText_mapLines keeps_indentLine value

/-- The value comes back when the indent is taken off all lines. -/
theorem mapLines_drop_indentedCode : mapLines (fun _ line => line.drop 4)
    (indentedCode value) = value := by
  unfold mapLines
  rw [ofText_indentedCode, Lines.mapIdx_mapIdx]
  simp only [drop_indentLine, Lines.mapIdx_self, Lines.toText_ofText]

/-- Every line that is not empty begins with the indent. -/
theorem codeIndent_isPrefix_of_mem {line : List Char}
    (hline : line ∈ (Lines.ofText (indentedCode value)).contents) (hne : line ≠ []) :
    codeIndent <+: line := by
  rw [ofText_indentedCode, Lines.contents_mapIdx_const] at hline
  obtain ⟨line, -, rfl⟩ := List.mem_map.mp hline
  have hinner : line ≠ [] := by
    rintro rfl
    exact hne rfl
  rw [indentLine_of_ne_nil hinner]
  exact List.prefix_append codeIndent line

end Layout

section written

variable {writer : Writer} {block : CodeBlock} {state : State}

/-- **Indented code is lossless.** With every value and in every state, a block that is to be
indented is written without a change of the state, unless the fence character of the style is
refused; what is written is read as indented code, and the code is the value. -/
theorem Writer.LaysOut.render_indented (hwriter : writer.LaysOut .code)
    (hindented : block.isIndented state.style = true) (parent : Option Node) (site : Site) :
    writer.render (.leaf (.code block)) parent site state =
        ((state.style.fenceMarker.mapError .style).map fun _ =>
          Layout.indentedCode block.value.toList, state) ∧
      IsIndentedCode block.value.toList (Layout.indentedCode block.value.toList) := by
  obtain ⟨-, -, hfirst, hlast⟩ := CodeBlock.isIndented_iff.mp hindented
  refine ⟨?_, ?_, ?_, fun line => Layout.codeIndent_isPrefix_of_mem _,
    Layout.mapLines_drop_indentedCode _⟩
  · rw [hwriter.render_eq_layout rfl]
    change Layout.code writer.rules block state = _
    unfold Layout.code
    cases hmarker : state.style.fenceMarker with
    | error error => exact Render.bind_run_error (by rw [Render.ofStyle_run, hmarker]; rfl)
    | ok marker =>
        rw [Render.bind_run_ok (Render.ofStyle_eq_ok.mpr ⟨hmarker, rfl⟩),
          Render.bind_run_ok (Render.get_run state), if_pos hindented, Render.pure_run]
        rfl
  · obtain ⟨c, hc, hspacing⟩ := hfirst
    rw [Layout.ofText_indentedCode, Lines.first_mapIdx_const]
    exact ⟨c, Layout.mem_indentLine hc, hspacing⟩
  · obtain ⟨c, hc, hspacing⟩ := hlast
    rw [Layout.ofText_indentedCode, Lines.last_mapIdx_const]
    exact ⟨c, Layout.mem_indentLine hc, hspacing⟩

end written

/-- Code of four lines, with a tab, a blank line, spaces at the end, and three kinds of line endings
in it. -/
def indentedLines : CodeBlock where
  value := "\ta\r\n\r b  \nc"

/-- Tabs, blank lines with spaces and all kinds of line endings are kept. -/
theorem isIndentedCode_indentedLines :
    Writer.standard.LaysOut .code ∧ indentedLines.isIndented {} = true ∧
      Writer.standard.render (.leaf (.code indentedLines)) none (Writer.blockSite {}) {} =
        (.ok "    \ta\r\n\r     b  \n    c".toList, {}) ∧
      IsIndentedCode indentedLines.value.toList "    \ta\r\n\r     b  \n    c".toList := by
  have hwriter : Writer.standard.LaysOut .code := rfl
  have hindented : indentedLines.isIndented {} = true := by decide
  exact ⟨hwriter, hindented,
    @Writer.LaysOut.render_indented Writer.standard indentedLines {} hwriter hindented none
    (Writer.blockSite {})⟩

end MarkdownWriter
