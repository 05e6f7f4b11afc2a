import MarkdownWriter.Proofs.Render.Items
import MarkdownWriter.Proofs.Render.Paragraph

/-!
# The column of a list item's contents

A reader of Markdown takes the contents of a list item to begin where its first line does, unless
that is five or more columns behind the marker: then they begin in the column next to the marker's
space, and the rest is indentation of theirs (`contentColumn`). All further lines have to be
indented up to that column.

* **Where the lines are aligned** (`Writer.LaysOut.contentColumn_aligned_iff`): the column of the
  first line is the one the other lines are indented to if the contents do not begin with a space
  and are indented by at most four columns from the marker, or if they begin with indented code and
  are indented by one column only.
-/

namespace MarkdownWriter

open Layout Text

/-! ## Columns -/

/-- The number of spaces at the front of a line. -/
def leadingSpaces (line : List Char) : Nat :=
  (line.takeWhile (· == ' ')).length

/-- The column in which a reader takes the contents of an item to begin, for the width of its marker
and what is behind that on the first line. -/
def contentColumn (width : Nat) (behind : List Char) : Nat :=
  if 1 ≤ leadingSpaces behind ∧ leadingSpaces behind ≤ 4 then width + leadingSpaces behind
  else width + 1

/-- Spaces in front of a line add up. -/
theorem leadingSpaces_replicate_append (count : Nat) (line : List Char) :
    leadingSpaces (List.replicate count ' ' ++ line) = count + leadingSpaces line := by
  unfold leadingSpaces
  rw [List.takeWhile_append_of_pos, List.length_append, List.length_replicate]
  intro c hc
  exact beq_iff_eq.mpr (List.eq_of_mem_replicate hc)

/-- The column of a line behind a marker and some spaces. -/
theorem contentColumn_eq_iff {width size : Nat} (hsize : width < size) (line : List Char) :
    contentColumn width (List.replicate (size - width) ' ' ++ line) = size ↔
      (leadingSpaces line = 0 ∧ size ≤ width + 4) ∨
        (4 ≤ leadingSpaces line ∧ size = width + 1) := by
  unfold contentColumn
  rw [leadingSpaces_replicate_append]
  split <;> omega

/-! ## Lines of an item -/

/-- No marker of a list is a line break. -/
theorem isLineBreak_eq_false_of_mem_markers {list : ListStyle} {bullet : Char}
    (h : bullet ∈ markers list) : isLineBreak bullet = false := by
  have hall : (Style.delimiters ++ Style.bullets).all (fun c => !isLineBreak c) = true := by decide
  have hmem : bullet ∈ Style.delimiters ++ Style.bullets := by
    unfold markers at h
    split at h
    · exact List.mem_append_left _ h
    · exact List.mem_append_right _ h
  simpa using List.all_eq_true.mp hall bullet hmem

/-- Digits end no line. -/
theorem isLineBreak_eq_false_of_mem_decimal {n : Nat} {c : Char} (h : c ∈ decimal n) :
    isLineBreak c = false := by
  have hdigit : c.isDigit = true :=
    Nat.isDigit_of_mem_toDigits (by decide : 0 < 10) (Nat.le_refl 10) h
  rw [← Bool.not_eq_true, isLineBreak_iff]
  rintro (rfl | rfl)
  · contradiction
  · contradiction

/-- A marker that is written without line breaks stays on the first line, and nothing is put into
blank lines. -/
theorem keeps_itemLine {marker : List Char} (hmarker : ∀ c ∈ marker, isLineBreak c = false)
    (hne : marker ≠ []) (size : Nat) : Lines.Keeps (itemLine marker size) where
  free := fun i line hline => by
    have hspaces := @isLineBreak_of_mem_replicate ' ' rfl
    unfold itemLine
    split
    · split
      · exact hmarker
      · exact List.forall_mem_append.mpr ⟨List.forall_mem_append.mpr ⟨hmarker, hspaces _⟩, hline⟩
    · split
      · simp
      · exact List.forall_mem_append.mpr ⟨hspaces _, hline⟩
  eq_nil := fun i line h => by
    unfold itemLine at h
    split at h
    · split at h
      · contradiction
      · simp [hne] at h
    · split at h
      · next hempty => exact List.isEmpty_iff.mp hempty
      · simp at h
        exact h.2

section Item

variable {style : Style} {bullet : Char} {list : ListStyle} {items : List Node} {spread : Bool}
  {index : Nat}

/-- The lines of an item are those of its contents, behind the marker or the indent. -/
theorem ofText_itemLayout_text (hbullet : bullet ∈ markers list) (content : List Char) :
    Lines.ofText ((itemLayout style bullet list items spread index).text content) =
      (Lines.ofText content).mapIdx (itemLine
        (itemLayout style bullet list items spread index).marker
        (itemLayout style bullet list items spread index).size) := by
  apply Lines.ofText_mapLines
  apply keeps_itemLine
  · rw [itemLayout_marker]
    refine List.forall_mem_append.mpr ⟨?_, ?_⟩
    · split
      · exact fun c => isLineBreak_eq_false_of_mem_decimal
      · simp
    · rw [List.forall_mem_singleton]
      exact isLineBreak_eq_false_of_mem_markers hbullet
  · rw [itemLayout_marker]
    simp

/-- What is behind the marker of an item that does not begin with a blank line: the spaces up to its
contents, and their first line. -/
theorem eq_of_itemLine_eq {marker behind line : List Char} {size : Nat}
    (h : itemLine marker size 0 line = marker ++ behind) (hblank : ∃ c ∈ behind, c ≠ ' ') :
    behind = List.replicate (size - marker.length) ' ' ++ line := by
  unfold itemLine at h
  rw [if_pos rfl] at h
  split at h
  · obtain ⟨c, hc, -⟩ := hblank
    have hnil : behind = [] := by simpa using h
    rw [hnil] at hc
    contradiction
  · rw [List.append_assoc] at h
    exact (List.append_cancel_left h).symm

end Item

/-! ## Items -/

/-- **Where the lines are aligned.** Every item of a list is its marker and its contents, whose
lines but for the first are indented by the columns of its layout. The first line begins in the same
column exactly if the contents begin with no space and that column is at most four behind the
marker, or they begin with four spaces or more and it is the one behind the space of the marker. -/
theorem Writer.LaysOut.contentColumn_aligned_iff {writer : Writer}
    (hwriter : writer.LaysOut .listItem) {list : ListStyle} {items : List Node}
    {parent : Option Node} {site : Site} {state after : State} {value : List Char}
    (h : writer.renderAs .list (.branch (.list list) items) parent site state =
      (.ok value, after)) :
    ∃ bullet pieces middle, listBullet list items parent.isSome state = .ok bullet ∧
      writer.pieces (.branch (.list list) items) site.position (openList bullet state) =
        (.ok pieces, middle) ∧
      value = Piece.flatten pieces ∧
      ∀ n spread children piece, items[n]? = some (.branch (.listItem spread) children) →
        pieces[n]? = some piece →
        ∃ layout place start content written,
          layout = itemLayout state.style bullet list items spread n ∧
          writer.blocks (.branch (.listItem spread) children) place start =
            (.ok content, written) ∧
          Lines.ofText piece.text =
            (Lines.ofText content).mapIdx (itemLine layout.marker layout.size) ∧
          ∀ behind, (Lines.ofText piece.text).first = layout.marker ++ behind →
            (∃ c ∈ behind, c ≠ ' ') →
            (contentColumn layout.marker.length behind = layout.size ↔
              (leadingSpaces (Lines.ofText content).first = 0 ∧
                layout.size ≤ layout.marker.length + 4) ∨
              (4 ≤ leadingSpaces (Lines.ofText content).first ∧
                layout.size = layout.marker.length + 1)) := by
  obtain ⟨bullet, pieces, middle, hbullet, -, hpieces, hvalue, hitems⟩ :=
    hwriter.writesItems.exists_items h
  refine ⟨bullet, pieces, middle, hbullet, hpieces, hvalue, ?_⟩
  intro n spread children piece hitem hpiece
  obtain ⟨place, start, content, written, hcontent, htext⟩ :=
    hitems n spread children piece hitem hpiece
  refine ⟨_, place, start, content, written, rfl, hcontent, ?_, ?_⟩
  · rw [htext]
    exact ofText_itemLayout_text (listBullet_mem hbullet) content
  · intro behind hfirst hblank
    rw [htext, ofText_itemLayout_text (listBullet_mem hbullet)] at hfirst
    rw [eq_of_itemLine_eq hfirst hblank]
    exact contentColumn_eq_iff length_marker_lt_size _

/-! ## Lists of indented code -/

/-- The items of a list that holds one block of indented code. -/
def codeItems : List Node :=
  [.branch (.listItem false) [.leaf (.code { value := "a" })]]

/-- The code stands seven columns behind its bullet, so a reader takes it to begin in the second
column, but for four of its spaces. All other lines would be indented by four. -/
theorem contentColumn_misaligned_code :
    Writer.standard.LaysOut .listItem ∧
      ∃ value after,
        Writer.standard.renderAs .list (.branch (.list {}) codeItems) none
          (Writer.blockSite {}) {} = (.ok value, after) ∧
        ∃ layout content behind,
          layout = itemLayout {} '*' {} codeItems false 0 ∧ value = layout.marker ++ behind ∧
          Lines.ofText value =
            (Lines.ofText content).mapIdx (itemLine layout.marker layout.size) ∧
          contentColumn layout.marker.length behind ≠ layout.size := by
  have hwriter : Writer.standard.LaysOut .listItem := rfl
  have hrun : Writer.standard.renderAs .list
      (.branch (.list {}) codeItems) none (Writer.blockSite {}) {} =
      (.ok ['*', ' ', ' ', ' ', ' ', ' ', ' ', ' ', 'a'], { bulletLastUsed := some '*' }) := rfl
  obtain ⟨bullet, pieces, middle, hbullet, hpieces, hvalue, hitems⟩ :=
    hwriter.contentColumn_aligned_iff hrun
  obtain rfl : '*' = bullet := Except.ok.inj hbullet
  have hpiece : Writer.standard.pieces (.branch (.list {}) codeItems) (Writer.blockSite {}).position
      (openList '*' {}) = (.ok [⟨['*', ' ', ' ', ' ', ' ', ' ', ' ', ' ', 'a'], []⟩],
        openList '*' {}) := rfl
  obtain ⟨hsame, -⟩ := Render.outcome_eq_iff.mp (hpiece.symm.trans hpieces)
  obtain rfl := Except.ok.inj hsame
  obtain ⟨layout, place, start, content, written, rfl, -, hlines, hcolumn⟩ :=
    hitems 0 false _ _ rfl rfl
  have hblank : ∃ c ∈ [' ', ' ', ' ', ' ', ' ', ' ', ' ', 'a'], c ≠ ' ' :=
    ⟨'a', by decide, by decide⟩
  have hmarked : itemLine ['*'] 4 0 (Lines.ofText content).first =
      ['*'] ++ [' ', ' ', ' ', ' ', ' ', ' ', ' ', 'a'] := (congrArg Lines.first hlines).symm
  have hbehind :
      [' ', ' ', ' '] ++ [' ', ' ', ' ', ' ', 'a'] =
        [' ', ' ', ' '] ++ (Lines.ofText content).first :=
    eq_of_itemLine_eq hmarked hblank
  have haligned := hcolumn [' ', ' ', ' ', ' ', ' ', ' ', ' ', 'a'] rfl hblank
  rw [← List.append_cancel_left hbehind] at haligned
  refine ⟨hwriter, _, _, hrun, _, content, _, rfl, rfl, hlines, ?_⟩
  intro heq
  exact absurd (haligned.mp heq) (by decide)

/-- The code of a list item is indented by its own four columns behind those of the item. -/
theorem toMarkdown_codeItems :
    toMarkdown (.node {} []) (.branch (.list {}) codeItems) = .ok "*       a\n" ∧
      contentColumn ['*'].length [' ', ' ', ' ', ' ', ' ', ' ', ' ', 'a'] = 2 ∧
      itemLayout {} '*' {} codeItems false 0 = ⟨['*'], 4⟩ := by
  decide +kernel

end MarkdownWriter
