import MarkdownWriter.Proofs.Text.Lines
import Mathlib.Data.List.DropRight

/-!
# The first and the last line of a text

Where a text is put on lines of its own only its edges meet what is around it. Its first line is
what stands before its first line break (`Lines.first_eq_takeWhile`), and its last line what stands
behind its last one (`Lines.last_eq_rtakeWhile`), however the lines between them end.

* **Contents** (`Lines.contents`): the lines without their endings. No line has a line break in it
  (`Lines.isLineBreak_of_mem_contents`), and every line is a row of the text
  (`Lines.mem_rows_of_mem_contents`). Rows are more than lines only where a `\r\n` has an empty one.
* **Maps** (`Lines.contents_mapIdx_const`, `Lines.last_mapIdx_const`): where each line is rewritten
  in one way the last line is, too, and no ending changes (`Lines.rest_mapIdx_const`).
* **Joints** (`contents_append_lineFeed`): two texts with a line feed between them keep their lines,
  unless the line feed completes the ending of a `\r`.
-/

namespace MarkdownWriter.Text

/-- What is taken from the end while a property holds begins behind the last place where it does
not. -/
theorem rtakeWhile_append_cons {α : Type} {p : α → Bool} {c : α} (hc : p c = false)
    (front back : List α) : (front ++ c :: back).rtakeWhile p = back.rtakeWhile p := by
  unfold List.rtakeWhile
  rw [List.reverse_append, List.reverse_cons, List.append_assoc, List.singleton_append,
    takeWhile_append_cons hc]

namespace Lines

/-- The lines of a text, without their endings. -/
def contents (lines : Lines) : List (List Char) :=
  lines.first :: lines.rest.map Prod.snd

/-- The last line has the others above it. -/
theorem exists_contents_eq_append_last (lines : Lines) :
    ∃ above, lines.contents = above ++ [lines.last] := by
  unfold last contents
  rcases List.eq_nil_or_concat lines.rest with hrest | ⟨others, entry, hrest⟩
  · rw [hrest]
    exact ⟨[], rfl⟩
  · rw [hrest, List.concat_eq_append, List.getLast?_concat]
    exact ⟨lines.first :: others.map Prod.snd, by simp⟩

/-- The last line is one of the lines. -/
theorem last_mem_contents (lines : Lines) : lines.last ∈ lines.contents := by
  obtain ⟨above, habove⟩ := lines.exists_contents_eq_append_last
  rw [habove]
  exact List.mem_append_right above List.mem_cons_self

@[simp] theorem contents_openLine (ending : LineEnding) (lines : Lines) :
    (lines.openLine ending).contents = [] :: lines.contents := rfl

/-- A character is put in front of the first line. -/
theorem contents_push (c : Char) (lines : Lines) :
    (lines.push c).contents = lines.contents.modifyHead (List.cons c) :=
  rfl

/-! ### Lines that are rewritten by one function -/

section rewritten

variable (f : List Char → List Char) (lines : Lines)

@[simp] theorem first_mapIdx_const : (lines.mapIdx fun _ => f).first = f lines.first := rfl

/-- Line endings stay what they are. -/
theorem rest_mapIdx_const :
    (lines.mapIdx fun _ => f).rest = lines.rest.map fun entry => (entry.1, f entry.2) := by
  apply List.ext_getElem <;> simp [mapIdx]

/-- Every line is rewritten. -/
theorem contents_mapIdx_const : (lines.mapIdx fun _ => f).contents = lines.contents.map f := by
  simp [contents, rest_mapIdx_const]

/-- The last line is rewritten as the others are. -/
theorem last_mapIdx_const : (lines.mapIdx fun _ => f).last = f lines.last := by
  unfold last
  rw [rest_mapIdx_const, List.getLast?_map]
  cases lines.rest.getLast? <;> rfl

/-- Lines may be rewritten in two steps. -/
theorem mapIdx_mapIdx (f g : Nat → List Char → List Char) (lines : Lines) :
    (lines.mapIdx f).mapIdx g = lines.mapIdx fun i line => g i (f i line) := by
  simp only [mapIdx, List.mapIdx_mapIdx]
  rfl

@[simp] theorem mapIdx_self (lines : Lines) : lines.mapIdx (fun _ line => line) = lines := by
  have hrest : (lines.mapIdx fun _ line => line).rest = lines.rest := by
    rw [rest_mapIdx_const fun line => line]
    exact List.map_id _
  cases lines
  exact congrArg (Lines.mk _) hrest

end rewritten

/-! ### The lines at the edges -/

/-- No line has a line break in it. -/
theorem isLineBreak_of_mem_contents (text : List Char) :
    ∀ line ∈ (ofText text).contents, ∀ c ∈ line, isLineBreak c = false := by
  fun_induction ofText text with
  | case1 => simp [contents]
  | case2 text ih => simpa using ih
  | case3 text _ ih => simpa using ih
  | case4 text _ _ ih => simpa using ih
  | case5 c text _ hcr hlf ih =>
      have hc : isLineBreak c = false := by simp [isLineBreak, hcr, hlf]
      rw [contents_push]
      exact List.forall_mem_cons.mpr
        ⟨List.forall_mem_cons.mpr ⟨hc, ih _ List.mem_cons_self⟩,
          fun line h => ih line (List.mem_cons_of_mem _ h)⟩

/-- The first line of a text is its first row, and the other lines are among the other rows. -/
theorem exists_rows_eq_first_cons (text : List Char) :
    ∃ below, rows text = (ofText text).first :: below ∧ ∀ line ∈ (ofText text).rest.map Prod.snd,
      line ∈ below := by
  have hopen {others : Lines} {below : List (List Char)} {ending : LineEnding}
      {more : List (List Char)}
      (hrows : ∀ line ∈ others.rest.map Prod.snd, line ∈ below)
        (hsub : others.first :: below ⊆ more) :
      ∀ line ∈ (others.openLine ending).rest.map Prod.snd, line ∈ more := by
    intro line hline
    rcases List.mem_cons.mp hline with rfl | hline
    · exact hsub List.mem_cons_self
    · exact hsub (List.mem_cons_of_mem _ (hrows line hline))
  fun_induction ofText text with
  | case1 => exact ⟨[], rfl, by simp⟩
  | case2 text ih =>
      obtain ⟨below, hrows, hall⟩ := ih
      exact ⟨[] :: rows text, rfl, hopen hall (by rw [hrows]; exact List.subset_cons_self _ _)⟩
  | case3 text _ ih | case4 text _ _ ih =>
      obtain ⟨below, hrows, hall⟩ := ih
      exact ⟨rows text, rfl, hopen hall (by rw [hrows]; exact List.Subset.refl _)⟩
  | case5 c text _ hcr hlf ih =>
      obtain ⟨below, hrows, hall⟩ := ih
      have hc : ¬ isLineBreak c = true := by simp [isLineBreak, hcr, hlf]
      refine ⟨below, ?_, hall⟩
      rw [rows_cons, if_neg hc, hrows]
      rfl

/-- So every line of a text is a row of it. -/
theorem mem_rows_of_mem_contents {text line : List Char} (h : line ∈ (ofText text).contents) :
    line ∈ rows text := by
  obtain ⟨below, hrows, hall⟩ := exists_rows_eq_first_cons text
  rw [hrows]
  exact List.cons_subset_cons _ hall h

/-- **The first line.** -/
theorem first_eq_takeWhile (text : List Char) :
    (ofText text).first = text.takeWhile (!isLineBreak ·) := by
  fun_induction ofText text with
  | case1 => rfl
  | case2 text ih => rfl
  | case3 text _ ih => rfl
  | case4 text _ _ ih => rfl
  | case5 c text _ hcr hlf ih =>
      have hc : (!isLineBreak c) = true := by simp [isLineBreak, hcr, hlf]
      rw [List.takeWhile_cons, if_pos hc, ← ih]
      rfl

/-- The last line stands behind a line break, or it is the only one. -/
theorem exists_append_last (text : List Char) :
    text = (ofText text).last ∨ ∃ front b, isLineBreak b = true ∧
      text = front ++ b :: (ofText text).last := by
  have htext := toText_ofText text
  unfold toText at htext
  unfold last
  rcases List.eq_nil_or_concat (ofText text).rest with hrest | ⟨others, ⟨ending, line⟩, hrest⟩
  · rw [hrest] at htext ⊢
    exact .inl (by simpa using htext.symm)
  · rw [hrest] at htext ⊢
    rw [List.concat_eq_append, List.getLast?_concat]
    right
    obtain ⟨before, b, hending, hb⟩ : ∃ before b, ending.toText = before ++ [b] ∧
        isLineBreak b = true := by
      cases ending
      · exact ⟨[], '\n', rfl, rfl⟩
      · exact ⟨[], '\r', rfl, rfl⟩
      · exact ⟨['\r'], '\n', rfl, rfl⟩
    refine ⟨(ofText text).first ++ others.flatMap (fun next => next.1.toText ++ next.2) ++ before,
      b, hb, ?_⟩
    conv_lhs => rw [← htext]
    simp [hending]

/-- **The last line.** -/
theorem last_eq_rtakeWhile (text : List Char) :
    (ofText text).last = text.rtakeWhile (!isLineBreak ·) := by
  have hfree : ∀ c ∈ (ofText text).last, (!isLineBreak c) = true := by
    intro c hc
    rw [isLineBreak_of_mem_contents text _ (last_mem_contents _) c hc]
    rfl
  have hlast := List.rtakeWhile_eq_self_iff.mpr hfree
  rcases exists_append_last text with htext | ⟨front, b, hb, htext⟩
  · rw [← htext] at hlast ⊢
    exact hlast.symm
  · conv_rhs => rw [htext, rtakeWhile_append_cons (by simp [hb]), hlast]

/-- A text without line breaks is one line. -/
theorem contents_of_free {line : List Char} (h : ∀ c ∈ line, isLineBreak c = false) :
    (ofText line).contents = [line] := by
  have hline := ofText_append h []
  rw [List.append_nil] at hline
  rw [hline]
  simp [contents, ofText]

/-- A line feed between two texts keeps their lines apart, unless it completes the last ending of
the first one. -/
theorem contents_append_lineFeed {text : List Char} (h : text.getLast? ≠ some '\r')
    (more : List Char) :
    (ofText (text ++ '\n' :: more)).contents =
      (ofText text).contents ++ (ofText more).contents := by
  rw [ofText_append_lineFeed h]
  simp [contents]

/-- Behind a line break at the end of a text the last line is empty. -/
theorem last_eq_nil_of_getLast? {text : List Char} {b : Char} (hb : isLineBreak b = true)
    (h : text.getLast? = some b) : (ofText text).last = [] := by
  obtain ⟨front, rfl⟩ := List.getLast?_eq_some_iff.mp h
  rw [last_eq_rtakeWhile, rtakeWhile_append_cons (by simp [hb]), List.rtakeWhile_nil]

/-- What the last character of a text is, if it is part of a line, is in the last line. -/
theorem mem_last_of_getLast? {text : List Char} {c : Char} (hc : isLineBreak c = false)
    (h : text.getLast? = some c) : c ∈ (ofText text).last := by
  obtain ⟨front, rfl⟩ := List.getLast?_eq_some_iff.mp h
  rw [last_eq_rtakeWhile, List.rtakeWhile_concat_pos _ _ _ (by simp [hc])]
  exact List.mem_append_right _ List.mem_cons_self

end Lines

end MarkdownWriter.Text
