import MarkdownWriter.Proofs.Text.Lines

/-!
# Line endings one by one

A line ending is `\r`, `\n` or `\r\n`, so a text may be cut inside of one. Two things that are done
to line endings are undone by such a cut, and both are stated here with the cuts they allow.

* **Lines in a row** (`spaced`). Where a line ending is written as a space the lines of a text stand
  in a row. That can be done to the parts of a text one after the other as long as none of them ends
  inside of a line ending (`spaced_append`).
* **The final ending** (`dropFinalLineEnding`) is taken off as a whole. What is taken off is never
  half of one (`exists_lineEnding_of_isLineBreak`), and it is what was put there unless that made
  one ending of two (`LineEnding.StandsApart`, `dropFinalLineEnding_append_iff`).
-/

namespace MarkdownWriter.Text

/-! ## Lines in a row -/

/-- The lines one behind the other, with a space for every line ending. -/
def Lines.inRow (lines : Lines) : List Char :=
  lines.first ++ lines.rest.flatMap fun (_, line) => ' ' :: line

/-- A text with every line ending turned into a space. -/
def spaced (text : List Char) : List Char :=
  (Lines.ofText text).inRow

@[simp] theorem Lines.inRow_push (c : Char) (lines : Lines) :
    (lines.push c).inRow = c :: lines.inRow := rfl

@[simp] theorem Lines.inRow_openLine (ending : LineEnding) (lines : Lines) :
    (lines.openLine ending).inRow = ' ' :: lines.inRow := rfl

@[simp] theorem spaced_nil : spaced [] = [] := rfl

theorem spaced_cons {c : Char} (hc : isLineBreak c = false) (text : List Char) :
    spaced (c :: text) = c :: spaced text := by
  have hfree : ∀ d ∈ [c], isLineBreak d = false := List.forall_mem_singleton.mpr hc
  unfold spaced
  rw [← List.singleton_append, Lines.ofText_append hfree]
  rfl

theorem spaced_lineEnding {ending : LineEnding} {text : List Char}
    (h : ending = .cr → text.head? ≠ some '\n') :
    spaced (ending.toText ++ text) = ' ' :: spaced text := by
  unfold spaced
  rw [Lines.ofText_lineEnding h, Lines.inRow_openLine]

/-- **A text may be cut anywhere but inside of a line ending.** -/
theorem spaced_append {front back : List Char}
    (h : front.getLast? = some '\r' → back.head? ≠ some '\n') :
    spaced (front ++ back) = spaced front ++ spaced back := by
  have hlineEnding (ending : LineEnding) {text : List Char}
      (hnext : ending = .cr → (text ++ back).head? ≠ some '\n')
      (ih : spaced (text ++ back) = spaced text ++ spaced back)
        (hown : ending = .cr → text.head? ≠ some '\n') :
      spaced (ending.toText ++ text ++ back) = spaced (ending.toText ++ text) ++ spaced back := by
    rw [List.append_assoc, spaced_lineEnding hnext, ih, spaced_lineEnding hown, List.cons_append]
  fun_induction Lines.ofText front with
  | case1 => rfl
  | case2 text ih =>
      refine hlineEnding .crlf (by simp) (ih fun hlast => h ?_) (by simp)
      rw [List.getLast?_cons, List.getLast?_cons, hlast]
      rfl
  | case3 text hnext ih =>
      have hown : text.head? ≠ some '\n' := by
        rw [ne_eq, List.head?_eq_some_iff]
        rintro ⟨rest, rfl⟩
        exact hnext rest rfl rfl
      refine hlineEnding .cr (fun _ => ?_) (ih fun hlast => h ?_) fun _ => hown
      · cases text with
        | nil => exact h rfl
        | cons c text => exact hown
      · rw [List.getLast?_cons, hlast]
        rfl
  | case4 text _ _ ih =>
      refine hlineEnding .lf (by simp) (ih fun hlast => h ?_) (by simp)
      rw [List.getLast?_cons, hlast]
      rfl
  | case5 c text _ hcr hlf ih =>
      have hc : isLineBreak c = false := by simp [isLineBreak, hcr, hlf]
      rw [List.cons_append, spaced_cons hc, spaced_cons hc, List.cons_append, ih]
      intro hlast
      refine h ?_
      rw [List.getLast?_cons, hlast]
      rfl

/-! ## The final line ending -/

/-- A text without the line ending that it ends with. -/
theorem dropFinalLineEnding_concat {b : Char} (hb : isLineBreak b = true) (text : List Char) :
    dropFinalLineEnding (text ++ [b]) =
      if b = '\n' ∧ text.getLast? = some '\r' then text.dropLast else text := by
  unfold dropFinalLineEnding
  rw [List.reverse_append, List.reverse_singleton, List.singleton_append]
  rcases List.eq_nil_or_concat text with rfl | ⟨front, c, rfl⟩
  · rcases isLineBreak_iff.mp hb with rfl | rfl <;> rfl
  · rw [List.concat_eq_append, List.reverse_append, List.reverse_singleton, List.singleton_append,
      List.getLast?_concat, List.dropLast_concat]
    rcases isLineBreak_iff.mp hb with rfl | rfl
    · by_cases hc : c = '\r'
      · simp [hc]
      · simp [hc]
    · simp

/-- The last line break of a text belongs to a line ending, and no part of that is left in front of
it. -/
theorem exists_lineEnding_of_isLineBreak {b : Char} (hb : isLineBreak b = true) (text : List Char) :
    ∃ ending : LineEnding, text ++ [b] = dropFinalLineEnding (text ++ [b]) ++ ending.toText ∧
      (ending = .lf → (dropFinalLineEnding (text ++ [b])).getLast? ≠ some '\r') := by
  rw [dropFinalLineEnding_concat hb]
  rcases isLineBreak_iff.mp hb with rfl | rfl
  · by_cases hlast : text.getLast? = some '\r'
    · obtain ⟨front, rfl⟩ := List.getLast?_eq_some_iff.mp hlast
      exact ⟨.crlf, by simp [LineEnding.toText], by simp⟩
    · exact ⟨.lf, by simp [hlast, LineEnding.toText], by simp [hlast]⟩
  · exact ⟨.cr, by simp [LineEnding.toText], by simp⟩

/-- A line ending that is no part of a longer one with the text before it, as a line feed behind a
carriage return is. -/
def LineEnding.StandsApart (ending : LineEnding) (text : List Char) : Prop :=
  ending = .lf → text.getLast? ≠ some '\r'

/-- The line ending that was put behind a text is taken off again exactly if it stands apart. -/
theorem dropFinalLineEnding_append_iff {ending : LineEnding} {text : List Char} :
    dropFinalLineEnding (text ++ ending.toText) = text ↔ ending.StandsApart text := by
  unfold LineEnding.StandsApart
  cases ending with
  | lf =>
      rw [LineEnding.toText, dropFinalLineEnding_concat rfl]
      by_cases hlast : text.getLast? = some '\r'
      · obtain ⟨front, rfl⟩ := List.getLast?_eq_some_iff.mp hlast
        simp
      · simp [hlast]
  | cr =>
      rw [LineEnding.toText, dropFinalLineEnding_concat rfl]
      simp
  | crlf =>
      have hends : text ++ LineEnding.crlf.toText = text ++ ['\r'] ++ ['\n'] := by
        rw [List.append_assoc]
        rfl
      rw [hends, dropFinalLineEnding_concat rfl]
      simp

end MarkdownWriter.Text
