import MarkdownWriter.Proofs.Text.EdgeLines
import MarkdownWriter.Proofs.Text.Placement

/-!
# Texts that are set in others

A block is written by itself, and its text is then set in the text of the container around it: other
blocks come before it and behind it, and margins in front of its rows. `IsSetIn` says what is left
of the text then: every row of it that is not blank ends a row of the other one. A row that is read
as something on its own is read as that behind its margin.

* **Texts one behind the other** (`Separated`) are kept apart by line feeds, so no row of one is
  joined to another (`rows_append_separator`, `Separated.rows_subset`).
* **Margins** are put in front of lines, not of rows; for rows that are not blank that is the same
  (`mem_rows_iff`, `IsMargin.isSetIn_mapLines`).
* **Containers in containers** (`IsSetIn.refl`, `IsSetIn.trans`): margins add up, so what is shown
  for one container holds at any depth.
-/

namespace MarkdownWriter

namespace Text

/-! ## Rows that are not blank -/

/-- The first row is the first line, and the rows below that are not blank are lines. -/
theorem exists_rows_eq_cons (text : List Char) :
    ∃ below, rows text = (Lines.ofText text).first :: below ∧
      ∀ row, row ≠ [] → (row ∈ below ↔ row ∈ (Lines.ofText text).rest.map Prod.snd) := by
  have hopen {b : Char} (hb : isLineBreak b = true) (ending : LineEnding) {text : List Char}
      (ih : ∃ below, rows text = (Lines.ofText text).first :: below ∧
        ∀ row, row ≠ [] → (row ∈ below ↔ row ∈ (Lines.ofText text).rest.map Prod.snd)) :
      ∃ below, rows (b :: text) = ((Lines.ofText text).openLine ending).first :: below ∧
        ∀ row, row ≠ [] →
        (row ∈ below ↔ row ∈ ((Lines.ofText text).openLine ending).rest.map Prod.snd) := by
    obtain ⟨below, hrows, hbelow⟩ := ih
    refine ⟨rows text, (rows_cons _ _).trans (if_pos hb), fun row hrow => ?_⟩
    rw [hrows, List.mem_cons, hbelow row hrow]
    simp [Lines.openLine]
  fun_induction Lines.ofText text with
  | case1 => exact ⟨[], rfl, by simp⟩
  | case2 text ih =>
      obtain ⟨below, hrows, hbelow⟩ := hopen (show isLineBreak '\n' = true from rfl) .crlf ih
      refine ⟨rows ('\n' :: text), (rows_cons _ _).trans (if_pos rfl), fun row hrow => ?_⟩
      rw [hrows, List.mem_cons, hbelow row hrow]
      simp [Lines.openLine, hrow]
  | case3 text _ ih => exact hopen rfl .cr ih
  | case4 text _ _ ih => exact hopen rfl .lf ih
  | case5 c text _ hcr hlf ih =>
      have hc : ¬ isLineBreak c = true := by simp [isLineBreak, hcr, hlf]
      obtain ⟨below, hrows, hbelow⟩ := ih
      refine ⟨below, ?_, hbelow⟩
      rw [rows_cons, if_neg hc, hrows]
      rfl

/-- A row that is not blank is a line, and the other way round. -/
theorem mem_rows_iff {text row : List Char} (hrow : row ≠ []) :
    row ∈ rows text ↔ row ∈ (Lines.ofText text).contents := by
  obtain ⟨below, hrows, hbelow⟩ := exists_rows_eq_cons text
  rw [hrows, Lines.contents, List.mem_cons, List.mem_cons, hbelow row hrow]

/-- The first row is the first line. -/
theorem head?_rows (text : List Char) : (rows text).head? = some (Lines.ofText text).first := by
  obtain ⟨below, hrows, -⟩ := exists_rows_eq_cons text
  rw [hrows]
  rfl

/-- Lines are rewritten with their indexes. -/
theorem Lines.contents_mapIdx (f : Nat → List Char → List Char) (lines : Lines) :
    (lines.mapIdx f).contents = lines.contents.mapIdx f := by
  unfold contents mapIdx
  rw [List.mapIdx_cons]
  congr 1
  apply List.ext_getElem <;> simp

/-! ## Texts one behind the other -/

/-- A text that puts others on rows of their own: it begins with a line feed and ends with one. -/
structure Separates (separator : List Char) : Prop where
  head : separator.head? = some '\n'
  last : separator.getLast? = some '\n'

/-- A text made of several ones, with separators between them. -/
inductive Separated : List (List Char) → List Char → Prop
  | nil : Separated [] []
  | single (text : List Char) : Separated [text] text
  | cons {separator value : List Char} {next : List Char} {others : List (List Char)}
    (text : List Char) (hseparator : Separates separator) (h : Separated (next :: others) value) :
      Separated (text :: next :: others) (text ++ separator ++ value)

/-- Behind a line feed new rows begin. -/
theorem rows_append_separator {separator : List Char} (h : Separates separator)
    (text more : List Char) :
    ∃ blank, rows (text ++ separator ++ more) = rows text ++ blank ++ rows more := by
  obtain ⟨rest, rfl⟩ := List.head?_eq_some_iff.mp h.head
  rcases List.eq_nil_or_concat rest with rfl | ⟨middle, b, rfl⟩
  · refine ⟨[], ?_⟩
    rw [List.append_assoc, List.singleton_append, rows_append_cons rfl, List.append_nil]
  · have hb : b = '\n' := by
      have hlast := h.last
      rw [List.concat_eq_append, ← List.cons_append, List.getLast?_concat] at hlast
      exact Option.some.inj hlast
    subst hb
    refine ⟨rows middle, ?_⟩
    rw [show text ++ '\n' :: middle.concat '\n' ++ more =
      text ++ '\n' :: (middle ++ '\n' :: more) by simp, rows_append_cons rfl, rows_append_cons rfl,
      List.append_assoc]

namespace Separated

variable {texts : List (List Char)} {value : List Char}

/-- The first text begins the whole. -/
theorem first_eq {first : List Char} (h : Separated (first :: texts) value) :
    (Lines.ofText value).first = (Lines.ofText first).first := by
  cases h with
  | single => rfl
  | @cons separator value next others _ hseparator h =>
      obtain ⟨blank, hrows⟩ := rows_append_separator hseparator first value
      have hhead := congrArg List.head? hrows
      rw [List.append_assoc (rows first), head?_rows, List.head?_append, head?_rows,
        Option.some_or] at hhead
      exact Option.some.inj hhead

/-- The rows of each text are rows of the whole. -/
theorem rows_subset (h : Separated texts value) {text : List Char} (htext : text ∈ texts) :
    rows text ⊆ rows value := by
  induction h with
  | nil => exact absurd htext List.not_mem_nil
  | single text' =>
      rw [List.mem_singleton.mp htext]
      exact List.Subset.refl _
  | @cons separator value next others text' hseparator h ih =>
      obtain ⟨blank, hrows⟩ := rows_append_separator hseparator text' value
      rw [hrows]
      rcases List.mem_cons.mp htext with rfl | hmem
      · exact fun row hrow => List.mem_append_left _ (List.mem_append_left _ hrow)
      · exact fun row hrow => List.mem_append_right _ (ih hmem hrow)

end Separated

/-! ## Texts behind margins -/

/-- Every row of the one text that is not blank ends a row of the other. -/
def IsSetIn (text outer : List Char) : Prop :=
  ∀ row ∈ rows text, row ≠ [] → ∃ margin, margin ++ row ∈ rows outer

namespace IsSetIn

variable {text middle outer : List Char}

/-- A text is set in itself, behind no margin. -/
theorem refl (text : List Char) : IsSetIn text text :=
  fun _ hrow _ => ⟨[], hrow⟩

/-- Margins add up. -/
theorem trans (h : IsSetIn text middle) (h' : IsSetIn middle outer) : IsSetIn text outer := by
  intro row hrow hne
  obtain ⟨margin, hmargin⟩ := h row hrow hne
  obtain ⟨more, hmore⟩ := h' _ hmargin (List.append_ne_nil_of_right_ne_nil margin hne)
  exact ⟨more ++ margin, by rwa [List.append_assoc]⟩

/-- A text whose rows are among those of another one is set in that. -/
theorem of_subset (h : rows text ⊆ rows outer) : IsSetIn text outer :=
  fun _ hrow _ => ⟨[], h hrow⟩

end IsSetIn

end Text

open Text

/-- A margin keeps the rows that are not blank. -/
theorem IsMargin.keeps {width : Nat} {f : Nat → List Char → List Char} (hf : IsMargin width f) :
    Lines.Keeps f where
  free := fun i line hline => by
    obtain ⟨margin, heq, hmargin, -⟩ := hf i line
    rw [heq]
    exact List.forall_mem_append.mpr ⟨hmargin, hline⟩
  eq_nil := fun i line h => by
    obtain ⟨margin, heq, -⟩ := hf i line
    rw [heq] at h
    exact (List.append_eq_nil_iff.mp h).2

/-- **Margins** leave a text set in the rows behind them. -/
theorem IsMargin.isSetIn_mapLines {width : Nat} {f : Nat → List Char → List Char}
    (hf : IsMargin width f) (text : List Char) : IsSetIn text (mapLines f text) := by
  intro row hrow hne
  rw [mem_rows_iff hne] at hrow
  obtain ⟨i, hi, rfl⟩ := List.getElem_of_mem hrow
  obtain ⟨margin, heq, -⟩ := hf i (Lines.ofText text).contents[i]
  refine ⟨margin, (mem_rows_iff (List.append_ne_nil_of_right_ne_nil margin hne)).mpr ?_⟩
  rw [Lines.ofText_mapLines hf.keeps, Lines.contents_mapIdx, ← heq]
  exact List.mem_iff_getElem.mpr ⟨i, by rwa [List.length_mapIdx], List.getElem_mapIdx ..⟩

end MarkdownWriter
