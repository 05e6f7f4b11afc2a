import MarkdownWriter.Proofs.Text.EdgeLines
import MarkdownWriter.Proofs.Text.Inset

/-!
# Lines that stay apart

Lines that are put together with their endings are the lines of the text that comes of it, unless an
empty one stands between a `\r` and a `\n`: those two are then read as one ending
(`Lines.ofText_toText_iff`). No text is cut into such lines (`Lines.stayApart_ofText`), but a map of
lines can make them, out of lines that are not empty.

* **The condition** (`Lines.StayApart`) is about the endings and about which lines are empty, and is
  settled line by line (`Lines.stayApart_cons_iff`).
* **What a map does** (`rewritesLines_mapLines_iff`): one that writes no line breaks rewrites a text
  line by line exactly if it empties no line between a lone `\r` and a lone `\n`.
* **Undoing it** (`mapLines_mapLines`, `mapLines_cancel`): maps that empty no line at all can be
  followed by others, and so be taken back.
-/

namespace MarkdownWriter.Text

namespace Lines

/-! ## Lines and their endings -/

/-- The line endings between the lines. -/
def endings (lines : Lines) : List LineEnding :=
  lines.rest.map Prod.fst

/-- Lines are told apart by their contents and their endings. -/
theorem eq_iff {lines lines' : Lines} :
    lines = lines' ↔ lines.endings = lines'.endings ∧ lines.contents = lines'.contents := by
  constructor
  · rintro rfl
    exact ⟨rfl, rfl⟩
  · obtain ⟨first, rest⟩ := lines
    obtain ⟨first', rest'⟩ := lines'
    rintro ⟨hendings, hcontents⟩
    obtain ⟨rfl, hlines⟩ := List.cons.inj hcontents
    exact congrArg (Lines.mk first) ((List.zip_of_prod hendings hlines).trans
      (List.zip_of_prod rfl rfl).symm)

/-- Line endings stay when lines are rewritten. -/
theorem endings_mapIdx (f : Nat → List Char → List Char) (lines : Lines) :
    (lines.mapIdx f).endings = lines.endings := by
  apply List.ext_getElem <;> simp [endings, mapIdx]

/-- No empty line stands between a carriage return and a line feed. -/
def StayApart (lines : Lines) : Prop :=
  ∀ i, lines.endings[i]? = some .cr → lines.contents[i + 1]? = some [] →
    lines.endings[i + 1]? ≠ some .lf

/-- Lines stay apart if the second one does not bring the endings around it together, and those from
it on stay apart. -/
theorem stayApart_cons_iff {first line : List Char} {ending : LineEnding}
    {rest : List (LineEnding × List Char)} :
    StayApart ⟨first, (ending, line) :: rest⟩ ↔
      ¬ (ending = .cr ∧ line = [] ∧ (rest.map Prod.fst).head? = some .lf) ∧
        StayApart ⟨line, rest⟩ := by
  constructor
  · intro h
    refine ⟨?_, fun i => h (i + 1)⟩
    rintro ⟨rfl, rfl, hnext⟩
    rw [List.head?_eq_getElem?] at hnext
    exact h 0 rfl rfl hnext
  · rintro ⟨hfirst, hothers⟩ i
    cases i with
    | zero =>
        intro hending hline hnext
        refine hfirst ⟨Option.some.inj hending, Option.some.inj hline, ?_⟩
        rw [List.head?_eq_getElem?]
        exact hnext
    | succ i => exact hothers i

/-- A text begins with a line feed if its first line is empty and ends with one. -/
theorem head?_toText_iff {line : List Char} (hline : ∀ c ∈ line, isLineBreak c = false)
    {rest : List (LineEnding × List Char)} :
    (toText ⟨line, rest⟩).head? = some '\n' ↔ line = [] ∧ (rest.map Prod.fst).head? = some .lf := by
  cases line with
  | nil =>
      rcases rest with _ | ⟨⟨ending, next⟩, rest⟩
      · simp [toText]
      · cases ending <;> simp [toText, LineEnding.toText]
  | cons c line =>
      have hc : c ≠ '\n' := by
        rintro rfl
        exact absurd (hline '\n' List.mem_cons_self) (by decide)
      simp [toText, hc]

/-- **Lines that stay apart** are those of the text that is put together from them. -/
theorem ofText_toText_iff {lines : Lines}
    (hfree : ∀ line ∈ lines.contents, ∀ c ∈ line, isLineBreak c = false) :
    ofText lines.toText = lines ↔ lines.StayApart := by
  obtain ⟨first, rest⟩ := lines
  induction rest generalizing first with
  | nil =>
      have hfirst := ofText_append (hfree first List.mem_cons_self) []
      rw [List.append_nil] at hfirst
      simp [toText, hfirst, ofText, StayApart, endings]
  | cons entry rest ih =>
      obtain ⟨ending, line⟩ := entry
      obtain ⟨hfirst, hothers⟩ := List.forall_mem_cons.mp hfree
      have htext :
          toText ⟨first, (ending, line) :: rest⟩ =
            first ++ (ending.toText ++ toText ⟨line, rest⟩) := by
        simp [toText]
      have hnext := @head?_toText_iff line (hothers line List.mem_cons_self) rest
      rw [htext, ofText_append hfirst, stayApart_cons_iff, ← hnext, ← ih line hothers]
      by_cases hjoined : ending = .cr ∧ (toText ⟨line, rest⟩).head? = some '\n'
      · -- the first ending is then read as another one
        obtain ⟨rfl, hhead⟩ := hjoined
        obtain ⟨more, hmore⟩ := List.head?_eq_some_iff.mp hhead
        rw [hmore]
        simp [LineEnding.toText, ofText, openLine]
      · rw [ofText_lineEnding fun hcr hhead => hjoined ⟨hcr, hhead⟩]
        simp only [hjoined, not_false_eq_true, true_and]
        generalize ofText (toText ⟨line, rest⟩) = lines
        obtain ⟨first', rest'⟩ := lines
        simp [openLine]

/-- The lines of a text stay apart. -/
theorem stayApart_ofText (text : List Char) : (ofText text).StayApart := by
  rw [← ofText_toText_iff (isLineBreak_of_mem_contents text), toText_ofText]

end Lines

/-! ## Rewriting -/

/-- A text whose lines are made by a map from those of another one, each with its index, while the
line endings are the same, one by one. -/
structure RewritesLines (f : Nat → List Char → List Char) (value text : List Char) : Prop where
  endings_eq : (Lines.ofText text).endings = (Lines.ofText value).endings
  line_eq : ∀ i, (Lines.ofText text).contents[i]? = (Lines.ofText value).contents[i]?.map (f i)

section Rewriting

variable {f g : Nat → List Char → List Char} {value text : List Char}

theorem rewritesLines_iff : RewritesLines f value text ↔
    Lines.ofText text = (Lines.ofText value).mapIdx f := by
  rw [Lines.eq_iff, Lines.endings_mapIdx, Lines.contents_mapIdx]
  constructor
  · rintro ⟨hendings, hlines⟩
    exact ⟨hendings, List.ext_getElem? fun i => by rw [hlines, List.getElem?_mapIdx]⟩
  · rintro ⟨hendings, hlines⟩
    exact ⟨hendings, fun i => by rw [hlines, List.getElem?_mapIdx]⟩

/-- **Where lines are rewritten.** A map that writes no line breaks rewrites a text line by line,
unless it empties a line that is not blank between a carriage return and a line feed that are
endings on their own. -/
theorem rewritesLines_mapLines_iff
    (hf : ∀ i line, (∀ c ∈ line, isLineBreak c = false) → ∀ c ∈ f i line, isLineBreak c = false)
    (value : List Char) :
    RewritesLines f value (mapLines f value) ↔
      ∀ i line, (Lines.ofText value).endings[i]? = some .cr →
        (Lines.ofText value).contents[i + 1]? = some line →
        (Lines.ofText value).endings[i + 1]? = some .lf → line ≠ [] → f (i + 1) line ≠ [] := by
  have hfree : ∀ line ∈ ((Lines.ofText value).mapIdx f).contents, ∀ c ∈ line,
      isLineBreak c = false := by
    rw [Lines.contents_mapIdx]
    intro line hline
    obtain ⟨i, hi, rfl⟩ := List.mem_mapIdx.mp hline
    exact hf i _ (Lines.isLineBreak_of_mem_contents value _ (List.getElem_mem hi))
  have hapart := Lines.stayApart_ofText value
  rw [rewritesLines_iff, mapLines, Lines.ofText_toText_iff hfree, Lines.StayApart,
    Lines.endings_mapIdx, Lines.contents_mapIdx]
  constructor
  · intro h i line hcr hline hlf _ hempty
    refine h i hcr ?_ hlf
    rw [List.getElem?_mapIdx, hline, Option.map_some, hempty]
  · intro h i hcr hline hlf
    rw [List.getElem?_mapIdx, Option.map_eq_some_iff] at hline
    obtain ⟨line, hline, hempty⟩ := hline
    refine h i line hcr hline hlf ?_ hempty
    rintro rfl
    exact hapart i hcr hline hlf

/-- What is done to lines that were rewritten is done to each of them. -/
theorem mapLines_mapLines (hf : Lines.Keeps f) (g : Nat → List Char → List Char)
    (text : List Char) :
    mapLines g (mapLines f text) = mapLines (fun i line => g i (f i line)) text := by
  rw [mapLines, Lines.ofText_mapLines hf, Lines.mapIdx_mapIdx]
  rfl

/-- **Rewriting is undone** line by line. -/
theorem mapLines_cancel (hf : Lines.Keeps f) (hg : ∀ i line, g i (f i line) = line)
    (text : List Char) : mapLines g (mapLines f text) = text := by
  rw [mapLines_mapLines hf]
  simp only [hg]
  unfold mapLines
  rw [Lines.mapIdx_self, Lines.toText_ofText]

end Rewriting

end MarkdownWriter.Text
