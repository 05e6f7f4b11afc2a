import MarkdownWriter.Text.Lines
import MarkdownWriter.Proofs.Text.Lines

/-!
# Where texts stand

A text that goes into a container is written first and gets the margins of the container afterwards,
row by row. What is said about the position of its first character has to count these margins in.
`Stands` says of the rows of a text that other texts stand in them, each with its rows behind
margins, and its first character where its position says.

* **Margins that are put in front of rows** move what stands in them (`Stands.prefixed`); blank rows
  may get others, as no text begins in one.
* **Rows below** go on where the rows above end (`Stands.append`), and so does a position
  (`Position.advance_concat`).

All this is for texts without `\r`, where rows and lines are the same (`rows_eq_ofText`).
-/

namespace MarkdownWriter

namespace Text

/-! ## Rows and lines -/

/-- Without `\r` rows are lines. -/
theorem rows_eq_ofText {text : List Char} (h : '\r' ∉ text) :
    rows text = (Lines.ofText text).first :: (Lines.ofText text).rest.map Prod.snd := by
  fun_induction Lines.ofText text with
  | case1 => rfl
  | case2 text ih => exact absurd List.mem_cons_self h
  | case3 text _ ih => exact absurd List.mem_cons_self h
  | case4 text _ _ ih =>
      have hlf : isLineBreak '\n' = true := rfl
      rw [rows_cons, if_pos hlf, ih (List.not_mem_of_not_mem_cons h)]
      rfl
  | case5 c text _ hcr hlf ih =>
      have hc : ¬ isLineBreak c = true := by simp [isLineBreak, hcr, hlf]
      rw [rows_cons, if_neg hc, ih (List.not_mem_of_not_mem_cons h)]
      rfl

/-- Without carriage returns every line break is a line ending. -/
theorem breaks_eq_countP {text : List Char} (h : '\r' ∉ text) :
    (Lines.ofText text).breaks = text.countP isLineBreak := by
  have hlength := congrArg List.length (rows_eq_ofText h)
  rw [length_rows, List.length_cons, List.length_map] at hlength
  exact (Nat.succ.inj hlength).symm

/-- The last row is the last line then. -/
theorem getLast?_rows {text : List Char} (h : '\r' ∉ text) :
    (rows text).getLast? = some (Lines.ofText text).last := by
  rw [rows_eq_ofText h]
  unfold Lines.last
  rcases List.eq_nil_or_concat (Lines.ofText text).rest with hrest | ⟨others, last, hrest⟩
  · rw [hrest]
    rfl
  · rw [hrest, List.concat_eq_append, List.getLast?_concat, List.map_append, List.map_singleton,
      ← List.cons_append, List.getLast?_concat]

/-- Behind a line feed the last line is empty. -/
theorem last_ofText_concat {text : List Char} (h : '\r' ∉ text) :
    (Lines.ofText (text ++ ['\n'])).last = [] := by
  have hlast := @getLast?_rows (text ++ ['\n']) (by simpa using h)
  rw [rows_append_cons rfl, show rows [] = [[]] from rfl, List.getLast?_concat] at hlast
  exact (Option.some.inj hlast).symm

/-- A text that is one row is mapped as a row. -/
theorem mapLines_of_free {row : List Char} (h : ∀ c ∈ row, isLineBreak c = false)
    (f : Nat → List Char → List Char) : mapLines f row = f 0 row := by
  have hrow := Lines.ofText_append h []
  rw [List.append_nil] at hrow
  unfold mapLines
  rw [hrow]
  simp [Lines.mapIdx, Lines.toText, Lines.ofText]

/-- The first line is rewritten, and the others with indexes that are one higher. -/
theorem mapLines_append_cons {row : List Char} (h : ∀ c ∈ row, isLineBreak c = false)
    (f : Nat → List Char → List Char) (text : List Char) :
    mapLines f (row ++ '\n' :: text) = f 0 row ++ '\n' :: mapLines (fun i => f (i + 1)) text := by
  unfold mapLines
  rw [Lines.ofText_append h]
  simp [Lines.ofText, Lines.openLine, Lines.mapIdx, Lines.toText, LineEnding.toText,
    List.mapIdx_cons]

end Text

open Text

/-! ## Margins -/

/-- A map of rows that puts a margin in front of each, and one of the given width unless the row is
blank. -/
def IsMargin (width : Nat) (f : Nat → List Char → List Char) : Prop :=
  ∀ i row, ∃ margin, f i row = margin ++ row ∧ (∀ c ∈ margin, isLineBreak c = false) ∧
    (row ≠ [] → margin.length = width)

/-- A margin is one from any line on. -/
theorem IsMargin.shift {width : Nat} {f : Nat → List Char → List Char} (hf : IsMargin width f)
    (n : Nat) : IsMargin width fun i => f (i + n) :=
  fun i => hf (i + n)

/-- Margins are put in front of rows. -/
theorem IsMargin.rows_mapLines {width : Nat} {f : Nat → List Char → List Char}
    (hf : IsMargin width f) {text : List Char} (h : '\r' ∉ text) :
    rows (mapLines f text) = (rows text).mapIdx f ∧ '\r' ∉ mapLines f text := by
  have hfree : ∀ {f : Nat → List Char → List Char}, IsMargin width f → ∀ {row : List Char},
      (∀ c ∈ row, isLineBreak c = false) → ∀ c ∈ f 0 row, isLineBreak c = false := by
    intro f hf row hrow
    obtain ⟨margin, heq, hmargin, -⟩ := hf 0 row
    rw [heq]
    exact List.forall_mem_append.mpr ⟨hmargin, hrow⟩
  have hcr : ∀ {row : List Char}, (∀ c ∈ row, isLineBreak c = false) → '\r' ∉ row :=
    fun hrow hmem => absurd (hrow _ hmem) (by decide)
  induction hlength : text.length using Nat.strongRecOn generalizing text f with
  | ind n ih =>
      subst hlength
      by_cases hbreak : ∃ c ∈ text, isLineBreak c = true
      · obtain ⟨row, b, rest, rfl, hb, hrow⟩ := exists_first_lineBreak hbreak
        obtain rfl : b = '\n' := by
          rcases isLineBreak_iff.mp hb with rfl | rfl
          · rfl
          · exact absurd (List.mem_append_right row List.mem_cons_self) h
        have hrest : '\r' ∉ rest :=
          fun hmem => h (List.mem_append_right row (List.mem_cons_of_mem _ hmem))
        obtain ⟨hrows, hnone⟩ := ih rest.length (by simp; omega) (hf.shift 1) hrest rfl
        rw [mapLines_append_cons hrow, rows_append_cons rfl, rows_append_cons rfl,
          rows_eq_singleton hrow, rows_eq_singleton (hfree hf hrow), hrows]
        refine ⟨by simp [List.mapIdx_cons], ?_⟩
        simpa using ⟨hcr (hfree hf hrow), hnone⟩
      · have hrow : ∀ c ∈ text, isLineBreak c = false := by simpa using hbreak
        rw [mapLines_of_free hrow, rows_eq_singleton hrow, rows_eq_singleton (hfree hf hrow)]
        exact ⟨rfl, hcr (hfree hf hrow)⟩

/-! ## Positions -/

namespace Position

variable {position : Position} {text : List Char}

@[simp] theorem lineShift_advance (position : Position) (text : List Char) :
    (position.advance text).lineShift = position.lineShift := by
  unfold advance
  dsimp only
  split <;> rfl

/-- The line goes up by the line breaks of the text. -/
theorem line_advance (h : '\r' ∉ text) :
    (position.advance text).line = position.line + text.countP isLineBreak := by
  unfold advance
  dsimp only
  rw [breaks_eq_countP h]
  split
  · next hzero => rw [hzero, Nat.add_zero]
  · rfl

/-- A text of one row moves the column. -/
theorem advance_of_free (h : ∀ c ∈ text, isLineBreak c = false) :
    position.advance text = { position with column := position.column + text.length } := by
  have hcr : '\r' ∉ text := fun hmem => absurd (h _ hmem) (by decide)
  have hzero : text.countP isLineBreak = 0 := List.countP_eq_zero.mpr fun c hc => by simp [h c hc]
  unfold advance
  dsimp only
  rw [breaks_eq_countP hcr, if_pos hzero]

/-- A text that ends a line moves on to the next one, as far right as lines are shifted. -/
theorem advance_concat (h : '\r' ∉ text) :
    position.advance (text ++ ['\n']) =
      ⟨position.line + (text.countP isLineBreak + 1), position.lineShift + 1,
        position.lineShift⟩ := by
  have hcr : '\r' ∉ text ++ ['\n'] := by simpa using h
  have hcount : (text ++ ['\n']).countP isLineBreak = text.countP isLineBreak + 1 := by
    rw [List.countP_append]
    rfl
  unfold advance
  dsimp only
  rw [breaks_eq_countP hcr, hcount, if_neg (Nat.succ_ne_zero _), last_ofText_concat h]
  simp [Nat.add_comm]

end Position

/-! ## Texts in rows -/

/-- A text, and the position that it is said to begin at. -/
structure Placed where
  position : Position
  text : List Char

/-- The rows of which the first one begins in the given line and column, and the others behind
`left` columns, hold the given texts one after the other. Every row of a text stands behind a
margin, at the end of a row, and its first character is where its position says. -/
inductive Stands (left : Nat) : Nat → Nat → List (List Char) → List Placed → Prop where
  | nil {line column : Nat} {below : List (List Char)} : Stands left line column below []
  | down {line column : Nat} {row : List Char} {below : List (List Char)} {placed : List Placed}
      (h : Stands left (line + 1) (left + 1) below placed) :
        Stands left line column (row :: below) placed
  | here {line column : Nat} {margin : List Char} {margins below : List (List Char)}
    {first : Placed}
      {others : List Placed} (hlength : margins.length + 1 = (rows first.text).length)
      (hline : first.position.line = line)
        (hcolumn : first.position.column = column + margin.length)
      (h : Stands left (line + (margins.length + 1)) (left + 1) below others) :
      Stands left line column (List.zipWith (· ++ ·) (margin :: margins) (rows first.text) ++ below)
        (first :: others)

namespace Stands

variable {left line column : Nat} {above below : List (List Char)} {placed placed' : List Placed}

/-- A text stands in its own rows. -/
theorem single (position : Position) (text : List Char) :
    Stands position.lineShift position.line position.column (rows text) [⟨position, text⟩] := by
  obtain ⟨first, others, hrows⟩ := List.exists_cons_of_ne_nil (rows_ne_nil text)
  have hothers : ∀ texts : List (List Char),
      List.zipWith (· ++ ·) (List.replicate texts.length []) texts = texts := by
    intro texts
    induction texts with
    | nil => rfl
    | cons row texts ih => simp [List.replicate_succ, ih]
  have hstands :=
    @here position.lineShift position.line position.column [] (List.replicate others.length []) []
    ⟨position, text⟩ [] (by rw [hrows]; simp) rfl rfl .nil
  rwa [hrows, List.zipWith_cons_cons, hothers, List.append_nil, List.nil_append, ← hrows] at hstands

/-- Rows without texts may stand above, if the first of them is there or begins where the others do.
-/
theorem skip (hne : above ≠ [] ∨ column = left + 1)
    (h : Stands left (line + above.length) (left + 1) below placed) :
    Stands left line column (above ++ below) placed := by
  induction above generalizing line column with
  | nil =>
      obtain rfl := hne.resolve_left fun h => h rfl
      exact h
  | cons row above ih =>
      refine .down (ih (.inr rfl) ?_)
      rwa [List.length_cons, Nat.add_comm above.length, ← Nat.add_assoc] at h

/-- **Rows below** go on where the rows above end. -/
theorem append (h : Stands left line column above placed) (hne : above ≠ [] ∨ column = left + 1)
    (h' : Stands left (line + above.length) (left + 1) below placed') :
    Stands left line column (above ++ below) (placed ++ placed') := by
  induction h with
  | nil => exact skip hne h'
  | @down line column row above placed _ ih =>
      refine .down (ih (.inr rfl) ?_)
      rwa [List.length_cons, Nat.add_comm above.length, ← Nat.add_assoc] at h'
  | @here line column margin margins above first others hlength hline hcolumn _ ih =>
      rw [List.append_assoc]
      refine .here hlength hline hcolumn (ih (.inr rfl) ?_)
      simpa [← hlength, Nat.add_assoc] using h'

/-- Rows that are put behind margins. -/
theorem exists_zipWith_mapIdx {width : Nat} {f : Nat → List Char → List Char}
    (hf : IsMargin width f) {margins texts : List (List Char)}
    (hlength : margins.length = texts.length) :
    ∃ margins', margins'.length = texts.length ∧
      (List.zipWith (· ++ ·) margins texts).mapIdx f = List.zipWith (· ++ ·) margins' texts := by
  induction texts generalizing margins f with
  | nil => exact ⟨[], rfl, by simp⟩
  | cons text texts ih =>
      cases margins with
      | nil => simp at hlength
      | cons margin margins =>
          obtain ⟨margins', hlength', heq⟩ := ih (hf.shift 1) (Nat.succ.inj hlength)
          obtain ⟨more, hmore, -⟩ := hf 0 (margin ++ text)
          exact ⟨(more ++ margin) :: margins', by simp [hlength'],
            by simp [List.mapIdx_cons, heq, hmore]⟩

/-- **Margins** move the texts that stand behind them, as none begins with a blank row. -/
theorem prefixed {width : Nat} {f : Nat → List Char → List Char} (hf : IsMargin width f)
    (h : Stands (left + width) line (column + width) below placed)
    (htexts : ∀ place ∈ placed, (rows place.text).head? ≠ some []) :
    Stands left line column (below.mapIdx f) placed := by
  generalize hcolumn : column + width = shifted at h
  induction h generalizing column f with
  | nil => exact .nil
  | @down line column' row below placed _ ih =>
      rw [List.mapIdx_cons]
      exact .down (ih (hf.shift 1) htexts (by omega))
  | @here line column' margin margins below first others hlength hline hfirst _ ih =>
      obtain ⟨row, texts, hrows⟩ := List.exists_cons_of_ne_nil (rows_ne_nil first.text)
      have hrow : row ≠ [] := by
        rintro rfl
        exact htexts first List.mem_cons_self (by rw [hrows]; rfl)
      obtain ⟨more, hmore, -, hwidth⟩ := hf 0 (margin ++ row)
      have hmargins : margins.length = texts.length := by
        rw [hrows, List.length_cons] at hlength
        exact Nat.succ.inj hlength
      obtain ⟨margins', hlength', heq⟩ := exists_zipWith_mapIdx (hf.shift 1) hmargins
      have hbelow := @ih (left + 1) _ (hf.shift (margins.length + 1))
        (fun place hmem => htexts place (List.mem_cons_of_mem first hmem)) (by omega)
      have hcolumn' : first.position.column = column + (more ++ margin).length := by
        rw [List.length_append, hwidth (List.append_ne_nil_of_right_ne_nil margin hrow)]
        omega
      rw [← hmargins] at hlength'
      rw [← hlength'] at hbelow
      have hstands :=
        here (by rw [hrows, hlength', hmargins, List.length_cons]) hline hcolumn' hbelow
      have hlength'' :
          (List.zipWith (· ++ ·) (margin :: margins) (row :: texts)).length =
            margins'.length + 1 := by
        simp [hmargins, hlength']
      rw [hrows] at hstands ⊢
      rw [List.mapIdx_append, hlength'', List.zipWith_cons_cons, List.mapIdx_cons, hmore, heq,
        ← List.append_assoc more]
      exact hstands

/-- Texts that follow each other are kept apart by line endings and what is between these. -/
theorem separated {position : Position} {text middle more : List Char} (htext : '\r' ∉ text)
    (hmiddle : '\r' ∉ middle) (hfirst : middle = [] ∨ ∃ rest, middle = '\n' :: rest)
    (h : Stands position.lineShift position.line position.column (rows text) placed)
    (h' : Stands position.lineShift ((position.advance text).advance (middle ++ ['\n'])).line
      ((position.advance text).advance (middle ++ ['\n'])).column (rows more) placed') :
    Stands position.lineShift position.line position.column
      (rows (text ++ (middle ++ ['\n']) ++ more)) (placed ++ placed') := by
  -- What is between the line endings is skipped.
  have habove :
      Stands position.lineShift position.line position.column (rows (text ++ middle)) placed := by
    rcases hfirst with rfl | ⟨rest, rfl⟩
    · rwa [List.append_nil]
    · have hskip := h.append (.inl (rows_ne_nil text)) (@nil _ _ _ (rows rest))
      rwa [List.append_nil, ← rows_append_cons (show isLineBreak '\n' = true from rfl)] at hskip
  rw [Position.advance_concat hmiddle, Position.lineShift_advance,
    Position.line_advance htext] at h'
  rw [show text ++ (middle ++ ['\n']) ++ more = (text ++ middle) ++ '\n' :: more by simp,
    rows_append_cons rfl]
  refine habove.append (.inl (rows_ne_nil _)) ?_
  rwa [length_rows, List.countP_append, Nat.add_assoc (List.countP _ text),
    ← Nat.add_assoc position.line]

/-- A text begins where its position says. -/
theorem exists_row (h : Stands left line column below placed) (hcolumn : column = left + 1)
    {place : Placed} (hplace : place ∈ placed) :
    ∃ above margin first rest, below = above ++ (margin ++ first) :: rest ∧
      (rows place.text).head? = some first ∧ place.position.line = line + above.length ∧
      place.position.column = left + 1 + margin.length := by
  induction h with
  | nil => contradiction
  | @down line column row below placed _ ih =>
      obtain ⟨above, margin, first, rest, rfl, hfirst, hline, hplaced⟩ := ih rfl hplace
      exact ⟨row :: above, margin, first, rest, rfl, hfirst, by rw [hline, List.length_cons]; omega,
        hplaced⟩
  | @here line column margin margins below head others hlength hline hhead _ ih =>
      obtain ⟨first, texts, hrows⟩ := List.exists_cons_of_ne_nil (rows_ne_nil head.text)
      rcases List.mem_cons.mp hplace with rfl | hplace
      · refine ⟨[], margin, first, List.zipWith (· ++ ·) margins texts ++ below, ?_,
          by rw [hrows]; rfl, hline, ?_⟩
        · rw [hrows]
          rfl
        · rw [hhead, hcolumn]
      · obtain ⟨above, margin', first', rest, rfl, hfirst, hline', hplaced⟩ := ih rfl hplace
        refine ⟨List.zipWith (· ++ ·) (margin :: margins) (rows head.text) ++ above, margin',
          first', rest, (List.append_assoc ..).symm, hfirst, ?_, hplaced⟩
        rw [hline', List.length_append, List.length_zipWith, ← hlength, List.length_cons,
          Nat.min_self]
        omega

end Stands

end MarkdownWriter
