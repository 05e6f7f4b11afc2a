import MarkdownWriter.Text.Lines
import Mathlib.Tactic.Common

/-!
# Rows of a text

To a rule about the start of a line every `\r` and every `\n` starts one, even if the two are one
line ending. The rows of a text are what stands between these characters; there is an empty one in
every `\r\n`.

* **Cuts.** Everything about rows follows from two facts: a text is cut at any of its line breaks
  (`rows_append_cons`), and every cut of its rows is one at a line break
  (`exists_append_of_rows_eq_append`). There is one row more than there are line breaks
  (`length_rows`).
* **Breaks with what is around them** (`BreakIn`). A statement about some line break of a text, in
  terms of what stands before and behind it, is settled part by part (`breakIn_append`) and can be
  computed (`anyBreak`, `anyBreak_iff`).
* **Rows and places** (`exists_rows_eq_of_cut`, `exists_cut_of_rows_eq`): a row stands between two
  neighbouring line breaks, those that are put around the text included.
-/

namespace MarkdownWriter.Text

/-- The two characters that end lines. -/
theorem isLineBreak_iff {c : Char} : isLineBreak c = true ↔ c = '\n' ∨ c = '\r' := by
  simp [isLineBreak]

/-- A run of a character that ends no line ends none. -/
theorem isLineBreak_of_mem_replicate {c : Char} (hc : isLineBreak c = false) (count : Nat) :
    ∀ d ∈ List.replicate count c, isLineBreak d = false := by
  intro d hd
  rwa [List.eq_of_mem_replicate hd]

/-- The rows of a text. -/
def rows (text : List Char) : List (List Char) :=
  text.splitOnP isLineBreak

/-- Even the empty text has a row. -/
theorem rows_ne_nil (text : List Char) : rows text ≠ [] :=
  List.splitOnP_ne_nil isLineBreak text

/-- The rows before a line break and those behind it. -/
theorem rows_append_cons {b : Char} (hb : isLineBreak b = true) (front back : List Char) :
    rows (front ++ b :: back) = rows front ++ rows back :=
  List.splitOnP_append_cons front back hb

/-- A text without line breaks is one row. -/
theorem rows_eq_singleton {text : List Char} (h : ∀ c ∈ text, isLineBreak c = false) :
    rows text = [text] :=
  List.splitOnP_eq_singleton h

/-- What is taken while a property holds ends at the first place where it does not. -/
theorem takeWhile_append_cons {α : Type} {p : α → Bool} {c : α} (hc : p c = false)
    (front back : List α) : (front ++ c :: back).takeWhile p = front.takeWhile p := by
  rw [List.takeWhile_append, List.takeWhile_cons_of_neg (by simp [hc]), List.append_nil]
  split
  · next hall => exact ((List.takeWhile_prefix p).eq_of_length hall).symm
  · rfl

/-- A character begins a row of its own behind a line break, or is put in front of the first one. -/
theorem rows_cons (c : Char) (text : List Char) :
    rows (c :: text) = if isLineBreak c = true then [] :: rows text else (rows text).modifyHead
      (List.cons c) :=
  List.splitOnP_cons_eq_if_modifyHead c text

/-- A text without line breaks goes into the first row of what it stands in front of. -/
theorem rows_append {row : List Char} (h : ∀ c ∈ row, isLineBreak c = false) (back : List Char) :
    rows (row ++ back) = (rows back).modifyHead (row ++ ·) := by
  induction row with
  | nil => exact (congrFun List.modifyHead_id (rows back)).symm
  | cons c row ih =>
      have hc : ¬ isLineBreak c = true := by simp [h c List.mem_cons_self]
      rw [List.cons_append, rows_cons, if_neg hc, ih fun d hd => h d (List.mem_cons_of_mem c hd),
        List.modifyHead_modifyHead]
      rfl

/-- There is one row more than there are line breaks. -/
theorem length_rows (text : List Char) : (rows text).length = text.countP isLineBreak + 1 := by
  induction text with
  | nil => rfl
  | cons c text ih =>
      rw [rows_cons, List.countP_cons]
      split
      · rw [List.length_cons, ih]
      · rw [List.length_modifyHead, ih, Nat.add_zero]

/-- The number of the row that a place of a text is in, from zero. -/
def rowAt (text : List Char) (place : Nat) : Nat :=
  (text.take place).countP isLineBreak

/-- Rows are cut at a line break. -/
theorem exists_append_of_rows_eq_append {text : List Char} {front back : List (List Char)}
    (h : rows text = front ++ back) (hfront : front ≠ []) (hback : back ≠ []) :
    ∃ before b after, text = before ++ b :: after ∧ isLineBreak b = true ∧ rows before = front ∧
      rows after = back := by
  induction text generalizing front with
  | nil =>
      have hlength := congrArg List.length h
      rw [List.length_append] at hlength
      have := List.length_pos_iff.mpr hfront
      have := List.length_pos_iff.mpr hback
      change 1 = _ at hlength
      omega
  | cons c text ih =>
      obtain ⟨row, front, rfl⟩ := List.exists_cons_of_ne_nil hfront
      rw [rows_cons] at h
      split at h
      · next hc =>
          obtain ⟨rfl, htail⟩ := List.cons.inj h
          cases front with
          | nil => exact ⟨[], c, text, rfl, hc, rfl, htail⟩
          | cons row front =>
              obtain ⟨before, b, after, rfl, hb, hbefore, hafter⟩ :=
                ih htail (List.cons_ne_nil row front)
              exact ⟨c :: before, b, after, rfl, hb, by rw [rows_cons, if_pos hc, hbefore], hafter⟩
      · next hc =>
          obtain ⟨first, others, hrows⟩ := List.exists_cons_of_ne_nil (rows_ne_nil text)
          rw [hrows, List.modifyHead_cons] at h
          obtain ⟨rfl, htail⟩ := List.cons.inj h
          have hcut : rows text = (first :: front) ++ back := by
            rw [hrows, htail]
            rfl
          obtain ⟨before, b, after, rfl, hb, hbefore, hafter⟩ :=
            ih hcut (List.cons_ne_nil first front)
          exact ⟨c :: before, b, after, rfl, hb,
            by rw [rows_cons, if_neg hc, hbefore, List.modifyHead_cons], hafter⟩

/-- A text of one row is that row. -/
theorem eq_of_rows_eq_singleton {text row : List Char} (h : rows text = [row]) :
    text = row ∧ ∀ c ∈ text, isLineBreak c = false := by
  have hall : ∀ c ∈ text, isLineBreak c = false := by
    intro c hc
    by_contra hbreak
    obtain ⟨front, back, rfl⟩ := List.append_of_mem hc
    rw [rows_append_cons (by simpa using hbreak)] at h
    have hlength := congrArg List.length h
    rw [List.length_append, List.length_singleton] at hlength
    have := List.length_pos_iff.mpr (rows_ne_nil front)
    have := List.length_pos_iff.mpr (rows_ne_nil back)
    omega
  rw [rows_eq_singleton hall] at h
  exact ⟨(List.cons.inj h).1, hall⟩

/-- The first line break of a text. -/
theorem exists_first_lineBreak {text : List Char} (h : ∃ c ∈ text, isLineBreak c = true) :
    ∃ row b rest, text = row ++ b :: rest ∧ isLineBreak b = true ∧
      ∀ c ∈ row, isLineBreak c = false := by
  induction text with
  | nil =>
      obtain ⟨c, hc, -⟩ := h
      contradiction
  | cons c text ih =>
      by_cases hc : isLineBreak c = true
      · exact ⟨[], c, text, rfl, hc, fun d hd => absurd hd List.not_mem_nil⟩
      · obtain ⟨d, hd, hbreak⟩ := h
        have hd : d ∈ text := by
          rcases List.mem_cons.mp hd with rfl | hd
          · contradiction
          · exact hd
        obtain ⟨row, b, rest, rfl, hb, hrow⟩ := ih ⟨d, hd, hbreak⟩
        exact ⟨c :: row, b, rest, rfl, hb, List.forall_mem_cons.mpr ⟨by simpa using hc, hrow⟩⟩

/-- The last line break of a text. -/
theorem exists_last_lineBreak {text : List Char} (h : ∃ c ∈ text, isLineBreak c = true) :
    ∃ front b row, text = front ++ b :: row ∧ isLineBreak b = true ∧
      ∀ c ∈ row, isLineBreak c = false := by
  obtain ⟨c, hc, hbreak⟩ := h
  obtain ⟨row, b, rest, hreverse, hb, hrow⟩ :=
    exists_first_lineBreak ⟨c, List.mem_reverse.mpr hc, hbreak⟩
  refine ⟨rest.reverse, b, row.reverse, ?_, hb, fun d hd => hrow d (List.mem_reverse.mp hd)⟩
  rw [← List.reverse_reverse text, hreverse]
  simp

/-- A text has only one last line break. -/
theorem eq_of_append_lineBreak {front front' row row' : List Char} {b b' : Char}
    (hb : isLineBreak b = true) (hb' : isLineBreak b' = true)
    (hrow : ∀ c ∈ row, isLineBreak c = false) (hrow' : ∀ c ∈ row', isLineBreak c = false)
    (h : front ++ b :: row = front' ++ b' :: row') :
    front = front' ∧ b = b' ∧ row = row' := by
  have hrows := congrArg rows h
  rw [rows_append_cons hb, rows_append_cons hb', rows_eq_singleton hrow,
    rows_eq_singleton hrow'] at hrows
  obtain ⟨-, hlast⟩ := List.append_inj' hrows rfl
  obtain ⟨rfl, -⟩ := List.cons.inj hlast
  obtain ⟨rfl, hback⟩ := List.append_inj' h rfl
  exact ⟨rfl, (List.cons.inj hback).1, rfl⟩

/-! ## Line breaks of a part -/

/-- There is a line break in `text`, where `behind` stands behind the text, that has the property
`P` with what is in front of it and with what follows. -/
def BreakIn (P : List Char → Char → List Char → Prop) (text behind : List Char) : Prop :=
  ∃ pre b rest, text = pre ++ b :: rest ∧ isLineBreak b = true ∧ P pre b (rest ++ behind)

section breaks

variable {P Q : List Char → Char → List Char → Prop} {front back behind : List Char}

/-- **Part by part.** A line break is in one part of a text or in the other. -/
theorem breakIn_append :
    BreakIn P (front ++ back) behind ↔
      BreakIn P front (back ++ behind) ∨ BreakIn (fun pre => P (front ++ pre)) back behind := by
  constructor
  · rintro ⟨pre, b, rest, htext, hb, hP⟩
    rcases List.append_eq_append_iff.mp htext with ⟨more, rfl, hmore⟩ | ⟨more, rfl, hmore⟩
    · exact .inr ⟨more, b, rest, hmore, hb, hP⟩
    · cases more with
      | nil => exact .inr ⟨[], b, rest, hmore.symm, hb, by simpa using hP⟩
      | cons c more =>
          obtain ⟨rfl, rfl⟩ := List.cons.inj hmore
          exact .inl ⟨pre, b, more, rfl, hb, by rwa [← List.append_assoc]⟩
  · rintro (⟨pre, b, rest, rfl, hb, hP⟩ | ⟨pre, b, rest, rfl, hb, hP⟩)
    · exact ⟨pre, b, rest ++ back, by simp, hb, by rwa [List.append_assoc]⟩
    · exact ⟨front ++ pre, b, rest, by simp, hb, hP⟩

/-- The one character of a text is the only one that can be a line break of it. -/
theorem breakIn_singleton {b : Char} : BreakIn P [b] behind ↔ isLineBreak b = true ∧
    P [] b behind := by
  constructor
  · rintro ⟨pre, c, rest, htext, hb, hP⟩
    obtain ⟨rfl, hrest⟩ | ⟨-, h⟩ := List.append_eq_singleton_iff.mp htext.symm
    · obtain ⟨rfl, rfl⟩ := List.cons.inj hrest
      exact ⟨hb, hP⟩
    · contradiction
  · rintro ⟨hb, hP⟩
    exact ⟨[], b, [], rfl, hb, hP⟩

/-- A line break is the first character of a text or behind it. -/
theorem breakIn_cons {b : Char} :
    BreakIn P (b :: back) behind ↔
      (isLineBreak b = true ∧ P [] b (back ++ behind)) ∨
        BreakIn (fun pre => P (b :: pre)) back behind := by
  rw [← List.singleton_append, breakIn_append, breakIn_singleton]
  rfl

/-- There is none without line breaks. -/
theorem not_breakIn_of_free (h : ∀ c ∈ front, isLineBreak c = false) :
    ¬ BreakIn P front behind := by
  rintro ⟨pre, b, rest, rfl, hb, -⟩
  rw [h b (List.mem_append_right pre List.mem_cons_self)] at hb
  contradiction

/-- A row in front holds none, but it is in front of all that follow. -/
theorem breakIn_append_of_free (h : ∀ c ∈ front, isLineBreak c = false) :
    BreakIn P (front ++ back) behind ↔ BreakIn (fun pre => P (front ++ pre)) back behind := by
  rw [breakIn_append]
  exact or_iff_right (not_breakIn_of_free h)

/-- Properties that agree at every line break of a text. -/
theorem breakIn_congr {text behind' : List Char}
    (h : ∀ {pre b rest}, text = pre ++ b :: rest → isLineBreak b = true →
      (P pre b (rest ++ behind) ↔ Q pre b (rest ++ behind'))) : BreakIn P text behind ↔
        BreakIn Q text behind' := by
  constructor
  · rintro ⟨pre, b, rest, htext, hb, hP⟩
    exact ⟨pre, b, rest, htext, hb, (h htext hb).mp hP⟩
  · rintro ⟨pre, b, rest, htext, hb, hQ⟩
    exact ⟨pre, b, rest, htext, hb, (h htext hb).mpr hQ⟩

end breaks

/-- Whether a line break of a text behind `above` has a property that can be computed. -/
def anyBreak (p : List Char → Char → List Char → Bool) (above : List Char) : List Char → Bool
  | [] => false
  | b :: rest => (isLineBreak b && p above b rest) || anyBreak p (above ++ [b]) rest

/-- What is computed, as a statement about the line breaks of the text. -/
theorem anyBreak_iff {p : List Char → Char → List Char → Bool} {above text : List Char} :
    anyBreak p above text = true ↔
      BreakIn (fun pre b rest => p (above ++ pre) b rest = true) text [] := by
  induction text generalizing above with
  | nil => exact iff_of_false Bool.false_ne_true (not_breakIn_of_free (by simp))
  | cons b rest ih =>
      rw [anyBreak, Bool.or_eq_true, Bool.and_eq_true, ih, breakIn_cons]
      simp only [List.append_nil, List.append_assoc, List.singleton_append]

/-! ## Texts on lines of their own -/

/-- A text on lines of its own has an empty row before and behind. -/
theorem rows_ownLines (text : List Char) :
    rows ('\n' :: (text ++ ['\n'])) = [] :: (rows text ++ [[]]) := by
  rw [rows_cons, rows_append_cons rfl]
  rfl

/-- What stands between two neighbouring line breaks around or in a text is a row of the text, and
the rows above it are those that end before the first of the two. -/
theorem exists_rows_eq_of_cut {text pre row post : List Char} {b b' : Char}
    (hb : isLineBreak b = true) (hb' : isLineBreak b' = true)
    (hrow : ∀ c ∈ row, isLineBreak c = false)
    (h : '\n' :: (text ++ ['\n']) = pre ++ b :: (row ++ b' :: post)) :
    ∃ below, rows text = (rows pre).tail ++ row :: below := by
  have hrows := congrArg rows h
  rw [rows_ownLines, rows_append_cons hb, rows_append_cons hb', rows_eq_singleton hrow] at hrows
  obtain ⟨first, above, hpre⟩ := List.exists_cons_of_ne_nil (rows_ne_nil pre)
  obtain ⟨below, last, hpost⟩ := (List.eq_nil_or_concat (rows post)).resolve_left (rows_ne_nil post)
  rw [hpre, hpost, List.concat_eq_append, List.cons_append] at hrows
  refine ⟨below, ?_⟩
  have htail : rows text ++ [[]] = (above ++ row :: below) ++ [last] := by
    rw [(List.cons.inj hrows).2]
    simp
  rw [hpre, List.tail_cons]
  exact (List.append_inj' htail rfl).1

/-- A row of a text stands between two line breaks around or in the text. -/
theorem exists_cut_of_rows_eq {text row : List Char} {above below : List (List Char)}
    (h : rows text = above ++ row :: below) :
    ∃ pre b b' post, '\n' :: (text ++ ['\n']) = pre ++ b :: (row ++ b' :: post) ∧
      isLineBreak b = true ∧ isLineBreak b' = true ∧ (rows pre).tail = above ∧
      ∀ c ∈ row, isLineBreak c = false := by
  have hrows : rows ('\n' :: (text ++ ['\n'])) = ([] :: above) ++ (row :: (below ++ [[]])) := by
    rw [rows_ownLines, h]
    simp
  obtain ⟨pre, b, rest, htext, hb, hpre, hrest⟩ :=
    exists_append_of_rows_eq_append hrows (List.cons_ne_nil [] above) (List.cons_ne_nil row _)
  rw [← List.singleton_append] at hrest
  obtain ⟨middle, b', post, rfl, hb', hmiddle, -⟩ := exists_append_of_rows_eq_append hrest
    (List.cons_ne_nil row []) (List.append_ne_nil_of_right_ne_nil below (List.cons_ne_nil [] []))
  obtain ⟨rfl, hrow⟩ := eq_of_rows_eq_singleton hmiddle
  exact ⟨pre, b, b', post, htext, hb, hb', by rw [hpre, List.tail_cons], hrow⟩

end MarkdownWriter.Text
