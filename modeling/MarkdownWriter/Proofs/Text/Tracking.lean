import MarkdownWriter.Text.Lines
import MarkdownWriter.Proofs.Text.EdgeLines
import Mathlib.Algebra.GroupWithZero.Nat
import Mathlib.Data.List.Chain

/-!
# Positions behind texts that come in pieces

A position is moved past every piece of text that is written, and pieces may end anywhere. It comes
out where moving it past the whole text at once would put it, exactly if no piece ends inside of a
line ending (`Position.advanceAll_eq_advance_iff`).

* **Line endings are counted from character to character** (`lineEndings`), not from line to line as
  a position is moved. So a cut counts one too many if it is between a `\r` and a `\n`, and
  otherwise changes nothing (`lineEndings_append`).
* **The column depends on the last row alone** (`Position.column_advance_append`), wherever the cut
  is.
* **Piece by piece** (`Position.advanceAll_eq`, `sum_lineEndings_iff`): the lines add up to those of
  the whole exactly if no ending is cut in two between a piece and the next one that is not empty
  (`KeepsEndings`).
-/

namespace MarkdownWriter

namespace Text

/-! ## Line endings -/

/-- Whether a line ending is over behind the character `c`: a `\r` goes on with a `\n` that comes
next. -/
def endsLine (c : Char) (next : Option Char) : Bool :=
  c = '\n' ∨ c = '\r' ∧ next ≠ some '\n'

/-- The number of line endings in a text. -/
def lineEndings : List Char → Nat
  | [] => 0
  | c :: text => (endsLine c text.head?).toNat + lineEndings text

/-- A line ending is cut in two between two texts. -/
def CutsEnding (front back : List Char) : Prop :=
  front.getLast? = some '\r' ∧ back.head? = some '\n'

instance (front back : List Char) : Decidable (CutsEnding front back) :=
  inferInstanceAs (Decidable (_ ∧ _))

theorem endsLine_of_free {c : Char} (hc : isLineBreak c = false) (next : Option Char) :
    endsLine c next = false := by
  have hboth : c ≠ '\n' ∧ c ≠ '\r' := by simpa [isLineBreak] using hc
  simp [endsLine, hboth]

/-- The lines of a text are one more than its line endings. -/
theorem breaks_ofText (text : List Char) : (Lines.ofText text).breaks = lineEndings text := by
  have hopen (ending : LineEnding) (lines : Lines) :
      (lines.openLine ending).breaks = 1 + lines.breaks :=
    Nat.add_comm lines.rest.length 1
  fun_induction Lines.ofText text with
  | case1 => rfl
  | case2 text ih =>
      rw [hopen, ih]
      simp [lineEndings, endsLine]
  | case3 text hnext ih =>
      have hhead : text.head? ≠ some '\n' := by
        rw [ne_eq, List.head?_eq_some_iff]
        rintro ⟨rest, rfl⟩
        exact hnext rest rfl rfl
      rw [hopen, ih]
      simp [lineEndings, endsLine, hhead]
  | case4 text _ _ ih =>
      rw [hopen, ih]
      simp [lineEndings, endsLine]
  | case5 c text _ hcr hlf ih =>
      have hc : isLineBreak c = false := by simp [isLineBreak, hcr, hlf]
      rw [lineEndings, endsLine_of_free hc, Bool.toNat_false, Nat.zero_add]
      exact ih

/-- Every text that has a line break has a line ending: the last line break is the end of one. -/
theorem lineEndings_eq_zero_iff {text : List Char} :
    lineEndings text = 0 ↔ ∀ c ∈ text, isLineBreak c = false := by
  induction text with
  | nil => simp [lineEndings]
  | cons c text ih =>
      rw [lineEndings, Nat.add_eq_zero_iff, ih, List.forall_mem_cons]
      refine and_congr_left fun hfree =>
        ⟨fun hends => ?_, fun hc => by rw [endsLine_of_free hc, Bool.toNat_false]⟩
      rw [Bool.toNat_eq_zero] at hends
      rw [← Bool.not_eq_true, isLineBreak_iff]
      rintro (rfl | rfl)
      · contradiction
      · have hnext : text.head? = some '\n' := by simpa [endsLine] using hends
        have hbreak := hfree '\n' (List.mem_of_head? hnext)
        contradiction

/-- **A cut in a line ending counts one too many.** -/
theorem lineEndings_append (front back : List Char) :
    lineEndings (front ++ back) + (if CutsEnding front back then 1 else 0) =
      lineEndings front + lineEndings back := by
  induction front with
  | nil => simp [lineEndings, CutsEnding]
  | cons c front ih =>
      cases front with
      | nil =>
          have hlast : (endsLine c back.head?).toNat + (if CutsEnding [c] back then 1 else 0) =
              (endsLine c none).toNat := by
            by_cases hcr : c = '\r'
            · subst hcr
              by_cases hnext : back.head? = some '\n' <;> simp [endsLine, CutsEnding, hnext]
            · simp [endsLine, CutsEnding, hcr]
          simp only [List.singleton_append, lineEndings, List.head?_nil]
          omega
      | cons d front =>
          have hsame : CutsEnding (c :: d :: front) back ↔ CutsEnding (d :: front) back := Iff.rfl
          simp only [hsame, List.cons_append, lineEndings, List.head?_cons] at ih ⊢
          omega

/-- No text ends inside of a line ending that the next one which is not empty goes on with. -/
def KeepsEndings (texts : List (List Char)) : Prop :=
  (texts.filter (!·.isEmpty)).IsChain fun front back => ¬ CutsEnding front back

instance (texts : List (List Char)) : Decidable (KeepsEndings texts) :=
  inferInstanceAs (Decidable (List.IsChain _ _))

/-- What begins a row of texts begins the first one that is not empty. -/
theorem cutsEnding_flatten_iff {front : List Char} {texts : List (List Char)}
    (h : ∀ text ∈ texts, text ≠ []) :
    CutsEnding front texts.flatten ↔ ∃ back ∈ texts.head?, CutsEnding front back := by
  cases texts with
  | nil => simp [CutsEnding]
  | cons text texts =>
      obtain ⟨c, text, rfl⟩ := List.exists_cons_of_ne_nil (h text List.mem_cons_self)
      simp [CutsEnding]

/-- Counted text by text there are as many line endings as in the whole exactly if none of them is
cut. -/
theorem sum_lineEndings_iff (texts : List (List Char)) :
    lineEndings texts.flatten ≤ (texts.map lineEndings).sum ∧
      ((texts.map lineEndings).sum = lineEndings texts.flatten ↔ KeepsEndings texts) := by
  induction texts with
  | nil => simp [KeepsEndings, lineEndings]
  | cons text texts ih =>
      obtain ⟨hle, hiff⟩ := ih
      have happend := lineEndings_append text texts.flatten
      rw [List.map_cons, List.sum_cons, List.flatten_cons]
      by_cases hnil : text = []
      · subst hnil
        rw [show KeepsEndings ([] :: texts) = KeepsEndings texts from rfl, ← hiff, List.nil_append]
        simp only [lineEndings, Nat.zero_add, hle, true_and]
      · have hnonempty : ∀ other ∈ texts.filter (!·.isEmpty), other ≠ [] := by simp
        have hkeeps : KeepsEndings (text :: texts) ↔ ¬ CutsEnding text texts.flatten ∧
            KeepsEndings texts := by
          unfold KeepsEndings
          rw [List.filter_cons_of_pos (by simpa using hnil), List.isChain_cons,
            ← List.flatten_filter_not_isEmpty, cutsEnding_flatten_iff hnonempty]
          simp
        rw [hkeeps, ← hiff]
        split at happend
        · next hcuts => exact ⟨by omega, ⟨fun h => by omega, fun h => absurd hcuts h.1⟩⟩
        · next hcuts => exact ⟨by omega, ⟨fun h => ⟨hcuts, by omega⟩, fun h => by omega⟩⟩

/-! ## The last row -/

/-- What stands behind the last line break. -/
theorem rtakeWhile_append_lineBreak {b : Char} {row : List Char} (hb : isLineBreak b = true)
    (hrow : ∀ c ∈ row, isLineBreak c = false) (front : List Char) :
    (front ++ b :: row).rtakeWhile (!isLineBreak ·) = row := by
  rw [rtakeWhile_append_cons (by simp [hb]), List.rtakeWhile_eq_self_iff]
  intro c hc
  rw [hrow c hc]
  rfl

end Text

open Text

namespace Position

variable (position : Position)

/-! ## Pieces -/

/-- Where a text ends. -/
theorem advance_eq (text : List Char) :
    position.advance text =
      { line := position.line + lineEndings text
        column :=
          if lineEndings text = 0 then position.column + text.length
          else 1 + (text.rtakeWhile (!isLineBreak ·)).length + position.lineShift
        lineShift := position.lineShift } := by
  unfold advance
  dsimp only
  rw [breaks_ofText, Lines.last_eq_rtakeWhile]
  split
  · next hzero => rw [hzero, Nat.add_zero]
  · rfl

/-- The column is the same, wherever the text is cut. -/
theorem column_advance_append (front back : List Char) :
    ((position.advance front).advance back).column = (position.advance (front ++ back)).column := by
  have hfree {text : List Char} (h : ∀ c ∈ text, isLineBreak c = false) : lineEndings text = 0 :=
    lineEndings_eq_zero_iff.mpr h
  have hbreak {text more : List Char} {b : Char} (hb : isLineBreak b = true) :
      lineEndings (text ++ b :: more) ≠ 0 := by
    rw [ne_eq, lineEndings_eq_zero_iff]
    intro h
    rw [h b (List.mem_append_right text List.mem_cons_self)] at hb
    contradiction
  simp only [advance_eq]
  by_cases hback : ∃ c ∈ back, isLineBreak c = true
  · obtain ⟨more, b, row, rfl, hb, hrow⟩ := exists_last_lineBreak hback
    rw [← List.append_assoc, if_neg (hbreak hb), if_neg (hbreak hb),
      rtakeWhile_append_lineBreak hb hrow, rtakeWhile_append_lineBreak hb hrow]
  · have hback : ∀ c ∈ back, isLineBreak c = false := by simpa using hback
    rw [if_pos (hfree hback)]
    by_cases hfront : ∃ c ∈ front, isLineBreak c = true
    · obtain ⟨more, b, row, rfl, hb, hrow⟩ := exists_last_lineBreak hfront
      rw [List.append_assoc, List.cons_append, if_neg (hbreak hb), if_neg (hbreak hb),
        rtakeWhile_append_lineBreak hb hrow,
        rtakeWhile_append_lineBreak hb (List.forall_mem_append.mpr ⟨hrow, hback⟩),
        List.length_append]
      omega
    · have hfront : ∀ c ∈ front, isLineBreak c = false := by simpa using hfront
      rw [if_pos (hfree hfront), if_pos (hfree (List.forall_mem_append.mpr ⟨hfront, hback⟩)),
        List.length_append, Nat.add_assoc]

/-- Piece by piece the line endings of every piece are counted, and the column is that of the whole
text. -/
theorem advanceAll_eq (texts : List (List Char)) :
    position.advanceAll texts =
      { line := position.line + (texts.map lineEndings).sum
        column := (position.advance texts.flatten).column
        lineShift := position.lineShift } := by
  induction texts generalizing position with
  | nil => simp [advanceAll, advance_eq, lineEndings]
  | cons text texts ih =>
      have hcons : position.advanceAll (text :: texts) = (position.advance text).advanceAll texts :=
        rfl
      rw [hcons, ih, column_advance_append, List.flatten_cons, List.map_cons, List.sum_cons]
      simp only [advance_eq, Nat.add_assoc]

/-- **Text may come in any pieces that keep its line endings whole**, and in no others: moved past
the pieces one by one, a position comes out behind the whole text. That is as many lines on as the
text has line endings; the column is counted on from the first one as long as there are none, and
else from the last one, behind the shift of the lines. -/
theorem advanceAll_eq_advance_iff (texts : List (List Char)) :
    (position.advanceAll texts = position.advance texts.flatten ↔ KeepsEndings texts) ∧
      position.advance texts.flatten =
        { line := position.line + lineEndings texts.flatten
          column :=
            if lineEndings texts.flatten = 0 then position.column + texts.flatten.length
            else 1 + (texts.flatten.rtakeWhile (!isLineBreak ·)).length + position.lineShift
          lineShift := position.lineShift } := by
  refine ⟨?_, position.advance_eq texts.flatten⟩
  have hline :
      (position.advance texts.flatten).line = position.line + lineEndings texts.flatten := by
    rw [advance_eq]
  have hshift : (position.advance texts.flatten).lineShift = position.lineShift := by
    rw [advance_eq]
  rw [← (sum_lineEndings_iff texts).2, advanceAll_eq]
  constructor
  · intro h
    have hlines := congrArg Position.line h
    rw [hline] at hlines
    exact Nat.add_left_cancel hlines
  · intro h
    rw [h, ← hline, ← hshift]

/-- A line ending is cut across an empty piece too. -/
example : ¬ KeepsEndings [['a', '\r'], [], ['\n', 'b']] := by decide

end Position

end MarkdownWriter
