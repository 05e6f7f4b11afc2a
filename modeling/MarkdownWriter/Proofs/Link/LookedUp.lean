import MarkdownWriter.Proofs.Escape.Labels
import MarkdownWriter.Proofs.Escape.Sparing

/-!
# What a reference looks up

This is the reader's side of references, as CommonMark has it and without regard to how they are
written.

* **Labels** (`readLabel`): a label stands in brackets of which the closing one is the first without
  a backslash. It has no bare opening bracket in it, it is no longer than 999 characters, and it is
  not all spaces, tabs and line endings.
* **References** (`lookedUp`): a label behind the text of a reference is looked up, and else the
  text itself.

A literal text that is escaped as a label is a label again (`readLabel_escapeLiteral`), unless it is
too long or has nothing visible in it. Escaping leaves no text visible that was not so before
(`exists_isVisible_escapeLiteral_iff`).
-/

namespace MarkdownWriter

open Text

/-! ## Reading -/

/-- Whether a character is more than a space, a tab or part of a line ending. -/
def isVisible (c : Char) : Bool :=
  !(isSpacing c || isLineBreak c)

/-- The label in brackets at the front of a text, if there is one. -/
def readLabel : List Char → Option (List Char)
  | '[' :: text =>
      let label := untilBare ']' text
      -- if nothing is left, no closing bracket is there
      if text.drop label.length ≠ [] ∧ untilBare '[' (label ++ [']']) = label ++ [']'] ∧
          label.any isVisible = true ∧ label.length ≤ 999 then some label
      else none
  | _ => none

/-- A text is a label when it stands in brackets. -/
def IsLinkLabel (label : List Char) : Prop :=
  readLabel ('[' :: label ++ [']']) = some label

instance (label : List Char) : Decidable (IsLinkLabel label) :=
  inferInstanceAs (Decidable (_ = _))

/-- What is looked up for a reference that shows `text`, by what stands behind the closing bracket
of the text. -/
def lookedUp (text behind : List Char) : Option (List Char) :=
  match readLabel behind with
  | some label => some label
  | none => if IsLinkLabel text then some text else none

theorem readLabel_of_head? {text : List Char} (h : text.head? ≠ some '[') :
    readLabel text = none := by
  unfold readLabel
  split
  · exact absurd rfl h
  · rfl

/-- Brackets with nothing between them hold no label. -/
theorem readLabel_nothing (more : List Char) : readLabel ('[' :: ']' :: more) = none := by
  rw [readLabel, untilBare_delimiter (by decide), if_neg]
  rintro ⟨-, -, hvisible, -⟩
  contradiction

/-! ## Escaped labels -/

/-- Something shows of a letter exactly if its character shows, if no character is escaped that does
not. -/
theorem exists_isVisible_written_iff (encode : List Char) (next : Option Char) {letter : Letter}
    (h : letter.escaped = true → isVisible letter.char = true) :
    (∃ c ∈ letter.written encode next, isVisible c = true) ↔ isVisible letter.char = true := by
  rcases head?_written encode letter next with ⟨hplain, -⟩ | ⟨hescaped, hhead⟩
  · rw [Letter.written, hplain]
    simp [mem_plainChar]
  · refine iff_of_true ?_ (h hescaped)
    rcases hhead with hhead | hhead
    · exact ⟨_, List.mem_of_head? hhead, rfl⟩
    · exact ⟨_, List.mem_of_head? hhead, rfl⟩

/-- The same of several letters. -/
theorem exists_isVisible_writeLetters_iff (encode : List Char) (after : Option Char)
    {all : List Letter} (h : ∀ letter ∈ all, letter.escaped = true → isVisible letter.char = true) :
    (∃ c ∈ writeLetters encode after all, isVisible c = true) ↔
      ∃ letter ∈ all, isVisible letter.char = true := by
  induction all with
  | nil => simp [writeLetters]
  | cons letter rest ih =>
      obtain ⟨hletter, hrest⟩ := List.forall_mem_cons.mp h
      simp only [writeLetters_cons, List.mem_append, List.mem_cons, or_and_right, exists_or,
        exists_eq_left, ih hrest, exists_isVisible_written_iff encode _ hletter]

section escaped

variable {stack : List Construct} (hstack : IsLabelStack stack)

include hstack

/-- Something shows in a label as it is written exactly if something shows in its text: no rule
about labels is about a character that does not show. -/
theorem exists_isVisible_escapeLiteral_iff (label : List Char) (around : Surroundings) :
    (∃ c ∈ escapeLiteral Rule.defaults stack label around, isVisible c = true) ↔
      ∃ c ∈ label, isVisible c = true := by
  have hquiet : ∀ rule ∈ Rule.defaults, rule.applies [.reference] = true →
      isVisible rule.character = true := by
    decide
  have hescaped : ∀ letter ∈ lettersBetween Rule.defaults stack label around,
      letter.escaped = true → isVisible letter.char = true := by
    intro letter hletter hescaped
    obtain ⟨i, hi⟩ := List.mem_iff_getElem?.mp hletter
    obtain ⟨hplace, hiff⟩ := getElem?_lettersBetween_eq_some.mp hi
    obtain ⟨⟨rule, hmem, happlies, hposition⟩, -⟩ := hiff.mp hescaped
    have hcharacter :=
      (Rule.getElem?_of_mem_defaults hmem hposition).symm.trans (getElem?_enclose around hplace)
    rw [← Option.some.inj hcharacter]
    exact hquiet rule hmem (hstack rule hmem ▸ happlies)
  have hchars :
      (∃ letter ∈ lettersBetween Rule.defaults stack label around, isVisible letter.char = true) ↔
      ∃ c ∈ label, isVisible c = true := by
    have hany := List.any_map (f := Letter.char) (p := isVisible)
      (l := lettersBetween Rule.defaults stack label around)
    rw [map_char_lettersBetween] at hany
    rw [← List.any_eq_true, ← List.any_eq_true, hany]
    rfl
  exact (exists_isVisible_writeLetters_iff _ _ hescaped).trans hchars

/-- **An escaped label is read as it is written**, whatever follows it. -/
theorem readLabel_escapeLiteral (context label more : List Char) :
    readLabel ('[' :: escapeLiteral Rule.defaults stack label (labelSite context) ++ ']' :: more) =
      if label.any isVisible = true ∧
          (escapeLiteral Rule.defaults stack label (labelSite context)).length ≤ 999 then
        some (escapeLiteral Rule.defaults stack label (labelSite context))
      else none := by
  have hopening :
      untilBare '[' (escapeLiteral Rule.defaults stack label (labelSite context) ++ [']']) =
      escapeLiteral Rule.defaults stack label (labelSite context) ++ [']'] := by
    rw [untilBare_label_append hstack context label [] (by decide),
      untilBare_plain (by decide) (by decide), untilBare]
  have hvisible : (escapeLiteral Rule.defaults stack label (labelSite context)).any isVisible =
      label.any isVisible := by
    rw [Bool.eq_iff_iff, List.any_eq_true, List.any_eq_true]
    exact exists_isVisible_escapeLiteral_iff hstack label (labelSite context)
  rw [List.cons_append, readLabel, untilBare_label hstack, List.drop_left, hvisible]
  simp only [hopening, ne_eq, reduceCtorEq, not_false_eq_true, true_and]

/-- It can be a label unless it is too long or has nothing visible in it. -/
theorem isLinkLabel_escapeLiteral_iff (context label : List Char) :
    IsLinkLabel (escapeLiteral Rule.defaults stack label (labelSite context)) ↔
      (∃ c ∈ label, isVisible c = true) ∧
        (escapeLiteral Rule.defaults stack label (labelSite context)).length ≤ 999 := by
  rw [IsLinkLabel, readLabel_escapeLiteral hstack context label [], Option.ite_none_right_eq_some,
    List.any_eq_true]
  exact and_iff_left rfl

end escaped

end MarkdownWriter
