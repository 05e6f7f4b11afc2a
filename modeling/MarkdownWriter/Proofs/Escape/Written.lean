import MarkdownWriter.Escape.Literal
import MarkdownWriter.Proofs.Text.Reference

/-!
# How letters are written

A letter is written in one of three ways (`written_cases`): as its character, a backslash doubled
where it would escape what comes next; behind a backslash; or as a reference. What is written for it
is never empty, and its first character says which way was taken (`head?_written`).

* **From the end on** (`writeLetters_cons`): every letter is written in front of the first character
  of the next one (`behind`), so proofs about what is written are by induction on the letters with
  what stands behind them general.
* **References** are made of few characters (`all_isReferenceSign_characterReference`), so that a
  character which no backslash can escape is not written at all where it is escaped
  (`not_mem_writeLetters`).
* **Well escaped** (`WellEscaped`). Not all letters can be told from what is written for them.
  `WellEscaped` says of the escapes among them that they can: what is escaped has a reference, and
  the backslash of an escaped backslash is not itself taken for one that escapes what comes next.
-/

namespace MarkdownWriter

open Text

/-- The first character written for some letters, with `after` behind them; an escape counts as a
backslash. -/
def behind (after : Option Char) (rest : List Letter) : Option Char :=
  rest.head?.elim after fun next => some next.front

/-- Letter by letter, each in front of the character of the next one. -/
theorem writeLetters_cons (encode : List Char) (after : Option Char) (letter : Letter)
    (rest : List Letter) :
    writeLetters encode after (letter :: rest) =
      letter.written encode (behind after rest) ++ writeLetters encode after rest :=
  rfl

/-- The first letter of a suffix and the one after it, by their places. -/
theorem exists_getElem?_of_cons_suffix {α : Type} {x : α} {rest all : List α}
    (h : x :: rest <:+ all) : ∃ i, all[i]? = some x ∧ all[i + 1]? = rest.head? := by
  obtain ⟨front, rfl⟩ := h
  refine ⟨front.length, ?_, ?_⟩
  · rw [List.getElem?_append_right (Nat.le_refl _), Nat.sub_self, List.getElem?_cons_zero]
  · rw [List.getElem?_append_right (Nat.le_add_right _ 1), Nat.add_sub_cancel_left,
      List.getElem?_cons_succ, List.head?_eq_getElem?]

/-- The ways a letter is written. -/
theorem written_cases (encode : List Char) (letter : Letter) (next : Option Char) :
    (letter.escaped = false ∧ letter.written encode next = plainChar letter.char next) ∨
      (letter.escaped = true ∧ isPunctuation letter.char = true ∧
        letter.written encode next = '\\' :: plainChar letter.char next) ∨
      (letter.escaped = true ∧ letter.written encode next = characterReference letter.char) := by
  unfold Letter.written
  cases hescaped : letter.escaped with
  | false => exact .inl ⟨rfl, rfl⟩
  | true =>
      right
      cases hsign : (isPunctuation letter.char && !encode.contains letter.char) with
      | true =>
          rw [Bool.and_eq_true] at hsign
          exact .inl ⟨rfl, hsign.1, rfl⟩
      | false => exact .inr ⟨rfl, rfl⟩

/-- A character that is no backslash is written as it is. -/
theorem plainChar_of_ne {c : Char} {next : Option Char} (h : c ≠ '\\') :
    plainChar c next = [c] := by
  simp [plainChar, h]

/-- A backslash is doubled in front of punctuation. -/
theorem plainChar_backslash (next : Option Char) :
    plainChar '\\' next = if next.any isPunctuation = true then ['\\', '\\'] else ['\\'] := by
  simp [plainChar]

/-- Nothing but the character itself is written, once or twice. -/
theorem mem_plainChar {c d : Char} {next : Option Char} : d ∈ plainChar c next ↔ d = c := by
  unfold plainChar
  split <;> simp

/-- What is written for a letter begins with its character, or with a backslash or ampersand if it
is escaped. -/
theorem head?_written (encode : List Char) (letter : Letter) (next : Option Char) :
    (letter.escaped = false ∧ (letter.written encode next).head? = some letter.char) ∨
      (letter.escaped = true ∧ ((letter.written encode next).head? = some '\\' ∨
        (letter.written encode next).head? = some '&')) := by
  rcases written_cases encode letter next with ⟨hescaped, hwritten⟩ | ⟨hescaped, -, hwritten⟩ |
      ⟨hescaped, hwritten⟩
  · refine .inl ⟨hescaped, ?_⟩
    rw [hwritten]
    unfold plainChar
    split <;> rfl
  · exact .inr ⟨hescaped, .inl (by rw [hwritten]; rfl)⟩
  · exact .inr ⟨hescaped, .inr (by rw [hwritten]; rfl)⟩

/-- What is written for a letter is not empty. -/
theorem head?_writeLetters_cons (encode : List Char) (after : Option Char) (letter : Letter)
    (rest : List Letter) :
    (writeLetters encode after (letter :: rest)).head? =
      (letter.written encode (behind after rest)).head? := by
  rw [writeLetters_cons]
  rcases head?_written encode letter (behind after rest) with ⟨-, hhead⟩ | ⟨-, hhead | hhead⟩
  all_goals rw [List.head?_append, hhead, Option.some_or]

/-! ## References -/

/-- The characters references are made of. -/
def isReferenceSign (c : Char) : Bool :=
  ['&', '#', ';'].contains c || isLetter c || isDigit c

/-- The digits of a hexadecimal numeral. -/
theorem exists_digitChar_of_mem_hexadecimal {n : Nat} {c : Char} (h : c ∈ hexadecimal n) :
    ∃ k < 16, c = Nat.digitChar k := by
  unfold hexadecimal at h
  induction n using Nat.strongRecOn with
  | ind n ih =>
      by_cases hn : n < 16
      · rw [Nat.toDigits_of_lt_base hn] at h
        exact ⟨n, hn, List.mem_singleton.mp h⟩
      · rw [Nat.toDigits_of_base_le (by decide) (Nat.le_of_not_lt hn)] at h
        rcases List.mem_append.mp h with h | h
        · exact ih (n / 16) (by omega) h
        · exact ⟨n % 16, Nat.mod_lt n (by decide), List.mem_singleton.mp h⟩

/-- References are made of few characters. -/
theorem all_isReferenceSign_characterReference (c : Char) :
    (characterReference c).all isReferenceSign = true := by
  have hdigits : ∀ k < 16, isReferenceSign (Nat.digitChar k).toUpper = true := by decide
  have hnumeral : ∀ d ∈ (hexadecimal c.toNat).map Char.toUpper, isReferenceSign d = true := by
    intro d hd
    obtain ⟨e, he, rfl⟩ := List.mem_map.mp hd
    obtain ⟨k, hk, rfl⟩ := exists_digitChar_of_mem_hexadecimal he
    exact hdigits k hk
  rw [characterReference, List.all_append, List.all_append, List.all_eq_true.mpr hnumeral]
  rfl

/-- A character that is never written in a reference is not in one. -/
theorem not_mem_characterReference {c d : Char} (hd : isReferenceSign d = false) :
    d ∉ characterReference c := by
  intro hin
  have hsign := List.all_eq_true.mp (all_isReferenceSign_characterReference c) d hin
  rw [hd] at hsign
  contradiction

/-- A character that is escaped wherever it occurs is not written if a backslash cannot escape it.
-/
theorem not_mem_writeLetters {encode : List Char} {after : Option Char} {d : Char}
    (hbackslash : d ≠ '\\') (hreference : isReferenceSign d = false)
    (hencode : isPunctuation d = true → d ∈ encode) {all : List Letter}
    (h : ∀ letter ∈ all, letter.char = d → letter.escaped = true) :
    d ∉ writeLetters encode after all := by
  induction all with
  | nil => exact List.not_mem_nil
  | cons letter rest ih =>
      obtain ⟨hletter, hrest⟩ := List.forall_mem_cons.mp h
      rw [writeLetters_cons, List.mem_append, not_or]
      refine ⟨?_, ih hrest⟩
      unfold Letter.written
      split
      · next hplain =>
          rw [mem_plainChar]
          intro hc
          rw [hletter hc.symm] at hplain
          contradiction
      · split
        · next hsign =>
            rw [Bool.and_eq_true, Bool.not_eq_true', ← Bool.not_eq_true,
              List.contains_iff_mem] at hsign
            rw [List.mem_cons, mem_plainChar]
            rintro (hd | hd)
            · exact hbackslash hd
            · rw [← hd] at hsign
              exact hsign.2 (hencode hsign.1)
        · exact not_mem_characterReference hreference

/-! ## Well-formed escapes -/

/-- The escapes among letters that are written before `after` are well formed. -/
structure WellEscaped (after : Option Char) (all : List Letter) : Prop where
  /-- What is escaped can be written as a reference. -/
  referenceable : ∀ letter ∈ all, letter.escaped = true → isReferenceable letter.char = true
  /-- An escaped backslash is not doubled. -/
  backslash : ∀ rest, ⟨'\\', true⟩ :: rest <:+ all → (behind after rest).any isPunctuation = false

/-- What holds of letters holds behind the first of them. -/
theorem WellEscaped.tail {after : Option Char} {letter : Letter} {rest : List Letter}
    (h : WellEscaped after (letter :: rest)) : WellEscaped after rest where
  referenceable := fun other hother => h.referenceable other (List.mem_cons_of_mem letter hother)
  backslash := fun back hback => h.backslash back (hback.trans (List.suffix_cons letter rest))

/-- The ways the first of some letters is written. -/
theorem WellEscaped.written_cases (encode : List Char) {after : Option Char} {letter : Letter}
    {rest : List Letter} (h : WellEscaped after (letter :: rest)) :
    (letter.escaped = false ∧
      letter.written encode (behind after rest) = plainChar letter.char (behind after rest)) ∨
      (letter.escaped = true ∧ isPunctuation letter.char = true ∧
        letter.written encode (behind after rest) = ['\\', letter.char]) ∨
      (letter.escaped = true ∧ isReferenceable letter.char = true ∧
        letter.written encode (behind after rest) = characterReference letter.char) := by
  rcases MarkdownWriter.written_cases encode letter (behind after rest) with
    hplain | ⟨hescaped, hsign, hwritten⟩ | ⟨hescaped, hwritten⟩
  · exact .inl hplain
  · refine .inr (.inl ⟨hescaped, hsign, ?_⟩)
    obtain ⟨c, escaped⟩ := letter
    obtain rfl : escaped = true := hescaped
    rw [hwritten]
    by_cases hbackslash : c = '\\'
    · subst hbackslash
      rw [plainChar_backslash, h.backslash rest List.suffix_rfl, if_neg Bool.false_ne_true]
    · rw [plainChar_of_ne hbackslash]
  · exact .inr (.inr ⟨hescaped, h.referenceable letter List.mem_cons_self hescaped, hwritten⟩)

end MarkdownWriter
