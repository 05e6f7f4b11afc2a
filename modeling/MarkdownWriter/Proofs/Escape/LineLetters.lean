import MarkdownWriter.Proofs.Escape.Framed
import MarkdownWriter.Proofs.Escape.LineStarts

/-!
# Starts of lines in what is written

What is written for a text is a list of letters: characters that are left alone, and escapes. A rule
about the start of a line looks at a line break, what stands in front of its character, and what
follows that. None of these is ever part of an escape (`LineRule.Fronts.not_escape`,
`LineRule.not_escape_of_follows`).

So the rule matches in what is written for some letters exactly if it matches in letters that are
left alone (`LineRule.PlainCut`), and both directions are here: from what is written to the letters
(`LineRule.Cut.exists_plainCut`) and back (`LineRule.PlainCut.cut_writeLetters`). A reader that is
told where lines start in a written text can then be answered with places of the text itself
(`LineRule.PlainCut.getElem?`).
-/

namespace MarkdownWriter

open Text

/-- A cut of letters at a line break and at the character that starts the line behind it, all of
what the rule looks at being left alone. -/
structure LineRule.PlainCut (line : LineRule) (all pre : List Letter) (b : Char) (front : List Char)
    (back : List Letter) : Prop where
  all_eq : all = pre ++ ((b :: (front ++ [line.character])).map .plain ++ back)
  lineBreak : isLineBreak b = true
  fronts : line.Fronts front
  /-- What has to follow the character is left alone as well. -/
  next : line.allows (back.head?.map Letter.char) = true ∧
    (line.follows ≠ none → ∃ x more, back = .plain x :: more)

namespace LineRule

variable {line : LineRule} {all pre back : List Letter} {b : Char} {front : List Char}

/-- A cut of letters is one of their characters. -/
theorem PlainCut.cut (h : line.PlainCut all pre b front back) :
    line.Cut (all.map Letter.char) (pre.map Letter.char) b front (back.map Letter.char) where
  text_eq := by
    rw [h.all_eq, List.map_append, List.map_append, map_char_plain]
    simp
  lineBreak := h.lineBreak
  fronts := h.fronts
  allows := by
    rw [List.head?_map]
    exact h.next.1

/-- What stands before the character begins no escape. -/
theorem Fronts.not_escape (h : line.Fronts front) {c : Char} (hc : c ∈ front) :
    c ≠ '\\' ∧ c ≠ '&' := by
  rcases h.of_mem hc with hc | hc
  · constructor <;> (rintro rfl; contradiction)
  · constructor <;> (rintro rfl; contradiction)

/-- What can follow the character begins no escape. -/
theorem not_escape_of_follows :
    ∀ line ∈ lineRules, ∀ s ∈ line.follows, s.contains '\\' = false ∧ s.contains '&' = false := by
  decide

/-- Where a rule matches in what is written, it matches in letters left alone. -/
theorem Cut.exists_plainCut (hline : line ∈ lineRules) {encode : List Char} {text more : List Char}
    (h : line.Cut (writeLetters encode none all) text b front more) :
    ∃ pre back, text = writeLetters encode (some b) pre ∧ line.PlainCut all pre b front back := by
  obtain ⟨-, -, -, hbackslash, hampersand⟩ := character_of_mem_lineRules line hline
  obtain ⟨pre, rest, rfl, htext, hrest⟩ := exists_plain_of_lineBreak h.lineBreak h.text_eq
  have hplain : ∀ c ∈ front ++ [line.character], c ≠ '\\' ∧ c ≠ '&' := by
    intro c hc
    rcases List.mem_append.mp hc with hc | hc
    · exact h.fronts.not_escape hc
    · rw [List.mem_singleton.mp hc]
      exact ⟨hbackslash, hampersand⟩
  have hrest : writeLetters encode none rest = (front ++ [line.character]) ++ more := by
    rw [← hrest, List.append_assoc, List.singleton_append]
  obtain ⟨back, rfl, hback⟩ := exists_plain_of_writeLetters_append hplain hrest
  have hallows := h.allows
  refine ⟨pre, back, htext, ?_, h.lineBreak, h.fronts, ?_⟩
  · rw [List.map_cons, List.cons_append]
  cases hfollows : line.follows with
  | none =>
      rw [LineRule.allows, hfollows]
      exact ⟨rfl, fun hne => absurd rfl hne⟩
  | some s =>
      rw [LineRule.allows, hfollows, Option.all_some] at hallows
      cases more with
      | nil => contradiction
      | cons x more =>
          have hx : s.contains x = true := hallows
          obtain ⟨hnoBackslash, hnoAmpersand⟩ := not_escape_of_follows line hline s hfollows
          have hne : x ≠ '\\' ∧ x ≠ '&' := by
            constructor
            · rintro rfl
              rw [hx] at hnoBackslash
              contradiction
            · rintro rfl
              rw [hx] at hnoAmpersand
              contradiction
          obtain ⟨others, rfl, -⟩ := exists_plain_of_writeLetters_cons hne.1 hne.2 hback.symm
          rw [LineRule.allows, hfollows]
          exact ⟨hx, fun _ => ⟨x, others, rfl⟩⟩

/-- Where a rule matches in letters left alone, it matches in what is written. -/
theorem PlainCut.cut_writeLetters (hline : line ∈ lineRules) (encode : List Char)
    (h : line.PlainCut all pre b front back) :
    line.Cut (writeLetters encode none all) (writeLetters encode (some b) pre) b front
      (writeLetters encode none back) := by
  have hsegment : '\\' ∉ b :: (front ++ [line.character]) := by
    intro hmem
    rcases List.mem_cons.mp hmem with rfl | hmem
    · exact absurd h.lineBreak (by decide)
    · rcases List.mem_append.mp hmem with hmem | hmem
      · exact (h.fronts.not_escape hmem).1 rfl
      · exact (character_of_mem_lineRules line hline).2.2.2.1 (List.mem_singleton.mp hmem).symm
  refine ⟨?_, h.lineBreak, h.fronts, ?_⟩
  · have hbehind : behind none ((b :: (front ++ [line.character])).map Letter.plain ++ back) =
        some b := rfl
    rw [h.all_eq, writeLetters_append, hbehind, writeLetters_plain_append hsegment,
      List.cons_append, List.append_assoc, List.singleton_append]
  · have hallows := h.next.1
    cases hfollows : line.follows with
    | none =>
        rw [LineRule.allows, hfollows]
        rfl
    | some s =>
        obtain ⟨x, more, rfl⟩ := h.next.2 (by rw [hfollows]; exact Option.some_ne_none s)
        rw [head?_writeLetters_cons]
        rcases head?_written encode (.plain x) (behind none more) with ⟨-, hhead⟩ | ⟨hescaped, -⟩
        · rw [hhead]
          exact hallows
        · contradiction

/-- The letters a rule looks at are left alone. -/
theorem PlainCut.getElem? (h : line.PlainCut all pre b front back) {k : Nat} {c : Char}
    (hc : (b :: (front ++ [line.character]))[k]? = some c) :
    all[pre.length + k]? = some (.plain c) := by
  have hlt := (List.getElem?_eq_some_iff.mp hc).1
  rw [h.all_eq, getElem?_append_add _ _ rfl, List.getElem?_append_left (by rwa [List.length_map]),
    List.getElem?_map, hc, Option.map_some]

/-- What has to follow the character is left alone. -/
theorem PlainCut.exists_getElem?_next (h : line.PlainCut all pre b front back)
    (hfollows : line.follows ≠ none) :
    ∃ x, back.head? = some (.plain x) ∧ line.allows (some x) = true ∧
      all[pre.length + (front.length + 2)]? = some (.plain x) := by
  obtain ⟨x, more, rfl⟩ := h.next.2 hfollows
  have hlength :
      ((b :: (front ++ [line.character])).map Letter.plain).length = front.length + 2 := by simp
  refine ⟨x, rfl, h.next.1, ?_⟩
  rw [h.all_eq, getElem?_append_add _ _ rfl, ← Nat.add_zero (front.length + 2),
    getElem?_append_add _ _ hlength, List.getElem?_cons_zero]

end LineRule

end MarkdownWriter
