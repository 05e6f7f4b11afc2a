import MarkdownWriter.Proofs.Escape.Letters
import MarkdownWriter.Proofs.Escape.Written
import MarkdownWriter.Proofs.Text.Rows

/-!
# Literal text in its surroundings

What is written for a literal text stands between its surroundings, which are written as they are.
`framedLetters` are the letters of all three together, in the places of the text the rules are
matched against.

* **From letters to text** (`writeLetters_framedLetters`, `writeLetters_plain_append`): letters left
  alone are written as they are, if they are no backslashes.
* **From text to letters** (`exists_plain_of_mem`, `exists_plain_of_writeLetters_append`): a line
  break or space that is written is a letter left alone, and so is what follows it up to a backslash
  or ampersand. So where markup is found in what is written, it can be found in the letters.
* **Letters left alone** (`getElem?_framedLetters_eq_some`): a flagged one has a neighbour that is
  escaped.
-/

namespace MarkdownWriter

open Text

/-! ## Writing and reading letters -/

/-- A character left alone. -/
def Letter.plain (c : Char) : Letter :=
  ⟨c, false⟩

section writing

variable {encode : List Char} {after : Option Char}

/-- Behind some letters is what is before the others. -/
theorem behind_append (after : Option Char) (all more : List Letter) :
    behind after (all ++ more) = behind (behind after more) all := by
  cases all <;> rfl

/-- What follows some of the letters counts as what they are written before. -/
theorem WellEscaped.of_append {all more : List Letter} (h : WellEscaped after (all ++ more)) :
    WellEscaped (behind after more) all where
  referenceable := fun letter hletter => h.referenceable letter (List.mem_append_left more hletter)
  backslash := fun rest hrest => by
    rw [← behind_append]
    exact h.backslash (rest ++ more) (List.suffix_append_self_iff.mpr hrest)

/-- Letters are written against what follows them. -/
theorem writeLetters_append (all more : List Letter) :
    writeLetters encode after (all ++ more) =
      writeLetters encode (behind after more) all ++ writeLetters encode after more := by
  induction all with
  | nil => rfl
  | cons letter all ih =>
      rw [List.cons_append, writeLetters_cons, writeLetters_cons, ih, behind_append,
        List.append_assoc]

/-- Characters left alone are written as they are. -/
theorem writeLetters_plain_append {characters : List Char} (h : '\\' ∉ characters)
    (more : List Letter) :
    writeLetters encode after (characters.map .plain ++ more) =
      characters ++ writeLetters encode after more := by
  induction characters with
  | nil => rfl
  | cons c characters ih =>
      rw [List.mem_cons, not_or] at h
      obtain ⟨hc, hrest⟩ := h
      rw [List.map_cons, List.cons_append, writeLetters_cons, ih hrest]
      change plainChar c _ ++ _ = _
      rw [plainChar_of_ne (Ne.symm hc)]
      rfl

/-- What begins with a character other than backslashes and ampersands begins with a letter left
alone. -/
theorem exists_plain_of_writeLetters_cons {all : List Letter} {c : Char} {rest : List Char}
    (hbackslash : c ≠ '\\') (hampersand : c ≠ '&') (h : writeLetters encode after all = c :: rest) :
    ∃ more, all = .plain c :: more ∧ rest = writeLetters encode after more := by
  cases all with
  | nil => contradiction
  | cons letter more =>
      have hhead := congrArg List.head? h
      rw [head?_writeLetters_cons, List.head?_cons] at hhead
      rcases head?_written encode letter (behind after more) with ⟨hescaped, hc⟩ | ⟨-, hc | hc⟩
      · obtain ⟨d, escaped⟩ := letter
        obtain rfl : escaped = false := hescaped
        obtain rfl : d = c := Option.some.inj (hc.symm.trans hhead)
        rw [writeLetters_cons] at h
        change plainChar d _ ++ _ = _ at h
        rw [plainChar_of_ne hbackslash] at h
        exact ⟨more, rfl, (List.cons.inj h).2.symm⟩
      · exact absurd (Option.some.inj (hhead.symm.trans hc)) hbackslash
      · exact absurd (Option.some.inj (hhead.symm.trans hc)) hampersand

/-- What begins with a row of such characters begins with letters left alone. -/
theorem exists_plain_of_writeLetters_append {all : List Letter} {characters rest : List Char}
    (hplain : ∀ c ∈ characters, c ≠ '\\' ∧ c ≠ '&')
    (h : writeLetters encode after all = characters ++ rest) :
    ∃ more, all = characters.map .plain ++ more ∧ rest = writeLetters encode after more := by
  induction characters generalizing all with
  | nil => exact ⟨all, rfl, h.symm⟩
  | cons c characters ih =>
      obtain ⟨⟨hbackslash, hampersand⟩, hplain⟩ := List.forall_mem_cons.mp hplain
      obtain ⟨others, rfl, hothers⟩ := exists_plain_of_writeLetters_cons hbackslash hampersand h
      obtain ⟨more, rfl, hrest⟩ := ih hplain hothers.symm
      exact ⟨more, rfl, hrest⟩

/-- A character that is neither punctuation nor a sign of references is only written for itself. -/
theorem written_eq_of_mem {letter : Letter} {next : Option Char} {d : Char}
    (hsign : isPunctuation d = false) (hreference : isReferenceSign d = false)
    (hmem : d ∈ letter.written encode next) :
    letter = .plain d ∧ letter.written encode next = [d] := by
  have hbackslash : d ≠ '\\' := by
    rintro rfl
    contradiction
  obtain ⟨c, escaped⟩ := letter
  rcases written_cases encode ⟨c, escaped⟩ next with ⟨hescaped, hwritten⟩ |
      ⟨-, hpunctuation, hwritten⟩ |
    ⟨hescaped, hwritten⟩
  · obtain rfl : escaped = false := hescaped
    rw [hwritten, mem_plainChar] at hmem
    obtain rfl : d = c := hmem
    exact ⟨rfl, hwritten.trans (plainChar_of_ne hbackslash)⟩
  · rw [hwritten, List.mem_cons, mem_plainChar] at hmem
    rcases hmem with rfl | rfl
    · contradiction
    · rw [hsign] at hpunctuation
      contradiction
  · rw [hwritten] at hmem
    exact absurd hmem (not_mem_characterReference hreference)

/-- Where such a character is written there is a letter left alone. -/
theorem exists_plain_of_mem {all : List Letter} {pre rest : List Char} {d : Char}
    (hsign : isPunctuation d = false) (hreference : isReferenceSign d = false)
    (h : writeLetters encode after all = pre ++ d :: rest) :
    ∃ front more, all = front ++ .plain d :: more ∧ pre = writeLetters encode (some d) front ∧
      rest = writeLetters encode after more := by
  induction all generalizing pre with
  | nil => exact absurd h.symm (List.append_ne_nil_of_right_ne_nil pre (List.cons_ne_nil d rest))
  | cons letter all ih =>
      rw [writeLetters_cons] at h
      rcases List.append_eq_append_iff.mp h with ⟨start, hpre, hstart⟩ | ⟨stop, hwritten, hstop⟩
      · obtain ⟨front, more, rfl, rfl, hrest⟩ := ih hstart
        refine ⟨letter :: front, more, rfl, ?_, hrest⟩
        rw [hpre, writeLetters_cons, behind_append]
        rfl
      · cases stop with
        | nil =>
            obtain ⟨front, more, rfl, hnil, hrest⟩ := @ih [] hstop.symm
            refine ⟨letter :: front, more, rfl, ?_, hrest⟩
            rw [writeLetters_cons, ← hnil, List.append_nil, ← List.append_nil pre, ← hwritten,
              behind_append]
            rfl
        | cons c stop =>
            obtain ⟨rfl, hrest⟩ := List.cons.inj hstop
            have hmem : d ∈ letter.written encode (behind after all) := by
              rw [hwritten]
              exact List.mem_append_right pre List.mem_cons_self
            obtain ⟨rfl, hone⟩ := written_eq_of_mem hsign hreference hmem
            rw [hwritten] at hone
            have hlength := congrArg List.length hone
            rw [List.length_append, List.length_cons, List.length_singleton] at hlength
            obtain rfl : stop = [] := List.length_eq_zero_iff.mp (by omega)
            obtain rfl : pre = [] := List.length_eq_zero_iff.mp (by omega)
            exact ⟨[], all, rfl, rfl, hrest⟩

/-- A line break is neither punctuation nor part of a reference. -/
theorem signs_of_isLineBreak {b : Char} (hb : isLineBreak b = true) :
    isPunctuation b = false ∧ isReferenceSign b = false := by
  rcases isLineBreak_iff.mp hb with rfl | rfl <;> decide

/-- A line break is only written for itself. -/
theorem written_eq_of_lineBreak {letter : Letter} {next : Option Char} {b : Char}
    (hb : isLineBreak b = true) (hmem : b ∈ letter.written encode next) :
    letter = .plain b ∧ letter.written encode next = [b] :=
  written_eq_of_mem (signs_of_isLineBreak hb).1 (signs_of_isLineBreak hb).2 hmem

/-- A line break that is written is a letter left alone. -/
theorem exists_plain_of_lineBreak {all : List Letter} {pre rest : List Char} {b : Char}
    (hb : isLineBreak b = true) (h : writeLetters encode after all = pre ++ b :: rest) :
    ∃ front more, all = front ++ .plain b :: more ∧ pre = writeLetters encode (some b) front ∧
      rest = writeLetters encode after more :=
  exists_plain_of_mem (signs_of_isLineBreak hb).1 (signs_of_isLineBreak hb).2 h

/-- Escaping takes no line break away and brings none in, where none is escaped. -/
theorem countP_isLineBreak_writeLetters {all : List Letter}
    (hall : ∀ letter ∈ all, letter.escaped = true → isLineBreak letter.char = false) :
    (writeLetters encode after all).countP isLineBreak =
      (all.map Letter.char).countP isLineBreak := by
  induction all with
  | nil => rfl
  | cons letter all ih =>
      obtain ⟨hletter, hall⟩ := List.forall_mem_cons.mp hall
      rw [writeLetters_cons, List.countP_append, ih hall, List.map_cons, ← List.singleton_append,
        List.countP_append]
      congr 1
      rcases Bool.eq_false_or_eq_true (isLineBreak letter.char) with hbreak | hbreak
      · have hplain : letter.escaped = false := by
          cases hescaped : letter.escaped with
          | false => rfl
          | true => rw [hletter hescaped] at hbreak; contradiction
        have hmem : letter.char ∈ letter.written encode (behind after all) := by
          unfold Letter.written
          rw [hplain]
          exact mem_plainChar.mpr rfl
        rw [(written_eq_of_lineBreak hbreak hmem).2]
      · rw [List.countP_eq_zero.mpr, List.countP_eq_zero.mpr]
        · intro c hc
          rw [List.mem_singleton.mp hc, hbreak]
          exact Bool.false_ne_true
        · intro c hc hb
          have hletter := (written_eq_of_lineBreak hb hc).1
          rw [hletter] at hbreak
          exact Bool.false_ne_true (hbreak.symm.trans hb)

/-- The last character written for some letters is that of the last of them, if it is not the end of
a reference. -/
theorem getLast?_writeLetters_concat {all : List Letter} {letter : Letter} {c : Char}
    (hsemicolon : c ≠ ';') (h : (writeLetters encode after (all ++ [letter])).getLast? = some c) :
    letter.char = c := by
  have hlast : writeLetters encode after [letter] = letter.written encode after := List.append_nil _
  rw [writeLetters_append, hlast] at h
  have hplain : ∀ d next, (plainChar d next).getLast? = some d := by
    intro d next
    unfold plainChar
    split <;> rfl
  rcases written_cases encode letter after with ⟨-, hwritten⟩ | ⟨-, -, hwritten⟩ | ⟨-, hwritten⟩
  · rw [hwritten, List.getLast?_append, hplain, Option.some_or] at h
    exact Option.some.inj h
  · rw [hwritten, List.getLast?_append, List.getLast?_cons, hplain] at h
    exact Option.some.inj h
  · rw [hwritten, List.getLast?_append, characterReference, List.getLast?_concat,
      Option.some_or] at h
    exact absurd (Option.some.inj h).symm hsemicolon

end writing

/-- A literal text begins with a character that begins no escape exactly if its first character is
left alone. -/
theorem head?_escapeLiteral_eq_some_iff {rules : List Rule} {stack : List Construct}
    {input : List Char} {around : Surroundings} {c : Char} (hbackslash : c ≠ '\\')
    (hampersand : c ≠ '&') :
    (escapeLiteral rules stack input around).head? = some c ↔
      input.head? = some c ∧ ¬ EscapedAt rules stack input around 0 := by
  have hplain : (lettersBetween rules stack input around)[0]? = some (.plain c) ↔
      input.head? = some c ∧ ¬ EscapedAt rules stack input around 0 := by
    rw [getElem?_lettersBetween_eq_some, List.head?_eq_getElem?]
    simp [Letter.plain]
  rw [← hplain]
  unfold escapeLiteral
  generalize lettersBetween rules stack input around = all
  constructor
  · intro h
    cases hwritten : writeLetters around.encode around.after.head? all with
    | nil => rw [hwritten] at h; contradiction
    | cons d rest =>
        rw [hwritten] at h
        obtain rfl : d = c := Option.some.inj h
        obtain ⟨more, rfl, -⟩ := exists_plain_of_writeLetters_cons hbackslash hampersand hwritten
        rfl
  · intro h
    cases all with
    | nil => contradiction
    | cons letter rest =>
        obtain rfl := Option.some.inj h
        have := @writeLetters_plain_append around.encode around.after.head? [c]
          (by simpa using hbackslash.symm) rest
        rw [List.map_singleton, List.singleton_append] at this
        rw [this]
        rfl

/-- A literal text ends with its own last character, or with a semicolon. -/
theorem getLast?_escapeLiteral {rules : List Rule} {stack : List Construct} {input : List Char}
    {around : Surroundings} {c : Char} (hsemicolon : c ≠ ';')
    (h : (escapeLiteral rules stack input around).getLast? = some c) :
    input.getLast? = some c := by
  rw [← map_char_lettersBetween rules stack around input]
  unfold escapeLiteral at h
  generalize lettersBetween rules stack input around = all at h ⊢
  rcases List.eq_nil_or_concat all with rfl | ⟨front, letter, rfl⟩
  · contradiction
  · rw [List.concat_eq_append] at h ⊢
    rw [List.map_append, List.map_singleton, List.getLast?_concat,
      getLast?_writeLetters_concat hsemicolon h]

/-! ## Framed letters -/

/-- The letters of a literal text with those of its surroundings, which are left alone. -/
def framedLetters (rules : List Rule) (stack : List Construct) (input : List Char)
    (around : Surroundings) : List Letter :=
  around.before.map .plain ++ (lettersBetween rules stack input around ++ around.after.map .plain)

section framed

variable {rules : List Rule} {stack : List Construct} {input : List Char} {around : Surroundings}

theorem map_char_plain (characters : List Char) :
    (characters.map Letter.plain).map Letter.char = characters := by
  rw [List.map_map]
  exact List.map_id characters

/-- The letters are those of the text that rules are matched against. -/
theorem map_char_framedLetters :
    (framedLetters rules stack input around).map Letter.char = around.enclose input := by
  rw [framedLetters, List.map_append, List.map_append, map_char_plain, map_char_plain,
    map_char_lettersBetween, Surroundings.enclose, List.append_assoc]

/-- The literal text is written between its surroundings. -/
theorem writeLetters_framedLetters (hbefore : '\\' ∉ around.before) (hafter : '\\' ∉ around.after) :
    writeLetters around.encode none (framedLetters rules stack input around) =
      around.before ++ (escapeLiteral rules stack input around ++ around.after) := by
  have hbehind : behind none (around.after.map Letter.plain) = around.after.head? := by
    cases around.after <;> rfl
  have hlast : writeLetters around.encode none (around.after.map Letter.plain) = around.after := by
    rw [← List.append_nil (around.after.map Letter.plain), writeLetters_plain_append hafter]
    exact List.append_nil around.after
  rw [framedLetters, writeLetters_plain_append hbefore, writeLetters_append, hbehind, hlast]
  rfl

/-- A character left alone at a place. -/
theorem map_plain_eq_some {found : Option Char} {letter : Letter} :
    found.map Letter.plain = some letter ↔ found = some letter.char ∧ letter.escaped = false := by
  obtain ⟨c, escaped⟩ := letter
  cases found with
  | none => simp
  | some d => simp [Letter.plain, eq_comm]

/-- A letter is the character at its place, escaped if it is one of the literal text that has to be.
-/
theorem getElem?_framedLetters_eq_some {place : Nat} {letter : Letter} :
    (framedLetters rules stack input around)[place]? = some letter ↔
      (around.enclose input)[place]? = some letter.char ∧
        (letter.escaped = true ↔
          ∃ i < input.length, place = around.before.length + i ∧
            EscapedAt rules stack input around i) := by
  have hlength : (lettersBetween rules stack input around).length = input.length := by
    rw [← map_char_lettersBetween rules stack around input, List.length_map,
      map_char_lettersBetween]
  unfold framedLetters Surroundings.enclose
  rw [List.append_assoc]
  rcases Nat.lt_or_ge place around.before.length with hbefore | hbefore
  · -- a character before the literal text
    have hout : ¬ ∃ i < input.length, place = around.before.length + i ∧
        EscapedAt rules stack input around i := by
      rintro ⟨i, -, rfl, -⟩
      omega
    rw [List.getElem?_append_left (by rwa [List.length_map]), List.getElem?_append_left hbefore,
      List.getElem?_map, map_plain_eq_some, iff_false_right hout, Bool.not_eq_true]
  obtain ⟨i, rfl⟩ := Nat.exists_eq_add_of_le hbefore
  rw [getElem?_append_add _ _ (List.length_map _), getElem?_append_add _ _ rfl]
  rcases Nat.lt_or_ge i input.length with hin | hin
  · -- a character of the literal text
    have hescaped : (∃ j < input.length, around.before.length + i = around.before.length + j ∧
        EscapedAt rules stack input around j) ↔ EscapedAt rules stack input around i := by
      constructor
      · rintro ⟨j, -, heq, h⟩
        obtain rfl : i = j := by omega
        exact h
      · intro h
        exact ⟨i, hin, rfl, h⟩
    rw [List.getElem?_append_left (by rwa [hlength]), List.getElem?_append_left hin, hescaped,
      getElem?_lettersBetween_eq_some]
  · -- a character behind it
    have hout : ¬ ∃ j < input.length, around.before.length + i = around.before.length + j ∧
        EscapedAt rules stack input around j := by
      rintro ⟨j, hj, heq, -⟩
      omega
    rw [List.getElem?_append_right (by rwa [hlength]), List.getElem?_append_right hin, hlength,
      List.getElem?_map, map_plain_eq_some, iff_false_right hout, Bool.not_eq_true]

/-- A character that is not flagged is left alone. -/
theorem getElem?_framedLetters_of_not_flaggedAt {place : Nat} {c : Char}
    (hc : (around.enclose input)[place]? = some c)
    (hflag : ¬ FlaggedAt rules stack (around.enclose input) place) :
    (framedLetters rules stack input around)[place]? = some (.plain c) := by
  refine getElem?_framedLetters_eq_some.mpr ⟨hc, ?_⟩
  refine iff_of_false Bool.false_ne_true ?_
  rintro ⟨i, -, rfl, hescaped⟩
  exact hflag hescaped.1

/-- A stretch of characters none of which is flagged is left alone. -/
theorem exists_plain_of_not_flaggedAt {pre segment post : List Char}
    (htext : around.enclose input = pre ++ (segment ++ post))
    (h : ∀ k c, segment[k]? = some c →
      ¬ FlaggedAt rules stack (around.enclose input) (pre.length + k)) :
    ∃ front back, framedLetters rules stack input around = front ++ (segment.map .plain ++ back) ∧
      front.map Letter.char = pre ∧ back.map Letter.char = post := by
  have hmap := (@map_char_framedLetters rules stack input around).trans htext
  obtain ⟨front, rest, hframed, rfl, hrest⟩ := List.map_eq_append_iff.mp hmap
  obtain ⟨middle, back, rfl, hmiddle, rfl⟩ := List.map_eq_append_iff.mp hrest
  refine ⟨front, back, ?_, rfl, rfl⟩
  rw [hframed]
  congr 2
  apply List.ext_getElem?
  intro k
  rw [List.getElem?_map]
  cases hk : segment[k]? with
  | none =>
      rw [← hmiddle, List.getElem?_map, Option.map_eq_none_iff] at hk
      exact hk
  | some c =>
      have hplace : (around.enclose input)[(front.map Letter.char).length + k]? = some c := by
        rw [htext, getElem?_append_add _ _ rfl,
          List.getElem?_append_left (List.getElem?_eq_some_iff.mp hk).1, hk]
      have hlt : k < middle.length := by
        rw [← List.length_map (f := Letter.char), hmiddle]
        exact (List.getElem?_eq_some_iff.mp hk).1
      have hplain := getElem?_framedLetters_of_not_flaggedAt hplace (h k c hk)
      rwa [hframed, List.length_map, getElem?_append_add _ _ rfl,
        List.getElem?_append_left hlt] at hplain

/-- A character of the literal text that is flagged whatever is around it is not left alone. -/
theorem not_unconditionalAt_of_plain {i : Nat} {c : Char} (hi : i < input.length)
    (hplain : (framedLetters rules stack input around)[around.before.length + i]? =
      some (.plain c)) :
    ¬ UnconditionalAt rules stack (around.enclose input) (around.before.length + i) := by
  intro hflag
  obtain ⟨-, hescaped⟩ := getElem?_framedLetters_eq_some.mp hplain
  obtain ⟨hc, hiff⟩ := getElem?_lettersBetween_eq_some.mp
    (letter_escaped_of_unconditional (List.getElem?_eq_getElem hi) hflag)
  exact absurd (hescaped.mpr ⟨i, hi, rfl, hiff.mp rfl⟩) Bool.false_ne_true

/-- A flagged character of the literal text that is left alone is spared by a neighbour. -/
theorem spared_of_plain {i : Nat} {c : Char} (hi : i < input.length)
    (hplain : (framedLetters rules stack input around)[around.before.length + i]? = some (.plain c))
    (hflag : FlaggedAt rules stack (around.enclose input) (around.before.length + i)) :
    SparedByNext rules stack input around i ∨ SparedByPrevious rules stack input around i := by
  by_contra hnone
  rw [not_or] at hnone
  obtain ⟨-, hescaped⟩ := getElem?_framedLetters_eq_some.mp hplain
  exact absurd (hescaped.mpr ⟨i, hi, rfl, hflag, hnone.1, hnone.2⟩) Bool.false_ne_true

/-- Left alone though a rule that asks for nothing before it flags it: the character behind it is
flagged unconditionally. -/
theorem unconditionalAt_next_of_plain {i : Nat} {c : Char} (hi : i < input.length)
    (hplain : (framedLetters rules stack input around)[around.before.length + i]? = some (.plain c))
    {rule : Rule} (hmem : rule ∈ rules)
    (hflags : rule.FlagsAt stack (around.enclose input) (around.before.length + i))
    (hleading : rule.leading = false) :
    i + 1 < input.length ∧ UnconditionalAt rules stack (around.enclose input)
      (around.before.length + i + 1) := by
  rcases spared_of_plain hi hplain ⟨rule, hmem, hflags⟩ with hspared | hspared
  · exact hspared.2.2
  · rw [hspared.1 rule hmem hflags] at hleading
    contradiction

/-- Left alone though a rule that asks for nothing behind it flags it: the character before it is
flagged unconditionally. -/
theorem unconditionalAt_previous_of_plain {i : Nat} {c : Char} (hi : i < input.length)
    (hplain : (framedLetters rules stack input around)[around.before.length + i]? = some (.plain c))
    {rule : Rule} (hmem : rule ∈ rules)
    (hflags : rule.FlagsAt stack (around.enclose input) (around.before.length + i))
    (htrailing : rule.trailing = false) :
    UnconditionalAt rules stack (around.enclose input) (around.before.length + i - 1) := by
  rcases spared_of_plain hi hplain ⟨rule, hmem, hflags⟩ with hspared | hspared
  · rw [hspared.1 rule hmem hflags] at htrailing
    contradiction
  · exact hspared.2.2.2

end framed

end MarkdownWriter
