import MarkdownWriter.Escape.Literal
import Mathlib.Tactic.Common

/-!
# Which characters of a literal text are escaped

The escaper merges what the rules say about a character into a reason, and decides by the reasons of
three neighbouring characters. Here the same is said by the rules themselves: `FlaggedAt`,
`OnlyLeadingAt`, `OnlyTrailingAt` and `UnconditionalAt` speak of the rules that flag one place of a
text.

* **When a character is escaped** (`getElem?_lettersBetween_eq_some`): it is flagged, and neither
  the character behind it nor the one before it spares it. `SparedByNext` and `SparedByPrevious` say
  what that means; the first looks only at characters of the literal text, the second also at the
  last character before it.
* **Unconditional flags stand** (`letter_escaped_of_unconditional`): a character flagged whatever is
  around it is escaped.
-/

namespace MarkdownWriter

/-- The text that rules are matched against: a literal text between its surroundings. -/
def Surroundings.enclose (around : Surroundings) (input : List Char) : List Char :=
  around.before ++ input ++ around.after

/-- A rule that applies flags the character at an offset. -/
def Rule.FlagsAt (rule : Rule) (stack : List Construct) (text : List Char) (offset : Nat) : Prop :=
  rule.applies stack = true ∧ offset ∈ rule.positions text

section flags

variable (rules : List Rule) (stack : List Construct) (text : List Char) (offset : Nat)

/-- Some rule flags the character. -/
def FlaggedAt : Prop :=
  ∃ rule ∈ rules, rule.FlagsAt stack text offset

/-- Every rule that flags the character asks for something before it. -/
def OnlyLeadingAt : Prop :=
  ∀ rule ∈ rules, rule.FlagsAt stack text offset → rule.leading = true

/-- Every rule that flags the character asks for something behind it. -/
def OnlyTrailingAt : Prop :=
  ∀ rule ∈ rules, rule.FlagsAt stack text offset → rule.trailing = true

/-- Of the rules that flag the character one asks for nothing before it, and one for nothing behind
it. -/
def UnconditionalAt : Prop :=
  (∃ rule ∈ rules, rule.FlagsAt stack text offset ∧ rule.leading = false) ∧
    ∃ rule ∈ rules, rule.FlagsAt stack text offset ∧ rule.trailing = false

/-- The character is one of ASCII's. -/
def AsciiAt (text : List Char) (offset : Nat) : Prop :=
  ∃ c, text[offset]? = some c ∧ c.toNat < 0x80

end flags

/-! ## Reasons -/

/-- The reasons of the flags at an offset. -/
def reasonsAt (flags : List Flags) (offset : Nat) : List Reason :=
  (flags.filter (·.positions.contains offset)).map Flags.reason

/-- Merging reasons asks of every one of them. -/
theorem foldl_both (reasons : List Reason) (first : Reason) :
    reasons.foldl (fun found reason => some (found.elim reason (·.both reason))) (some first) =
      some ⟨(first :: reasons).all Reason.before, (first :: reasons).all Reason.after⟩ := by
  induction reasons generalizing first with
  | nil => simp
  | cons reason reasons ih =>
      rw [List.foldl_cons, Option.elim_some, ih]
      simp [Reason.both, Bool.and_assoc]

/-- The reason at an offset: none without a flag, else what all flags there have in common. -/
theorem reasonAt_eq (flags : List Flags) (offset : Nat) :
    reasonAt flags offset =
      if reasonsAt flags offset = [] then none
      else some ⟨(reasonsAt flags offset).all Reason.before,
        (reasonsAt flags offset).all Reason.after⟩ := by
  unfold reasonAt
  change (reasonsAt flags offset).foldl _ none = _
  cases reasonsAt flags offset with
  | nil => rfl
  | cons first reasons =>
      rw [List.foldl_cons, Option.elim_none, foldl_both, if_neg (List.cons_ne_nil first reasons)]

section reasons

variable {rules : List Rule} {stack : List Construct} {text : List Char} {offset : Nat}

/-- The reasons at an offset are those of the rules that flag it. -/
theorem mem_reasonsAt {reason : Reason} :
    reason ∈ reasonsAt (Rule.flags rules stack text) offset ↔
      ∃ rule ∈ rules, rule.FlagsAt stack text offset ∧ reason = ⟨rule.leading, rule.trailing⟩ := by
  simp only [reasonsAt, Rule.flags, List.mem_map, List.mem_filter, Rule.FlagsAt,
    List.contains_iff_mem]
  constructor
  · rintro ⟨_, ⟨⟨rule, ⟨hmem, happlies⟩, rfl⟩, hoffset⟩, rfl⟩
    exact ⟨rule, hmem, ⟨happlies, hoffset⟩, rfl⟩
  · rintro ⟨rule, hmem, ⟨happlies, hoffset⟩, rfl⟩
    exact ⟨_, ⟨⟨rule, ⟨hmem, happlies⟩, rfl⟩, hoffset⟩, rfl⟩

/-- A character has no reason exactly if no rule flags it. -/
theorem reasonAt_eq_none_iff :
    reasonAt (Rule.flags rules stack text) offset = none ↔ ¬ FlaggedAt rules stack text offset := by
  rw [reasonAt_eq]
  split
  · next hnil =>
      simp only [true_iff]
      rintro ⟨rule, hmem, hflags⟩
      have := mem_reasonsAt.mpr ⟨rule, hmem, hflags, rfl⟩
      rw [hnil] at this
      contradiction
  · next hne =>
      simp only [reduceCtorEq, false_iff, Classical.not_not]
      obtain ⟨reason, hreason⟩ := List.exists_mem_of_ne_nil _ hne
      obtain ⟨rule, hmem, hflags, -⟩ := mem_reasonsAt.mp hreason
      exact ⟨rule, hmem, hflags⟩

/-- What the reason at an offset says about the rules that flag it. -/
theorem reasonAt_eq_some {reason : Reason}
    (h : reasonAt (Rule.flags rules stack text) offset = some reason) :
    (reason.before = true ↔ OnlyLeadingAt rules stack text offset) ∧
      (reason.after = true ↔ OnlyTrailingAt rules stack text offset) := by
  rw [reasonAt_eq] at h
  split at h
  · contradiction
  · obtain rfl := Option.some.inj h
    simp only [List.all_eq_true, mem_reasonsAt]
    constructor
    · constructor
      · intro hall rule hmem hflags
        exact hall _ ⟨rule, hmem, hflags, rfl⟩
      · rintro hall _ ⟨rule, hmem, hflags, rfl⟩
        exact hall rule hmem hflags
    · constructor
      · intro hall rule hmem hflags
        exact hall _ ⟨rule, hmem, hflags, rfl⟩
      · rintro hall _ ⟨rule, hmem, hflags, rfl⟩
        exact hall rule hmem hflags

/-- What is flagged unconditionally is flagged. -/
theorem UnconditionalAt.flaggedAt (h : UnconditionalAt rules stack text offset) :
    FlaggedAt rules stack text offset := by
  obtain ⟨⟨rule, hmem, hflags, -⟩, -⟩ := h
  exact ⟨rule, hmem, hflags⟩

/-- A flag is unconditional if not all rules behind it ask for something before the character, and
not all for something behind it. -/
theorem unconditionalAt_iff :
    UnconditionalAt rules stack text offset ↔
      ¬ OnlyLeadingAt rules stack text offset ∧ ¬ OnlyTrailingAt rules stack text offset := by
  simp only [UnconditionalAt, OnlyLeadingAt, OnlyTrailingAt, Classical.not_forall, exists_prop,
    Bool.not_eq_true]

/-- The mark of a character. -/
theorem getElem?_marks :
    (marks rules stack text)[offset]? =
      text[offset]?.map fun c => ⟨c, reasonAt (Rule.flags rules stack text) offset⟩ := by
  unfold marks
  rw [List.getElem?_mapIdx]

/-- A mark is unconditional as the flag it stands for is. -/
theorem any_isUnconditional_marks (h : offset < text.length) :
    (marks rules stack text)[offset]?.any Mark.isUnconditional = true ↔
      UnconditionalAt rules stack text offset := by
  rw [getElem?_marks, List.getElem?_eq_getElem h, Option.map_some, Option.any_some,
    Mark.isUnconditional, unconditionalAt_iff]
  cases hreason : reasonAt (Rule.flags rules stack text) offset with
  | none =>
      have hnone := reasonAt_eq_none_iff.mp hreason
      simp only [Option.any_none, Bool.false_eq_true, false_iff, not_and]
      intro hleading
      exact absurd (fun rule hmem hflags => absurd ⟨rule, hmem, hflags⟩ hnone) hleading
  | some reason =>
      obtain ⟨hbefore, hafter⟩ := reasonAt_eq_some hreason
      rw [Option.any_some, ← hbefore, ← hafter, Reason.isUnconditional]
      simp

end reasons

/-! ## Letters -/

section letters

variable (rules : List Rule) (stack : List Construct) (input : List Char) (around : Surroundings)
  (i : Nat)

/-- The next character of the literal text is flagged unconditionally, and that is enough: every
rule that flags this one asks for something behind it. -/
def SparedByNext : Prop :=
  OnlyTrailingAt rules stack (around.enclose input) (around.before.length + i) ∧
    AsciiAt (around.enclose input) (around.before.length + i) ∧ i + 1 < input.length ∧
    UnconditionalAt rules stack (around.enclose input) (around.before.length + i + 1)

/-- The character before, be it of the literal text or not, is flagged unconditionally, and that is
enough: every rule that flags this one asks for something before it. -/
def SparedByPrevious : Prop :=
  OnlyLeadingAt rules stack (around.enclose input) (around.before.length + i) ∧
    0 < around.before.length + i ∧ AsciiAt (around.enclose input) (around.before.length + i - 1) ∧
    UnconditionalAt rules stack (around.enclose input) (around.before.length + i - 1)

/-- The character is flagged, and neither neighbour spares it. -/
def EscapedAt : Prop :=
  FlaggedAt rules stack (around.enclose input) (around.before.length + i) ∧
    ¬ SparedByNext rules stack input around i ∧ ¬ SparedByPrevious rules stack input around i

end letters

/-- Each mark becomes a letter, which depends on the marks at both sides. -/
theorem getElem?_letters (previous : Option Mark) (all : List Mark) (i : Nat) :
    (letters previous all)[i]? =
      all[i]?.map fun mark =>
        ⟨mark.char, mark.needsEscape (if i = 0 then previous else all[i - 1]?) all[i + 1]?⟩ := by
  induction all generalizing previous i with
  | nil => rfl
  | cons mark rest ih =>
      cases i with
      | zero => simp [letters, List.head?_eq_getElem?]
      | succ i =>
          rw [letters, List.getElem?_cons_succ, ih]
          cases i <;> simp

theorem length_letters (previous : Option Mark) (all : List Mark) :
    (letters previous all).length = all.length := by
  induction all generalizing previous with
  | nil => rfl
  | cons mark rest ih => rw [letters, List.length_cons, ih, List.length_cons]

/-- The elements of the second of two lists. -/
theorem getElem?_append_add {α : Type} (front back : List α) {n : Nat} (h : front.length = n)
    {i : Nat} : (front ++ back)[n + i]? = back[i]? := by
  rw [List.getElem?_append_right (by omega), h, Nat.add_sub_cancel_left]

/-- The element that a list is cut at. -/
theorem getElem?_append_cons {α : Type} (front : List α) {x : α} {back : List α} :
    (front ++ x :: back)[front.length]? = some x :=
  getElem?_append_add front (x :: back) rfl (i := 0)

/-- The element behind it. -/
theorem getElem?_append_cons_succ {α : Type} (front : List α) {x : α} {back : List α} :
    (front ++ x :: back)[front.length + 1]? = back.head? := by
  rw [getElem?_append_add _ _ rfl, List.getElem?_cons_succ, List.head?_eq_getElem?]

section letters

variable (rules : List Rule) (stack : List Construct) {input : List Char} (around : Surroundings)
  {i : Nat}

/-- The characters of the literal text in the whole text. -/
theorem getElem?_enclose {c : Char} (h : input[i]? = some c) :
    (around.enclose input)[around.before.length + i]? = some c := by
  have hlt := (List.getElem?_eq_some_iff.mp h).1
  unfold Surroundings.enclose
  rw [List.append_assoc, List.getElem?_append_right (by omega), Nat.add_sub_cancel_left,
    List.getElem?_append_left hlt, h]

/-- The letter of a character, by the marks of the whole text. -/
theorem getElem?_lettersBetween {c : Char} (h : input[i]? = some c) :
    (lettersBetween rules stack input around)[i]? =
      some ⟨c, Mark.needsEscape
        (if around.before.length + i = 0 then none
          else (marks rules stack (around.enclose input))[around.before.length + i - 1]?)
        ⟨c, reasonAt (Rule.flags rules stack (around.enclose input)) (around.before.length + i)⟩
        (if i + 1 < input.length then (marks rules stack
          (around.enclose input))[around.before.length + i + 1]?
          else none)⟩ := by
  have hlt := (List.getElem?_eq_some_iff.mp h).1
  have hmarks : (marks rules stack (around.enclose input)).length =
      around.before.length + input.length + around.after.length := by
    simp [marks, Surroundings.enclose, Nat.add_assoc]
  have hprevious :
      (if i = 0 then ((marks rules stack (around.enclose input)).take around.before.length).getLast?
        else (((marks rules stack (around.enclose input)).drop around.before.length).take
          input.length)[i - 1]?) =
      if around.before.length + i = 0 then none
        else (marks rules stack (around.enclose input))[around.before.length + i - 1]? := by
    rcases Nat.eq_zero_or_pos i with rfl | hi
    · rw [if_pos rfl, Nat.add_zero, List.getLast?_eq_getElem?, List.length_take_of_le (by omega)]
      split
      · next hzero => rw [hzero, List.take_zero, List.getElem?_nil]
      · exact List.getElem?_take_of_lt (by omega)
    · rw [if_neg (by omega), if_neg (by omega), List.getElem?_take_of_lt (by omega),
        List.getElem?_drop, Nat.add_sub_assoc hi]
  unfold lettersBetween
  change (letters ((marks rules stack (around.enclose input)).take around.before.length).getLast?
    (((marks rules stack (around.enclose input)).drop around.before.length).take
      input.length))[i]? = _
  have hmark : (marks rules stack (around.enclose input))[around.before.length + i]? =
      some ⟨c, reasonAt (Rule.flags rules stack (around.enclose input))
        (around.before.length + i)⟩ := by
    rw [getElem?_marks, getElem?_enclose around h, Option.map_some]
  rw [getElem?_letters, hprevious, List.getElem?_take_of_lt hlt, List.getElem?_take,
    List.getElem?_drop, List.getElem?_drop, hmark]
  rfl

/-- Every character becomes a letter, which is escaped as the rules say. -/
theorem exists_letter {c : Char} (h : input[i]? = some c) :
    ∃ escaped, (lettersBetween rules stack input around)[i]? = some ⟨c, escaped⟩ ∧
      (escaped = true ↔ EscapedAt rules stack input around i) := by
  refine ⟨_, getElem?_lettersBetween rules stack around h, ?_⟩
  have hlt := (List.getElem?_eq_some_iff.mp h).1
  have hlength :
      (around.enclose input).length =
        around.before.length + input.length + around.after.length := by
    simp [Surroundings.enclose, Nat.add_assoc]
  have hc := getElem?_enclose around h
  cases hreason :
    reasonAt (Rule.flags rules stack (around.enclose input)) (around.before.length + i) with
  | none => simp [Mark.needsEscape, EscapedAt, reasonAt_eq_none_iff.mp hreason]
  | some reason =>
      have hflagged : FlaggedAt rules stack (around.enclose input) (around.before.length + i) := by
        by_contra hnot
        rw [reasonAt_eq_none_iff.mpr hnot] at hreason
        contradiction
      obtain ⟨hbefore, hafter⟩ := reasonAt_eq_some hreason
      have hascii : Mark.isAscii ⟨c, some reason⟩ = true ↔
          AsciiAt (around.enclose input) (around.before.length + i) := by
        simp [AsciiAt, hc, Mark.isAscii]
      have hnext : (if i + 1 < input.length then
            (marks rules stack (around.enclose input))[around.before.length + i + 1]? else none).any
              Mark.isUnconditional = true ↔
          i + 1 < input.length ∧
            UnconditionalAt rules stack (around.enclose input) (around.before.length + i + 1) := by
        split
        · next hin => rw [any_isUnconditional_marks (by omega), and_iff_right hin]
        · next hout => simp [hout]
      have hprevious : (if around.before.length + i = 0 then none
            else (marks rules stack (around.enclose input))[around.before.length + i - 1]?).any
              (fun mark => mark.isAscii && mark.isUnconditional) = true ↔
          0 < around.before.length + i ∧
            AsciiAt (around.enclose input) (around.before.length + i - 1) ∧
            UnconditionalAt rules stack (around.enclose input) (around.before.length + i - 1) := by
        split
        · next hzero => simp [hzero]
        · next hpos =>
            have hin : around.before.length + i - 1 < (around.enclose input).length := by omega
            rw [← any_isUnconditional_marks hin, getElem?_marks, List.getElem?_eq_getElem hin]
            simp [AsciiAt, List.getElem?_eq_getElem hin, Mark.isAscii, Nat.pos_of_ne_zero hpos]
      simp only [Mark.needsEscape, Bool.and_eq_true, Bool.not_eq_true', ← Bool.not_eq_true, hnext,
        hprevious, hbefore, hafter, hascii, EscapedAt, SparedByNext, SparedByPrevious,
        and_iff_right hflagged, and_assoc]

/-- The letters of a text are its characters. -/
theorem map_char_lettersBetween (input : List Char) :
    (lettersBetween rules stack input around).map Letter.char = input := by
  apply List.ext_getElem?
  intro i
  rw [List.getElem?_map]
  cases hi : input[i]? with
  | some c =>
      obtain ⟨escaped, hletter, -⟩ := exists_letter rules stack around hi
      rw [hletter, Option.map_some]
  | none =>
      have hlength : (lettersBetween rules stack input around).length ≤ input.length := by
        rw [lettersBetween, length_letters]
        exact List.length_take_le _ _
      rw [List.getElem?_eq_none (Nat.le_trans hlength (List.getElem?_eq_none_iff.mp hi)),
        Option.map_none]

theorem length_lettersBetween (input : List Char) :
    (lettersBetween rules stack input around).length = input.length := by
  rw [← List.length_map Letter.char, map_char_lettersBetween]

end letters

section escaped

variable {rules : List Rule} {stack : List Construct} {input : List Char} {around : Surroundings}
  {i : Nat}

/-- **When a character is escaped.** It is flagged, and neither neighbour spares it. -/
theorem getElem?_lettersBetween_eq_some {letter : Letter} :
    (lettersBetween rules stack input around)[i]? = some letter ↔
      input[i]? = some letter.char ∧
        (letter.escaped = true ↔ EscapedAt rules stack input around i) := by
  constructor
  · intro h
    have hc : input[i]? = some letter.char := by
      rw [← map_char_lettersBetween rules stack around input, List.getElem?_map, h, Option.map_some]
    obtain ⟨escaped, hletter, hescaped⟩ := exists_letter rules stack around hc
    obtain rfl : letter.escaped = escaped :=
      congrArg Letter.escaped (Option.some.inj (h.symm.trans hletter))
    exact ⟨hc, hescaped⟩
  · rintro ⟨hc, hiff⟩
    obtain ⟨escaped, hletter, hescaped⟩ := exists_letter rules stack around hc
    rw [hletter, Bool.eq_iff_iff.mpr (hescaped.trans hiff.symm)]

/-- No neighbour spares a character that is flagged whatever is around it. -/
theorem UnconditionalAt.escapedAt
    (hflag : UnconditionalAt rules stack (around.enclose input) (around.before.length + i)) :
    EscapedAt rules stack input around i := by
  obtain ⟨hleading, htrailing⟩ := unconditionalAt_iff.mp hflag
  obtain ⟨⟨rule, hmem, hflags, -⟩, -⟩ := hflag
  exact ⟨⟨rule, hmem, hflags⟩, fun hspared => htrailing hspared.1,
    fun hspared => hleading hspared.1⟩

/-- A character flagged whatever is around it is escaped. -/
theorem letter_escaped_of_unconditional {c : Char} (h : input[i]? = some c)
    (hflag : UnconditionalAt rules stack (around.enclose input) (around.before.length + i)) :
    (lettersBetween rules stack input around)[i]? = some ⟨c, true⟩ :=
  getElem?_lettersBetween_eq_some.mpr ⟨h, fun _ => hflag.escapedAt, fun _ => rfl⟩

end escaped

end MarkdownWriter
