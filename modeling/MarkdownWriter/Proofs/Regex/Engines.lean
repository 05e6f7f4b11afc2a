import MarkdownWriter.Proofs.Regex.Forms
import MarkdownWriter.Proofs.Regex.Reading
import MarkdownWriter.Proofs.Regex.Search
import MarkdownWriter.Regex.Engine

/-!
# What is relied on in an engine

An engine is somebody else's library. What is relied on is what such libraries say of their notation
(`Engine.IsLawful`):

* **Parts.** A character that is escaped matches itself, `[\r\n][\t ]*` matches a line break and the
  spaces and tabs behind it, and `(?:…)` matches what is inside of it, as that does alone. What
  parts match in a row, the text made of them matches (`Engine.Composes`).
* **Capture.** The first group `(…)` of a text captures what is inside of it.

A fragment goes into a group of its own only if the engine accepts it alone and in that group.
Neither is enough: alone `a)|(?:b` is no expression, but in a group of its own it becomes two; and
where a `#` begins a comment, the parenthesis behind it no longer closes the group, so that a
fragment which is an expression is none in a group.

The engine for the notation of `Regex.read` is lawful (`Engine.isLawful_plain`), since it reads text
piece by piece.
-/

namespace MarkdownWriter

/-! ## Stretches -/

/-- An expression matches the stretch of a text between two places, whether the match is preferred
or not. -/
def Expression.Takes (expression : Expression) (text : List Char) (first stop : Nat) : Prop :=
  ∃ last ∈ expression.ends text first, last.stop = stop

/-- Between two places of a text there is a given character. -/
def HoldsCharacter (c : Char) (text : List Char) (first stop : Nat) : Prop :=
  text[first]? = some c ∧ stop = first + 1

/-- Between two places of a text there is a line break with nothing but spaces and tabs behind it.
-/
def HoldsLineStart (text : List Char) (first stop : Nat) : Prop :=
  ∃ b spacing behind, text.drop first = b :: spacing ++ behind ∧ stop = first + 1 + spacing.length ∧
    b ∈ ['\r', '\n'] ∧ ∀ c ∈ spacing, c ∈ ['\t', ' ']

/-! ## Laws -/

/-- A text in the notation of an engine that is made of parts, with the stretches that the parts
match in a row. -/
inductive Engine.Composes (engine : Engine) :
    List Char → (List Char → Nat → Nat → Prop) → Prop where
  | escaped (c : Char) : Composes engine (engine.escape c) (HoldsCharacter c)
  | lineStart : Composes engine "[\\r\\n][\\t ]*".toList HoldsLineStart
  /-- A fragment that is accepted alone and in a group of its own. -/
  | grouped {fragment : List Char} {expression : Expression}
    (halone : engine.compile fragment = some expression)
      (hgroup : (engine.compile (['(', '?', ':'] ++ fragment ++ [')'])).isSome = true) :
      Composes engine (['(', '?', ':'] ++ fragment ++ [')']) expression.Takes
  | append {front back : List Char} {takes takes' : List Char → Nat → Nat → Prop}
    (hfront : Composes engine front takes)
      (hback : Composes engine back takes') :
      Composes engine (front ++ back) fun text first stop =>
        ∃ middle, takes text first middle ∧ takes' text middle stop

/-- What is relied on in an engine. Nothing is said about texts that it does not accept. -/
structure Engine.IsLawful (engine : Engine) : Prop where
  /-- A text made of parts matches what they match in a row. -/
  takes_iff : ∀ {source takes expression}, engine.Composes source takes →
    engine.compile source = some expression → ∀ {text first stop}, first ≤ text.length →
    (expression.Takes text first stop ↔ takes text first stop)
  /-- Behind a group so does the rest, and the group captures what is inside of it. -/
  captures : ∀ {lead source takes takes' expression}, engine.Composes lead takes →
    engine.Composes source takes' →
    engine.compile ('(' :: lead ++ [')'] ++ source) = some expression →
    ∀ {text first}, first ≤ text.length →
    (∀ last ∈ expression.ends text first, ∃ length, last.marked = some length ∧
        takes text first (first + length) ∧ takes' text (first + length) last.stop) ∧
      ∀ middle stop, takes text first middle → takes' text middle stop →
        expression.Takes text first stop

/-! ## Stretches of the library's own expressions -/

namespace Regex

variable {regex first second : Regex} {text : List Char} {i j : Nat}

/-- The stretches an expression is searched for are those it takes. -/
theorem takes_compiled_iff :
    regex.compiled.Takes text i j ↔
      ∃ taken post, text.drop i = taken ++ post ∧ j = i + taken.length ∧
        regex.Takes i taken post := by
  constructor
  · rintro ⟨last, hlast, rfl⟩
    exact exists_takes_of_mem_ends hlast
  · rintro ⟨taken, post, hdrop, rfl, htakes⟩
    exact exists_end_of_takes hdrop htakes

/-- Expressions that take the same are searched for alike. -/
theorem takes_compiled_congr (h : first.Takes = second.Takes) : first.compiled.Takes text i j ↔
    second.compiled.Takes text i j := by
  rw [takes_compiled_iff, takes_compiled_iff, h]

/-- One expression behind the other. -/
theorem takes_compiled_seq : (seq first second).compiled.Takes text i j ↔
    ∃ k, first.compiled.Takes text i k ∧ second.compiled.Takes text k j := by
  simp only [takes_compiled_iff]
  constructor
  · rintro ⟨_, post, hdrop, rfl, front, back, rfl, hfront, hback⟩
    rw [List.append_assoc] at hdrop
    refine ⟨i + front.length, ⟨front, back ++ post, hdrop, rfl, hfront⟩, back, post, ?_, ?_, hback⟩
    · rw [← List.drop_drop, hdrop, List.drop_left]
    · rw [List.length_append, Nat.add_assoc]
  · rintro ⟨_, ⟨front, rest, hdrop, rfl, hfront⟩, back, post, hrest, rfl, hback⟩
    rw [← List.drop_drop, hdrop, List.drop_left] at hrest
    subst hrest
    refine ⟨front ++ back, post, by rw [hdrop, List.append_assoc], ?_, front, back, rfl, hfront,
      hback⟩
    rw [List.length_append, Nat.add_assoc]

/-- The empty text is between a place and itself. -/
theorem takes_compiled_empty : empty.compiled.Takes text i j ↔ i = j := by
  simp [Expression.Takes, compiled, ends]

/-- The first of several expressions, and then the others. -/
theorem takes_compiled_sequence_cons {rest : List Regex} :
    (sequence (first :: rest)).compiled.Takes text i j ↔
    ∃ k, first.compiled.Takes text i k ∧ (sequence rest).compiled.Takes text k j := by
  cases rest with
  | nil => simp [sequence, takes_compiled_empty]
  | cons => exact takes_compiled_seq

/-- Expressions in two rows, one behind the other. -/
theorem takes_compiled_sequence_append {front back : List Regex} :
    (sequence (front ++ back)).compiled.Takes text i j ↔
      ∃ k, (sequence front).compiled.Takes text i k ∧ (sequence back).compiled.Takes text k j := by
  induction front generalizing i with
  | nil => simp [sequence, takes_compiled_empty]
  | cons regex front ih =>
      simp only [List.cons_append, takes_compiled_sequence_cons, ih]
      constructor
      · rintro ⟨k, hfirst, l, hfront, hback⟩
        exact ⟨l, ⟨k, hfirst, hfront⟩, hback⟩
      · rintro ⟨l, ⟨k, hfirst, hfront⟩, hback⟩
        exact ⟨k, hfirst, l, hfront, hback⟩

/-- A character is taken where it stands. -/
theorem takes_compiled_character {c : Char} :
    (character c).compiled.Takes text i j ↔ HoldsCharacter c text i j := by
  unfold HoldsCharacter
  rw [takes_compiled_iff, ← List.head?_drop, List.head?_eq_some_iff]
  simp only [takes_character]
  constructor
  · rintro ⟨_, post, hdrop, hj, rfl⟩
    exact ⟨⟨post, hdrop⟩, hj⟩
  · rintro ⟨⟨post, hdrop⟩, hj⟩
    exact ⟨[c], post, hdrop, hj, rfl⟩

/-- A line break is taken with the spaces and tabs behind it. -/
theorem takes_compiled_lineStart :
    (sequence [oneOf ['\r', '\n'], star (oneOf ['\t', ' '])]).compiled.Takes text i j ↔
      HoldsLineStart text i j := by
  unfold HoldsLineStart
  simp only [sequence, takes_compiled_iff, takes_seq, takes_oneOf]
  constructor
  · rintro ⟨_, post, hdrop, rfl, _, spacing, rfl, ⟨b, hb, rfl⟩, hspacing⟩
    exact ⟨b, spacing, post, hdrop, by simp [Nat.add_assoc, Nat.add_comm 1], hb,
      fun c hc => CharSet.contains_of.mp (takes_star_set.mp hspacing c hc)⟩
  · rintro ⟨b, spacing, behind, hdrop, rfl, hb, hspacing⟩
    exact ⟨b :: spacing, behind, hdrop, by simp [Nat.add_assoc, Nat.add_comm 1], [b], spacing, rfl,
      ⟨b, hb, rfl⟩, takes_star_set.mpr fun c hc => CharSet.contains_of.mpr (hspacing c hc)⟩

/-! ## Reading parts -/

namespace Reading

/-- The start of a line is read as two expressions. -/
theorem readText_lineStart (reading : Reading) {rest : List Char} (hrest : rest.head? ≠ some '?') :
    reading.readText ("[\\r\\n][\\t ]*".toList ++ rest) =
      { reading with
        current := (reading.current.push (.oneOf ['\r', '\n'])).push (.star (.oneOf ['\t', ' '])) :
          Reading }.readText
        rest := by
  have htokens : (symbols "[\\r\\n][\\t ]*".toList).bind tokens =
      some [.item (.oneOf ['\r', '\n']), .item (.oneOf ['\t', ' ']), .repetition 0 none true] := by
    decide +kernel
  exact readText_append (readText_eq_foldlM htokens reading) hrest

/-- A character that is escaped is read as itself. -/
theorem readText_literal (reading : Reading) (c : Char) (rest : List Char) :
    reading.readText (literal c ++ rest) =
      { reading with current := reading.current.push (.character c) : Reading }.readText rest := by
  unfold literal
  split
  · next hoperator =>
      have hescaped : ∀ d ∈ operators, symbols ['\\', d] = some [.literal d] := by
        simp [operators, symbols, escaped, Text.isPunctuation]
      exact readText_token (hescaped c (List.contains_iff_mem.mp hoperator)) (fun _ _ => rfl) rfl
  · next hplain =>
      have hoperators : '\\' :: signs ⊆ operators := by simp [signs, operators]
      have hc : c ∉ '\\' :: signs :=
        fun hmem => hplain (List.contains_iff_mem.mpr (hoperators hmem))
      obtain ⟨hbackslash, hc⟩ := not_or.mp (mt List.mem_cons.mpr hc)
      exact readText_token (symbols_bare hbackslash []) (fun more _ => readToken_character hc more)
        rfl

end Reading

/-- A character that stands for itself is no `?`, as that is escaped. -/
theorem head?_literal (c : Char) : (literal c).head? ≠ some '?' := by
  unfold literal
  split
  · simp
  · next hplain =>
      intro hc
      obtain rfl := Option.some.inj hc
      exact hplain (by decide)

/-- A part of a text is read as a row of expressions, whatever stands in front of it and behind it.
-/
structure IsPart (source : List Char) (takes : List Char → Nat → Nat → Prop) : Prop where
  head : source.head? ≠ some '?'
  reads : ∀ reading : Reading, ∃ items anyMarked,
    (reading.anyMarked = true → anyMarked = true ∧ ∀ regex ∈ items, regex.isUnmarked = true) ∧
    (∀ rest : List Char, rest.head? ≠ some '?' → reading.readText (source ++ rest) =
      { reading with
        current := { reading.current with items := items.reverse ++ reading.current.items }
        anyMarked := anyMarked : Reading }.readText rest) ∧
    ∀ {text first stop}, (sequence items).compiled.Takes text first stop ↔ takes text first stop

namespace IsPart

/-- An escaped character is a part. -/
theorem escaped (c : Char) : IsPart (literal c) (HoldsCharacter c) where
  head := head?_literal c
  reads := fun reading => ⟨[character c], reading.anyMarked,
    fun hmarked => ⟨hmarked, List.forall_mem_singleton.mpr rfl⟩, fun rest _ =>
      reading.readText_literal c rest, takes_compiled_character⟩

/-- The start of a line is a part. -/
theorem lineStart : IsPart "[\\r\\n][\\t ]*".toList HoldsLineStart where
  head := by decide
  reads := fun reading => ⟨[oneOf ['\r', '\n'], star (oneOf ['\t', ' '])], reading.anyMarked,
    fun hmarked => ⟨hmarked, by decide⟩, fun _ =>
      reading.readText_lineStart, takes_compiled_lineStart⟩

/-- A fragment that can be read alone is one more expression, without marks if a group is marked
already. -/
theorem grouped {fragment : List Char} {regex : Regex} (h : read fragment = some regex) :
    IsPart (['(', '?', ':'] ++ fragment ++ [')']) regex.compiled.Takes where
  head := by simp
  reads := by
    intro reading
    obtain ⟨anyMarked, hmarked, hread⟩ := Reading.readText_grouped h reading
    refine ⟨[regex.remarked reading.anyMarked], anyMarked, fun hany => ⟨hmarked hany, ?_⟩,
      fun rest _ => ?_, ?_⟩
    · rw [hany]
      exact List.forall_mem_singleton.mpr (isUnmarked_unmarked regex)
    · have htext :
          ['(', '?', ':'] ++ fragment ++ [')'] ++ rest =
            '(' :: '?' :: ':' :: (fragment ++ ')' :: rest) := by
        simp
      rw [htext, hread]
      rfl
    · exact takes_compiled_congr (takes_remarked _ regex)

/-- Parts are put together to larger ones. -/
theorem append {front back : List Char} {takes takes' : List Char → Nat → Nat → Prop}
    (hfront : IsPart front takes) (hback : IsPart back takes') :
    IsPart (front ++ back) fun text first stop => ∃ middle, takes text first middle ∧
      takes' text middle stop where
  head := head?_append_ne hfront.head hback.head
  reads := by
    intro reading
    obtain ⟨items, anyMarked, hmarked, hread, htakes⟩ := hfront.reads reading
    obtain ⟨others, anyMarked', hmarked', hread', htakes'⟩ := hback.reads
      { reading with
        current := { reading.current with items := items.reverse ++ reading.current.items }
        anyMarked := anyMarked }
    refine ⟨items ++ others, anyMarked', fun hany => ?_, fun rest hrest => ?_, ?_⟩
    · obtain ⟨hany, hitems⟩ := hmarked hany
      obtain ⟨hany, hothers⟩ := hmarked' hany
      exact ⟨hany, List.forall_mem_append.mpr ⟨hitems, hothers⟩⟩
    · rw [List.append_assoc, hread _ (head?_append_ne hback.head hrest), hread' rest hrest,
        List.reverse_append, List.append_assoc]
    · intro text first stop
      rw [takes_compiled_sequence_append]
      simp only [htakes, htakes']

end IsPart

end Regex

/-- The parts for the engine of `Regex.read` are read as rows of expressions. -/
theorem Engine.Composes.isPart {source : List Char} {takes : List Char → Nat → Nat → Prop}
    (h : Engine.plain.Composes source takes) : Regex.IsPart source takes := by
  induction h with
  | escaped c => exact .escaped c
  | lineStart => exact .lineStart
  | grouped halone =>
      obtain ⟨regex, hread, rfl⟩ := Option.map_eq_some_iff.mp halone
      exact .grouped hread
  | append _ _ hfront hback => exact hfront.append hback

namespace Regex

/-- What is read to the end as a row of expressions is the row. -/
theorem read_eq_sequence {source : List Char} {items : List Regex} (anyMarked : Bool)
    (h : ({} : Reading).readText source =
      ({ current := { items := items.reverse }, anyMarked := anyMarked } : Reading)) :
    read source = some (sequence items) := by
  rw [Reading.read_eq_bind, h]
  simp [Group.regex, Group.bar, choice]

/-- A text that is a part is read as expressions in a row. -/
theorem IsPart.exists_read {source : List Char} {takes : List Char → Nat → Nat → Prop}
    (h : IsPart source takes) :
    ∃ items, read source = some (sequence items) ∧
      ∀ {text first stop}, (sequence items).compiled.Takes text first stop ↔
        takes text first stop := by
  obtain ⟨items, anyMarked, -, hread, htakes⟩ := h.reads {}
  refine ⟨items, read_eq_sequence anyMarked ?_, htakes⟩
  have hall := hread [] nofun
  rwa [List.append_nil, List.append_nil, Reading.readText_nil] at hall

/-- Behind a group the rest is read as expressions in a row without marks. -/
theorem IsPart.exists_read_group {lead source : List Char}
    {takes takes' : List Char → Nat → Nat → Prop} (hlead : IsPart lead takes)
    (hsource : IsPart source takes') :
    ∃ items others,
      read ('(' :: lead ++ [')'] ++ source) = some (sequence (.marked (sequence items) :: others)) ∧
      (∀ regex ∈ others, regex.isUnmarked = true) ∧
      (∀ {text first stop}, (sequence items).compiled.Takes text first stop ↔
        takes text first stop) ∧ ∀ {text first stop},
          (sequence others).compiled.Takes text first stop ↔ takes' text first stop := by
  obtain ⟨items, anyMarked, hmarked, hread, htakes⟩ := hlead.reads
    { current := { marked := true }, outer := [{}], anyMarked := true }
  obtain ⟨rfl, -⟩ := hmarked rfl
  obtain ⟨others, anyMarked, hmarked', hread', htakes'⟩ := hsource.reads
    { current := { items := [.marked (sequence items)] }, anyMarked := true }
  refine ⟨items, others, read_eq_sequence anyMarked ?_, (hmarked' rfl).2, htakes, htakes'⟩
  have hgroup := Reading.readText_marked hlead.head hread source
  have hregex :
      Group.regex { marked := true, items := items.reverse ++ [] } = .marked (sequence items) := by
    simp [Group.regex, Group.bar, choice]
  rw [hregex] at hgroup
  have hrest := hread' [] (by simp)
  rw [List.append_nil, Reading.readText_nil] at hrest
  rw [hgroup]
  refine hrest.trans ?_
  rw [List.reverse_cons]

/-- A sequence is unmarked if all of its expressions are. -/
theorem isUnmarked_sequence {all : List Regex} (h : ∀ regex ∈ all, regex.isUnmarked = true) :
    (sequence all).isUnmarked = true := by
  fun_induction sequence all with
  | case1 => rfl
  | case2 regex => exact h regex List.mem_cons_self
  | case3 regex rest _ ih =>
      obtain ⟨hregex, hrest⟩ := List.forall_mem_cons.mp h
      exact Bool.and_eq_true_iff.mpr ⟨hregex, ih hrest⟩

/-- An end of a row that begins with a group is behind what is captured, with its length. -/
theorem exists_marked_of_mem_ends {body : Regex} {others : List Regex}
    (hothers : ∀ regex ∈ others, regex.isUnmarked = true) {place last : Place}
    (h : last ∈ (sequence (.marked body :: others)).ends place) :
    ∃ middle ∈ body.ends place, last.marked = some (middle.offset - place.offset) ∧
      last ∈ (sequence others).ends { middle with
        marked := some (middle.offset - place.offset) } := by
  obtain ⟨group, hgroup, hlast⟩ : ∃ group ∈ (Regex.marked body).ends place,
      last ∈ (sequence others).ends group := by
    cases others with
    | nil => exact ⟨last, h, List.mem_singleton.mpr rfl⟩
    | cons => exact List.mem_flatMap.mp h
  obtain ⟨middle, hmiddle, rfl⟩ := List.mem_map.mp hgroup
  exact ⟨middle, hmiddle, marked_of_mem_ends (isUnmarked_sequence hothers) hlast, hlast⟩

end Regex

/-- **The engine for the notation of `Regex.read` is lawful.** -/
theorem Engine.isLawful_plain : Engine.plain.IsLawful where
  takes_iff := by
    intro source takes expression hsource hcompile text first stop _
    obtain ⟨items, hread, htakes⟩ := hsource.isPart.exists_read
    obtain ⟨regex, hregex, rfl⟩ := Option.map_eq_some_iff.mp hcompile
    obtain rfl := Option.some.inj (hregex.symm.trans hread)
    exact htakes
  captures := by
    intro lead source takes takes' expression hlead hsource hcompile text first _
    obtain ⟨items, others, hread, hothers, htakes, htakes'⟩ :=
      hlead.isPart.exists_read_group hsource.isPart
    obtain ⟨regex, hregex, rfl⟩ := Option.map_eq_some_iff.mp hcompile
    obtain rfl := Option.some.inj (hregex.symm.trans hread)
    constructor
    · intro last hlast
      obtain ⟨place, hplace, rfl⟩ := List.mem_map.mp hlast
      obtain ⟨middle, hmiddle, hmarked, hrest⟩ := Regex.exists_marked_of_mem_ends hothers hplace
      obtain ⟨front, hfront, hfronttakes⟩ := (Regex.describes _).sound hmiddle
      obtain ⟨back, hback, hbacktakes⟩ := (Regex.describes _).sound hrest
      have hlength : middle.offset - first = front.length := by
        rw [hfront.offset_eq, Nat.add_sub_cancel_left]
      refine ⟨front.length, by rw [hmarked, ← hlength], htakes.mp ?_, htakes'.mp ?_⟩
      · exact Regex.takes_compiled_iff.mpr ⟨front, middle.rest, hfront.rest_eq, rfl, hfronttakes⟩
      · have hdrop : text.drop first = front ++ middle.rest := hfront.rest_eq
        refine Regex.takes_compiled_iff.mpr ⟨back, place.rest, ?_, ?_,
          hfront.offset_eq ▸ hbacktakes⟩
        · rw [← List.drop_drop, hdrop, List.drop_left]
          exact hback.rest_eq
        · rw [hback.offset_eq]
          exact congrArg (· + back.length) hfront.offset_eq
    · intro middle stop hmiddle hstop
      refine Regex.takes_compiled_sequence_cons.mpr ⟨middle, ?_, htakes'.mpr hstop⟩
      have hbody : (Regex.marked (Regex.sequence items)).Takes = (Regex.sequence items).Takes := rfl
      exact (Regex.takes_compiled_congr hbody).mpr (htakes.mpr hmiddle)

end MarkdownWriter
