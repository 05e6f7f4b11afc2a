import MarkdownWriter.Escape.Pattern
import MarkdownWriter.Proofs.Regex.Engines
import MarkdownWriter.Proofs.Text.Endings
import MarkdownWriter.Render.Form

/-!
# What the patterns of extensions flag

A pattern has its fragments put together as text, and an engine compiles only the whole. The engine
may be any that is lawful (`Engine.IsLawful`).

* **Well-formed patterns** (`Pattern.IsWellFormed`): if each fragment is accepted alone and in the
  group it is put into, a rule of the pattern flags the pattern's own character, and only where the
  fragments and the start of a line ask for it (`Pattern.FitsAt`). It flags something in every text
  that has such a place. So says `Pattern.positions_fitsAt`.
* **Others** (`Pattern.positions_of_spliced_fragments`): a fragment that closes the group around it
  and opens another one can make up for both in the whole, which then is accepted with a meaning of
  its own. It flags other characters, or what is behind the end of the text.
-/

namespace MarkdownWriter

open Text

/-! ## Fragments -/

/-- What a fragment asks for stands between two places of a text; without a fragment nothing does.
-/
def Engine.Fits (engine : Engine) (fragment : Option String) (text : List Char) (first stop : Nat) :
    Prop :=
  match fragment with
  | none => first = stop
  | some fragment =>
      ∃ expression, engine.compile fragment.toList = some expression ∧
        expression.Takes text first stop

/-- What a fragment asks for is a stretch of the text. -/
theorem Engine.Fits.le {engine : Engine} {fragment : Option String} {text : List Char}
    {first stop : Nat} (h : engine.Fits fragment text first stop) (hfirst : first ≤ text.length) :
    first ≤ stop := by
  cases fragment with
  | none => exact Nat.le_of_eq h
  | some fragment =>
      obtain ⟨expression, -, last, hlast, rfl⟩ := h
      exact (expression.bounds hfirst hlast).1

/-- An engine accepts a fragment, alone and in a group of its own. -/
def Engine.Accepts (engine : Engine) (fragment : String) : Prop :=
  (engine.compile fragment.toList).isSome = true ∧
    (engine.compile (Pattern.grouped fragment)).isSome = true

/-- A text ends in the start of a line: a line break, with nothing but spaces and tabs behind it. -/
def StartsLine (front : List Char) : Prop :=
  ∃ above b spacing, front = above ++ b :: spacing ∧ isLineBreak b = true ∧
    ∀ c ∈ spacing, isSpacing c = true

/-- The start of a line is part of its text. -/
theorem HoldsLineStart.le_length {text : List Char} {first stop : Nat}
    (h : HoldsLineStart text first stop) (hfirst : first ≤ text.length) : stop ≤ text.length := by
  obtain ⟨b, spacing, behind, hdrop, rfl, -, -⟩ := h
  have hlength := congrArg List.length hdrop
  rw [List.length_drop, List.length_append, List.length_cons] at hlength
  omega

/-- A stretch that holds the start of a line ends behind one. -/
theorem exists_holdsLineStart_iff {text : List Char} {stop : Nat} (hstop : stop ≤ text.length) :
    (∃ first ≤ text.length, HoldsLineStart text first stop) ↔ StartsLine (text.take stop) := by
  have hbreak {b : Char} : b ∈ ['\r', '\n'] ↔ isLineBreak b = true := by
    simp [isLineBreak_iff, or_comm]
  have hspacing {c : Char} : c ∈ ['\t', ' '] ↔ isSpacing c = true := by
    simp [isSpacing, or_comm]
  simp only [HoldsLineStart, StartsLine, hbreak, hspacing]
  constructor
  · rintro ⟨first, hfirst, b, spacing, behind, hdrop, rfl, hb, hall⟩
    refine ⟨text.take first, b, spacing, ?_, hb, hall⟩
    have htext : text = text.take first ++ (b :: spacing) ++ behind := by
      rw [List.append_assoc, ← hdrop, List.take_append_drop]
    have hlength : first + 1 + spacing.length = (text.take first ++ b :: spacing).length := by
      rw [List.length_append, List.length_take_of_le hfirst, List.length_cons]
      omega
    rw [hlength]
    exact (congrArg (List.take _) htext).trans List.take_left
  · rintro ⟨above, b, spacing, htake, hb, hall⟩
    have hlength := congrArg List.length htake
    rw [List.length_take_of_le hstop, List.length_append, List.length_cons] at hlength
    refine ⟨above.length, by omega, b, spacing, text.drop stop, ?_, by omega, hb, hall⟩
    have htext : text = above ++ (b :: spacing ++ text.drop stop) := by
      rw [← List.append_assoc, ← htake, List.take_append_drop]
    exact (congrArg (List.drop _) htext).trans List.drop_left

namespace Pattern

/-- An engine accepts every fragment of a pattern. -/
structure IsWellFormed (engine : Engine) (pattern : Pattern) : Prop where
  before : ∀ fragment ∈ pattern.before, engine.Accepts fragment
  after : ∀ fragment ∈ pattern.after, engine.Accepts fragment

/-- A place in a text has the pattern's character, with what the pattern asks for before and behind
it. -/
structure FitsAt (engine : Engine) (pattern : Pattern) (text : List Char) (place : Nat) : Prop where
  character : text[place]? = some pattern.character
  before : ∃ first ≤ place, engine.Fits pattern.before text first place ∧
    (pattern.atBreak = true → StartsLine (text.take first))
  after : ∃ stop, engine.Fits pattern.after text (place + 1) stop

/-! ## The parts of the expression -/

section parts

variable {engine : Engine} {pattern : Pattern} {text : List Char} {first stop place : Nat}

/-- What a pattern asks for before its character stands between two places. -/
def LeadsAt (engine : Engine) (pattern : Pattern) (text : List Char) (first stop : Nat) : Prop :=
  ∃ middle, (if pattern.atBreak = true then HoldsLineStart text first middle else first = middle) ∧
    engine.Fits pattern.before text middle stop

/-- The character of a pattern and what it asks for behind that stand between two places. -/
def FollowsAt (engine : Engine) (pattern : Pattern) (text : List Char) (first stop : Nat) : Prop :=
  ∃ middle, HoldsCharacter pattern.character text first middle ∧
    engine.Fits pattern.after text middle stop

/-- A group of its own matches what the fragment in it asks for. -/
theorem exists_composes_grouped {fragment : String} (h : engine.Accepts fragment) :
    ∃ takes, engine.Composes (grouped fragment) takes ∧
      ∀ {text first stop}, takes text first stop ↔ engine.Fits (some fragment) text first stop := by
  obtain ⟨expression, hexpression⟩ := Option.isSome_iff_exists.mp h.1
  refine ⟨expression.Takes, .grouped hexpression h.2,
    fun {text first stop} => ⟨fun htakes => ⟨_, hexpression, htakes⟩, ?_⟩⟩
  rintro ⟨other, hother, htakes⟩
  obtain rfl := Option.some.inj (hexpression.symm.trans hother)
  exact htakes

/-- What stands before the character is made of parts. -/
theorem exists_composes_leading (h : pattern.IsWellFormed engine)
    (hleading : pattern.leading ≠ []) :
    ∃ takes, engine.Composes pattern.leading takes ∧
      ∀ {text first stop}, takes text first stop ↔ pattern.LeadsAt engine text first stop := by
  unfold leading at hleading ⊢
  unfold LeadsAt
  cases hbefore : pattern.before with
  | none =>
      cases hbreak : pattern.atBreak with
      | false => simp [hbefore, hbreak] at hleading
      | true => exact ⟨_, .lineStart, by simp [Engine.Fits]⟩
  | some fragment =>
      obtain ⟨takes, hparts, htakes⟩ := exists_composes_grouped (h.before fragment hbefore)
      cases hbreak : pattern.atBreak with
      | false => exact ⟨takes, hparts, by simp [htakes]⟩
      | true => exact ⟨_, .append .lineStart hparts, by simp [htakes]⟩

/-- The character and what stands behind it are made of parts. -/
theorem exists_composes_following (h : pattern.IsWellFormed engine) :
    ∃ takes, engine.Composes (engine.escape pattern.character ++ (pattern.after.map grouped).getD
      []) takes ∧ ∀ {text first stop}, takes text first stop ↔
        pattern.FollowsAt engine text first stop := by
  unfold FollowsAt
  cases hafter : pattern.after with
  | none =>
      exact ⟨_, by simpa using Engine.Composes.escaped pattern.character, by simp [Engine.Fits]⟩
  | some fragment =>
      obtain ⟨takes, hparts, htakes⟩ := exists_composes_grouped (h.after fragment hafter)
      exact ⟨_, .append (.escaped pattern.character) hparts, by simp [htakes]⟩

/-- Nothing is written before the character if nothing is asked for there. -/
theorem leading_eq_nil_iff : pattern.leading = [] ↔
    (pattern.atBreak || pattern.before.isSome) = false := by
  unfold leading grouped
  cases pattern.atBreak <;> cases pattern.before <;> simp

/-- Where the rule of a pattern matches: what stands before the character is as long as the rule
takes it to be, and behind it are the character and the rest. -/
theorem mem_ends_rule (hengine : engine.IsLawful) (hpattern : pattern.IsWellFormed engine)
    {rule : Rule} (hrule : pattern.rule? engine = some rule) (hfirst : first ≤ text.length) :
    (∀ last ∈ rule.expression.ends text first,
        pattern.LeadsAt engine text first (first + if rule.leading then last.marked.getD 0 else 0) ∧
          pattern.FollowsAt engine text (first + if rule.leading then last.marked.getD 0 else 0)
            last.stop) ∧
      ∀ middle stop, pattern.LeadsAt engine text first middle →
        pattern.FollowsAt engine text middle stop → rule.expression.Takes text first stop := by
  obtain ⟨expression, hcompile, rfl⟩ := Option.map_eq_some_iff.mp hrule
  obtain ⟨takes', hfollowing, htakes'⟩ := exists_composes_following hpattern
  dsimp only
  unfold source at hcompile
  cases hleading : pattern.atBreak || pattern.before.isSome with
  | false =>
      have hnil := leading_eq_nil_iff.mpr hleading
      rw [hnil, List.isEmpty_nil, if_pos rfl, List.nil_append] at hcompile
      have hiff := @Engine.IsLawful.takes_iff _ hengine _ _ _ hfollowing hcompile text first
      have hleads {stop : Nat} : pattern.LeadsAt engine text first stop ↔ first = stop := by
        obtain ⟨hbreak, hbefore⟩ := Bool.or_eq_false_iff.mp hleading
        have hnone : pattern.before = none := by simpa using hbefore
        simp [LeadsAt, hbreak, hnone, Engine.Fits]
      refine ⟨fun last hlast => ⟨hleads.mpr rfl, htakes'.mp ((hiff hfirst).mp ⟨last, hlast, rfl⟩)⟩,
        ?_⟩
      intro middle stop hlead hfollows
      obtain rfl := hleads.mp hlead
      exact (hiff hfirst).mpr (htakes'.mpr hfollows)
  | true =>
      have hne : pattern.leading ≠ [] := by
        rw [ne_eq, leading_eq_nil_iff, hleading]
        decide
      obtain ⟨takes, hlead, htakes⟩ := exists_composes_leading hpattern hne
      rw [if_neg (mt List.isEmpty_iff.mp hne), List.append_assoc] at hcompile
      obtain ⟨hends, htaken⟩ :=
        @Engine.IsLawful.captures _ hengine _ _ _ _ _ hlead hfollowing hcompile text first hfirst
      constructor
      · intro last hlast
        obtain ⟨length, hmarked, hleads, hfollows⟩ := hends last hlast
        rw [if_pos rfl, hmarked]
        exact ⟨htakes.mp hleads, htakes'.mp hfollows⟩
      · intro middle stop hleads hfollows
        exact htaken middle stop (htakes.mpr hleads) (htakes'.mpr hfollows)

/-- The engine for the notation of `Regex.read` accepts well-formed patterns. -/
theorem isSome_rule?_plain (h : pattern.IsWellFormed Engine.plain) :
    (pattern.rule? Engine.plain).isSome = true := by
  obtain ⟨takes', hfollowing, -⟩ := exists_composes_following h
  unfold rule? source
  rw [Option.isSome_map]
  by_cases hnil : pattern.leading = []
  · obtain ⟨items, hread, -⟩ := hfollowing.isPart.exists_read
    rw [hnil, List.isEmpty_nil, if_pos rfl, List.nil_append]
    exact (Option.isSome_map ..).trans (by rw [hread]; rfl)
  · obtain ⟨takes, hlead, -⟩ := exists_composes_leading h hnil
    obtain ⟨items, others, hread, -⟩ := hlead.isPart.exists_read_group hfollowing.isPart
    rw [if_neg (mt List.isEmpty_iff.mp hnil), List.append_assoc]
    exact (Option.isSome_map ..).trans (by rw [hread]; rfl)

end parts

/-! ## Places -/

section places

variable {engine : Engine} {pattern : Pattern} {text : List Char} {place : Nat}

/-- A place fits if what the pattern asks for stands before it and from it on. -/
theorem fitsAt_iff : pattern.FitsAt engine text place ↔
    ∃ first stop, first ≤ text.length ∧ pattern.LeadsAt engine text first place ∧
      pattern.FollowsAt engine text place stop := by
  constructor
  · rintro ⟨hcharacter, ⟨middle, hle, hbefore, hstarts⟩, stop, hafter⟩
    have hmiddle : middle ≤ text.length :=
      Nat.le_trans hle (Nat.le_of_lt (List.getElem?_eq_some_iff.mp hcharacter).1)
    obtain ⟨first, hfirst, hlead⟩ : ∃ first ≤ text.length,
        if pattern.atBreak = true then HoldsLineStart text first middle else first = middle := by
      split
      · next hbreak => exact (exists_holdsLineStart_iff hmiddle).mpr (hstarts hbreak)
      · exact ⟨middle, hmiddle, rfl⟩
    exact ⟨first, stop, hfirst, ⟨middle, hlead, hbefore⟩, place + 1, ⟨hcharacter, rfl⟩, hafter⟩
  · rintro ⟨first, stop, hfirst, ⟨middle, hlead, hbefore⟩, _, ⟨hcharacter, rfl⟩, hafter⟩
    refine ⟨hcharacter, ⟨middle, ?_, hbefore, fun hbreak => ?_⟩, stop, hafter⟩
    · refine hbefore.le ?_
      split at hlead
      · exact hlead.le_length hfirst
      · exact hlead ▸ hfirst
    · rw [if_pos hbreak] at hlead
      exact (exists_holdsLineStart_iff (hlead.le_length hfirst)).mp ⟨first, hfirst, hlead⟩

/-- **A pattern flags its own character, where it asks for it.** A rule that a lawful engine accepts
for a well-formed pattern flags only places that fit, and where there is such a place it flags one.
-/
theorem positions_fitsAt (hengine : engine.IsLawful) (hpattern : pattern.IsWellFormed engine)
    {rule : Rule} (hrule : pattern.rule? engine = some rule) (text : List Char) :
    (∀ place ∈ rule.positions text, pattern.FitsAt engine text place) ∧
      ((∃ place, pattern.FitsAt engine text place) → rule.positions text ≠ []) := by
  constructor
  · intro place hplace
    obtain ⟨found, hfound, rfl⟩ := List.mem_map.mp hplace
    obtain ⟨hlength, hmatch⟩ := Expression.matchAt_of_mem_findAll hfound
    obtain ⟨last, hlast, hlast_eq⟩ := Expression.exists_mem_ends_of_matchAt hmatch
    obtain ⟨hleads, hfollows⟩ := (mem_ends_rule hengine hpattern hrule hlength).1 last hlast
    rw [hlast_eq]
    exact fitsAt_iff.mpr ⟨_, _, hlength, hleads, hfollows⟩
  · rintro ⟨place, hplace⟩ hnone
    obtain ⟨first, stop, hfirst, hleads, hfollows⟩ := fitsAt_iff.mp hplace
    obtain ⟨last, hlast, -⟩ :=
      (mem_ends_rule hengine hpattern hrule hfirst).2 place stop hleads hfollows
    obtain ⟨found, hmatch⟩ := Expression.exists_matchAt_of_mem_ends hlast
    exact Expression.findAll_ne_nil hfirst hmatch (List.map_eq_nil_iff.mp hnone)

end places

/-- The dot behind a number at the start of a line, with groups and alternatives in both fragments.
-/
def numberedDot : Pattern where
  character := '.'
  before := some "([0-9])+"
  after := some "( |\\t)|$"
  atBreak := true

/-- The first number is not at the start of a line, and the third has no space behind it. -/
theorem positions_fitsAt_numberedDot :
    Engine.plain.IsLawful ∧ numberedDot.IsWellFormed Engine.plain ∧
      ∃ rule, numberedDot.rule? Engine.plain = some rule ∧
        rule.positions "1.\n\t23. a\n4.b\r\n 5.".toList = [6, 17] ∧
        ∀ text : List Char,
          (∀ place ∈ rule.positions text, numberedDot.FitsAt Engine.plain text place) ∧
          ((∃ place, numberedDot.FitsAt Engine.plain text place) → rule.positions text ≠ []) := by
  have hwell : numberedDot.IsWellFormed Engine.plain := by
    constructor
    · rintro fragment ⟨⟩
      exact ⟨by decide +kernel, by decide +kernel⟩
    · rintro fragment ⟨⟩
      exact ⟨by decide +kernel, by decide +kernel⟩
  obtain ⟨rule, hrule, hpositions⟩ := Option.map_eq_some_iff.mp
    (show (numberedDot.rule? Engine.plain).map (·.positions "1.\n\t23. a\n4.b\r\n 5.".toList) =
      some [6, 17] by
      decide +kernel)
  exact ⟨Engine.isLawful_plain, hwell, rule, hrule, hpositions,
    positions_fitsAt Engine.isLawful_plain hwell hrule⟩

/-- Fragments that close the group around them and open another one are accepted. The first pattern
is about an `x` and flags the `b` of a text without one; the second one flags what is behind the end
of a text. -/
theorem positions_of_spliced_fragments :
    (∃ rule, ({ character := 'x', after := some "a)|(?:b" } : Pattern).rule? Engine.plain =
      some rule ∧ rule.positions ['b'] = [0] ∧ ['b'][0]? ≠ some 'x') ∧
    ∃ rule, ({ character := 'x', before := some "a))|((?:b", atBreak := true } : Pattern).rule?
      Engine.plain = some rule ∧ rule.positions ['\n', 'a'] = [2] ∧ ['\n', 'a'][2]? = none := by
  constructor
  · obtain ⟨rule, hrule, hpositions⟩ := Option.map_eq_some_iff.mp
      (show (Pattern.rule? Engine.plain { character := 'x', after := some "a)|(?:b" }).map
        (·.positions ['b']) = some [0] by decide +kernel)
    exact ⟨rule, hrule, hpositions, by decide⟩
  · obtain ⟨rule, hrule, hpositions⟩ := Option.map_eq_some_iff.mp
      (show (Pattern.rule? Engine.plain
          { character := 'x', before := some "a))|((?:b", atBreak := true }).map
        (·.positions ['\n', 'a']) = some [2] by decide +kernel)
    exact ⟨rule, hrule, hpositions, rfl⟩

end Pattern

end MarkdownWriter
