import MarkdownWriter.Escape.Rule
import MarkdownWriter.Proofs.Regex.Forms
import MarkdownWriter.Proofs.Regex.Search

/-!
# The characters a rule flags

A rule flags the character of every match a search for its expression reports. Here that is said
without places and marks. A `Hit` is a way to cut a text at the rule's character so that what the
rule asks for stands on both sides; a `Reported` hit is one the search comes by.

* **Flags are reported hits** (`Rule.mem_positions_make`).
* **Hits are reported unless overlapped** (`Hit.reported_or_inside`): a hit that is not reported
  begins inside another one that is, provided the character cannot be part of what stands before it.
* **Reported hits do not overlap** (`Reported.end_le`).
-/

namespace MarkdownWriter

/-! ## Hits -/

namespace Rule

/-- What a rule asks for before its character, as one expression. -/
def context (atBreak : Bool) (before : Option Regex) : Option Regex :=
  match atBreak, before with
  | true, some regex => some (.seq lineStart regex)
  | true, none => some lineStart
  | false, some regex => some regex
  | false, none => none

/-- What stands in front of the character is the marked group. -/
theorem leadingGroup_eq (atBreak : Bool) (before : Option Regex) :
    leadingGroup atBreak before = (context atBreak before).map .marked := by
  cases atBreak <;> cases before <;> rfl

/-- There is one if the start of a line or something else is asked for. -/
theorem isSome_context (atBreak : Bool) (before : Option Regex) :
    (context atBreak before).isSome = (atBreak || before.isSome) := by
  cases atBreak <;> cases before <;> rfl

end Rule

/-- What an optional condition takes; no condition takes nothing. -/
def Fits (condition : Option Regex) (offset : Nat) (taken rest : List Char) : Prop :=
  condition.elim (taken = []) fun regex => regex.Takes offset taken rest

@[simp] theorem fits_none {offset : Nat} {taken rest : List Char} :
    Fits none offset taken rest ↔ taken = [] :=
  Iff.rfl

@[simp] theorem fits_some {regex : Regex} {offset : Nat} {taken rest : List Char} :
    Fits (some regex) offset taken rest ↔ regex.Takes offset taken rest :=
  Iff.rfl

/-- A cut of `text` at the character `c`, with `lead` before it and `trail` behind it as the
conditions ask. -/
structure Hit (c : Char) (before after : Option Regex) (text pre lead trail post : List Char) :
    Prop where
  text_eq : text = pre ++ (lead ++ c :: (trail ++ post))
  lead_fits : Fits before pre.length lead (c :: (trail ++ post))
  trail_fits : Fits after (pre.length + lead.length + 1) trail post

/-- A hit that the search for the rule's expression reports. -/
structure Reported (c : Char) (before after : Option Regex) (text pre lead trail post : List Char) :
    Prop
    extends Hit c before after text pre lead trail post where
  exists_match : ∃ found ∈ (Rule.expressionFor c (before.map .marked) after).compiled.findAll text,
    found.first = pre.length ∧ found.stop = pre.length + lead.length + 1 + trail.length ∧
      (before.isSome → found.marked = some lead.length)

/-- Where a rule's expression gets to is behind a hit. The mark is the length of what stands before
the character, if nothing behind it is marked. -/
theorem exists_hit_of_mem_places {c : Char} {before after : Option Regex}
    (hafter : before.isSome → after.all Regex.isUnmarked = true) {pre rest : List Char}
    {last : Place}
    (h : last ∈ (Rule.expressionFor c (before.map .marked) after).ends ⟨pre.length, rest, none⟩) :
    ∃ lead trail post, Hit c before after (pre ++ rest) pre lead trail post ∧
      last.offset = pre.length + lead.length + 1 + trail.length ∧
      (before.isSome → last.marked = some lead.length) := by
  -- the part from the character on, at any place
  have hbody : ∀ {place : Place},
      last ∈ (after.elim (Regex.character c) (.seq (.character c))).ends place →
      ∃ trail, place.rest = c :: (trail ++ last.rest) ∧
      Fits after (place.offset + 1) trail last.rest ∧
      last.offset = place.offset + 1 + trail.length ∧
      (before.isSome → last.marked = place.marked) := by
    intro place hlast
    cases after with
    | none =>
        obtain ⟨taken, hreads, htakes⟩ := (Regex.describes _).sound hlast
        obtain rfl := Regex.takes_character.mp htakes
        exact ⟨[], hreads.rest_eq, rfl, hreads.offset_eq,
          fun _ => Regex.marked_of_mem_ends rfl hlast⟩
    | some regex =>
        obtain ⟨taken, hreads, front, trail, rfl, hfront, htrail⟩ := (Regex.describes _).sound hlast
        obtain rfl := Regex.takes_character.mp hfront
        refine ⟨trail, hreads.rest_eq, htrail, ?_, fun hsome => Regex.marked_of_mem_ends ?_ hlast⟩
        · rw [hreads.offset_eq, List.length_append, List.length_singleton, Nat.add_assoc]
        · simpa [Regex.isUnmarked, Regex.character] using hafter hsome
  cases before with
  | none =>
      obtain ⟨trail, hrest, htrail, hoffset, -⟩ := hbody h
      dsimp only at hrest
      exact ⟨[], trail, last.rest, ⟨by rw [hrest, List.nil_append], rfl, htrail⟩, hoffset, by simp⟩
  | some regex =>
      obtain ⟨_, hgroup, hlast⟩ := List.mem_flatMap.mp h
      obtain ⟨middle, hmiddle, rfl⟩ := List.mem_map.mp hgroup
      obtain ⟨lead, hreads, hlead⟩ := (Regex.describes regex).sound hmiddle
      obtain ⟨trail, hrest, htrail, hoffset, hmarked⟩ := hbody hlast
      dsimp only at hreads hlead hrest htrail hoffset hmarked
      rw [hreads.offset_eq] at htrail hoffset hmarked
      refine ⟨lead, trail, last.rest, ⟨?_, ?_, htrail⟩, hoffset, fun hsome => ?_⟩
      · rw [← hrest, ← hreads.rest_eq]
      · rw [← hrest]
        exact hlead
      · rw [hmarked hsome, Nat.add_sub_cancel_left]

/-- A hit is what the rule's expression takes. -/
theorem Hit.takes {c : Char} {before after : Option Regex} {text pre lead trail post : List Char}
    (h : Hit c before after text pre lead trail post) :
    (Rule.expressionFor c (before.map .marked) after).Takes pre.length
      (lead ++ c :: trail) post := by
  have hbody :
      (after.elim (Regex.character c) (.seq (.character c))).Takes (pre.length + lead.length)
      (c :: trail) post := by
    cases after with
    | none =>
        obtain rfl : trail = [] := h.trail_fits
        exact Regex.takes_character.mpr rfl
    | some regex => exact ⟨[c], trail, rfl, Regex.takes_character.mpr rfl, h.trail_fits⟩
  cases before with
  | none =>
      obtain rfl : lead = [] := h.lead_fits
      exact hbody
  | some regex => exact ⟨lead, c :: trail, rfl, h.lead_fits, hbody⟩

/-- A rule's expression takes at least its character. -/
theorem ne_nil_of_takes_expressionFor {c : Char} {before after : Option Regex} {offset : Nat}
    {taken rest : List Char}
    (h : (Rule.expressionFor c (before.map .marked) after).Takes offset taken rest) :
    taken ≠ [] := by
  have hbody {offset : Nat} {taken : List Char}
      (h : (after.elim (Regex.character c) (.seq (.character c))).Takes offset taken rest) :
        taken ≠ [] := by
    cases after with
    | none =>
        obtain rfl := Regex.takes_character.mp h
        simp
    | some regex =>
        obtain ⟨front, trail, rfl, hfront, -⟩ := h
        obtain rfl := Regex.takes_character.mp hfront
        simp
  cases before with
  | none => exact hbody h
  | some regex =>
      obtain ⟨lead, back, rfl, -, hback⟩ := h
      exact List.append_ne_nil_of_right_ne_nil lead (hbody hback)

/-- A match takes the character at least. -/
theorem consumes_expressionFor (c : Char) (before after : Option Regex) :
    (Rule.expressionFor c (before.map .marked) after).compiled.Consumes := by
  intro text first last hlast
  obtain ⟨taken, post, -, hstop, htakes⟩ := Regex.exists_takes_of_mem_ends hlast
  have := List.length_pos_iff.mpr (ne_nil_of_takes_expressionFor htakes)
  omega

/-! ## Reported hits -/

variable {c : Char} {before after : Option Regex} {text : List Char}

/-- The ends of a rule's expression are those of hits. -/
theorem exists_hit_of_mem_ends (hafter : before.isSome → after.all Regex.isUnmarked = true)
    {first : Nat} (hfirst : first ≤ text.length) {last : End}
    (h : last ∈ (Rule.expressionFor c (before.map .marked) after).compiled.ends text first) :
    ∃ pre lead trail post, Hit c before after text pre lead trail post ∧ first = pre.length ∧
      last.stop = pre.length + lead.length + 1 + trail.length ∧
      (before.isSome → last.marked = some lead.length) := by
  obtain ⟨place, hplace, rfl⟩ := List.mem_map.mp h
  have hpre : (text.take first).length = first := List.length_take_of_le hfirst
  rw [← hpre] at hplace
  obtain ⟨lead, trail, post, hhit, hoffset, hmarked⟩ := exists_hit_of_mem_places hafter hplace
  rw [hpre, List.take_append_drop] at hhit
  exact ⟨_, lead, trail, post, hhit, hpre.symm, hoffset, hmarked⟩

/-- Every match that is reported is a hit. -/
theorem exists_reported_of_mem_findAll (hafter : before.isSome → after.all Regex.isUnmarked = true)
    {found : Match}
    (h : found ∈ (Rule.expressionFor c (before.map .marked) after).compiled.findAll text) :
    ∃ pre lead trail post, Reported c before after text pre lead trail post ∧
      found.first = pre.length ∧ found.stop = pre.length + lead.length + 1 + trail.length ∧
      (before.isSome → found.marked = some lead.length) := by
  obtain ⟨hlength, hmatch⟩ := Expression.matchAt_of_mem_findAll h
  obtain ⟨last, hlast, hfound⟩ := Expression.exists_mem_ends_of_matchAt hmatch
  obtain ⟨pre, lead, trail, post, hhit, hfirst, hstop, hmarked⟩ :=
    exists_hit_of_mem_ends hafter hlength hlast
  have hstop : found.stop = pre.length + lead.length + 1 + trail.length := by
    rw [hfound]
    exact hstop
  have hmark : before.isSome → found.marked = some lead.length := by
    rw [hfound]
    exact hmarked
  exact ⟨pre, lead, trail, post, ⟨hhit, found, h, hfirst, hstop, hmark⟩, hfirst, hstop, hmark⟩

/-- The part of a match before the character, as a rule computes it. -/
theorem skip_eq_length {marked : Option Nat} {lead rest : List Char} {offset : Nat}
    (hfits : Fits before offset lead rest) (hmarked : before.isSome → marked = some lead.length) :
    (if before.isSome then marked.getD 0 else 0) = lead.length := by
  cases before with
  | none => rw [fits_none.mp hfits]; rfl
  | some regex => rw [hmarked rfl]; rfl

/-- A rule flags the characters of its reported hits. -/
theorem Rule.mem_positions_make {inside outside : List Construct} {atBreak : Bool}
    {asked : Option Regex} (hafter : after.all Regex.isUnmarked = true) {offset : Nat} :
    offset ∈ (Rule.make c inside outside atBreak asked after).positions text ↔
      ∃ pre lead trail post,
        Reported c (Rule.context atBreak asked) after text pre lead trail post ∧
        offset = pre.length + lead.length := by
  unfold Rule.positions Rule.make
  rw [List.mem_map, Rule.leadingGroup_eq]
  dsimp only
  rw [← Rule.isSome_context]
  constructor
  · rintro ⟨found, hfound, rfl⟩
    obtain ⟨pre, lead, trail, post, hreported, hfirst, -, hmarked⟩ :=
      exists_reported_of_mem_findAll (fun _ => hafter) hfound
    exact ⟨pre, lead, trail, post, hreported,
      by rw [hfirst, skip_eq_length hreported.lead_fits hmarked]⟩
  · rintro ⟨pre, lead, trail, post, hreported, rfl⟩
    obtain ⟨found, hfound, hfirst, -, hmarked⟩ := hreported.exists_match
    exact ⟨found, hfound, by rw [hfirst, skip_eq_length hreported.lead_fits hmarked]⟩

/-- Of two reported hits the one that begins first ends before the other begins. -/
theorem Reported.end_le {pre lead trail post pre' lead' trail' post' : List Char}
    (h : Reported c before after text pre lead trail post)
    (h' : Reported c before after text pre' lead' trail' post')
    (hlt : pre.length < pre'.length) :
    pre.length + lead.length + 1 + trail.length ≤ pre'.length := by
  obtain ⟨found, hfound, hfirst, hstop, -⟩ := h.exists_match
  obtain ⟨found', hfound', hfirst', -, -⟩ := h'.exists_match
  rw [← hstop, ← hfirst']
  exact Expression.stop_le_first_of_mem_findAll (consumes_expressionFor c before after) hfound
    hfound' (by omega)

/-- A condition that never takes the character. -/
def Avoids (condition : Option Regex) (c : Char) : Prop :=
  ∀ offset taken rest, Fits condition offset taken rest → c ∉ taken

/-- Where nothing is asked for, nothing gets in the way. -/
theorem avoids_none : Avoids none c := by
  intro offset taken rest h
  rw [fits_none.mp h]
  exact List.not_mem_nil

/-- A text can be cut at its first `c` in only one way. -/
theorem eq_of_append_cons_eq {lead lead' back back' : List Char} (h : c ∉ lead) (h' : c ∉ lead')
    (heq : lead ++ c :: back = lead' ++ c :: back') : lead = lead' := by
  induction lead generalizing lead' with
  | nil =>
      cases lead' with
      | nil => rfl
      | cons d lead' =>
          obtain ⟨rfl, -⟩ := List.cons.inj heq
          exact absurd List.mem_cons_self h'
  | cons d lead ih =>
      cases lead' with
      | nil =>
          obtain ⟨rfl, -⟩ := List.cons.inj heq
          exact absurd List.mem_cons_self h
      | cons d' lead' =>
          obtain ⟨hd, htail⟩ := List.cons.inj heq
          rw [hd, ih (List.not_mem_of_not_mem_cons h) (List.not_mem_of_not_mem_cons h') htail]

/-- Two cuts of a text, the second one inside a stretch that follows the first. -/
theorem exists_append_of_inside {pre taken post pre' rest : List Char}
    (heq : pre' ++ (taken ++ post) = pre ++ rest) (hlt : pre'.length < pre.length)
    (hin : pre.length < pre'.length + taken.length) :
    ∃ front d back, taken = front ++ d :: back ∧ front ≠ [] ∧ pre = pre' ++ front ∧
      rest = d :: (back ++ post) := by
  rcases List.append_eq_append_iff.mp heq with ⟨front, rfl, hrest⟩ | ⟨front, rfl, -⟩
  · rw [List.length_append] at hlt hin
    rcases List.append_eq_append_iff.mp hrest with ⟨more, rfl, -⟩ | ⟨back, rfl, hback⟩
    · rw [List.length_append] at hin
      omega
    · cases back with
      | nil =>
          rw [List.append_nil] at hin
          omega
      | cons d back => exact ⟨front, d, back, rfl, List.length_pos_iff.mp (by omega), rfl, hback⟩
  · rw [List.length_append] at hlt
    omega

/-- A hit is in the text, and the expression has an end behind it. -/
theorem Hit.exists_end {pre lead trail post : List Char}
    (h : Hit c before after text pre lead trail post) :
    pre.length ≤ text.length ∧ text.drop pre.length = lead ++ c :: trail ++ post ∧
      ∃ last, last ∈ (Rule.expressionFor c (before.map .marked) after).compiled.ends text
        pre.length := by
  have hdrop : text.drop pre.length = lead ++ c :: trail ++ post := by
    rw [h.text_eq, List.drop_left, List.append_assoc, List.cons_append]
  obtain ⟨last, hlast, -⟩ := Regex.exists_end_of_takes hdrop h.takes
  refine ⟨?_, hdrop, last, hlast⟩
  rw [h.text_eq, List.length_append]
  omega

/-- Where there is a hit there is a match, and a search reports it or another one that it begins
inside of. -/
theorem Hit.exists_matchAt {pre lead trail post : List Char}
    (h : Hit c before after text pre lead trail post) :
    ∃ found,
      (Rule.expressionFor c (before.map .marked) after).compiled.matchAt text pre.length =
        some found ∧
      (found ∈ (Rule.expressionFor c (before.map .marked) after).compiled.findAll text ∨
        ∃ other ∈ (Rule.expressionFor c (before.map .marked) after).compiled.findAll text,
          other.first < pre.length ∧ pre.length < other.stop) := by
  obtain ⟨hlength, -, last, hlast⟩ := h.exists_end
  obtain ⟨found, hmatch⟩ := Expression.exists_matchAt_of_mem_ends hlast
  exact ⟨found, hmatch,
    Expression.mem_findAll_or_inside (consumes_expressionFor c before after) hlength hmatch⟩

/-- A hit is reported, though perhaps with something else behind the character, or it begins inside
a hit that is. -/
theorem Hit.reported_or_inside (hafter : after.all Regex.isUnmarked = true)
    (havoids : Avoids before c) {pre lead trail post : List Char}
    (h : Hit c before after text pre lead trail post) :
    (∃ trail' post', Reported c before after text pre lead trail' post') ∨
      ∃ pre' lead' trail' post' front d back, Reported c before after text pre' lead' trail' post' ∧
        lead' ++ c :: trail' = front ++ d :: back ∧ front ≠ [] ∧ pre = pre' ++ front ∧
          lead ++ c :: (trail ++ post) = d :: (back ++ post') := by
  obtain ⟨found, hmatch, hsearched⟩ := h.exists_matchAt
  rcases hsearched with hfound | ⟨other, hother, hlt, hin⟩
  · left
    obtain ⟨pre', lead', trail', post', hreported, hfirst, -, -⟩ :=
      exists_reported_of_mem_findAll (fun _ => hafter) hfound
    have hsame : pre'.length = pre.length := hfirst.symm.trans (Expression.first_of_matchAt hmatch)
    obtain ⟨rfl, hrest⟩ := List.append_inj (hreported.text_eq.symm.trans h.text_eq) hsame
    obtain rfl :=
      eq_of_append_cons_eq (havoids _ _ _ hreported.lead_fits) (havoids _ _ _ h.lead_fits) hrest
    exact ⟨trail', post', hreported⟩
  · right
    obtain ⟨pre', lead', trail', post', hreported, hfirst, hstop, -⟩ :=
      exists_reported_of_mem_findAll (fun _ => hafter) hother
    have heq : pre' ++ ((lead' ++ c :: trail') ++ post') =
        pre ++ (lead ++ c :: (trail ++ post)) := by
      rw [← h.text_eq, hreported.text_eq]
      simp
    obtain ⟨front, d, back, htaken, hfront, hpre, hrest⟩ := exists_append_of_inside heq (by omega)
      (by rw [List.length_append, List.length_cons]; omega)
    exact ⟨pre', lead', trail', post', front, d, back, hreported, htaken, hfront, hpre, hrest⟩

/-! ## Matches that may overlap -/

/-- The expression of a rule matches somewhere in a text, with the rule's character at an offset,
whether a search comes by the match or not. -/
def Rule.MatchesAt (rule : Rule) (text : List Char) (offset : Nat) : Prop :=
  ∃ first ≤ text.length, ∃ last ∈ rule.expression.ends text first,
    offset = first + if rule.leading then last.marked.getD 0 else 0

/-- The matches of a rule are its hits. -/
theorem Rule.matchesAt_make {inside outside : List Construct} {atBreak : Bool}
    {asked : Option Regex} (hafter : after.all Regex.isUnmarked = true)
    (havoids : Avoids (Rule.context atBreak asked) c) {offset : Nat} :
    (Rule.make c inside outside atBreak asked after).MatchesAt text offset ↔
      ∃ pre lead trail post, Hit c (Rule.context atBreak asked) after text pre lead trail post ∧
        offset = pre.length + lead.length := by
  unfold Rule.MatchesAt Rule.make
  rw [Rule.leadingGroup_eq]
  dsimp only
  rw [← Rule.isSome_context]
  constructor
  · rintro ⟨first, hlength, last, hlast, rfl⟩
    obtain ⟨pre, lead, trail, post, hhit, hfirst, -, hmarked⟩ :=
      exists_hit_of_mem_ends (fun _ => hafter) hlength hlast
    exact ⟨pre, lead, trail, post, hhit, by rw [hfirst, skip_eq_length hhit.lead_fits hmarked]⟩
  · rintro ⟨pre, lead, trail, post, hhit, rfl⟩
    obtain ⟨hlength, -, last, hlast⟩ := hhit.exists_end
    obtain ⟨pre', lead', trail', post', hhit', hsame, -, hmarked⟩ :=
      exists_hit_of_mem_ends (fun _ => hafter) hlength hlast
    obtain ⟨rfl, hrest⟩ := List.append_inj (hhit'.text_eq.symm.trans hhit.text_eq) hsame.symm
    obtain rfl :=
      eq_of_append_cons_eq (havoids _ _ _ hhit'.lead_fits) (havoids _ _ _ hhit.lead_fits) hrest
    exact ⟨pre'.length, hlength, last, hlast, by rw [skip_eq_length hhit'.lead_fits hmarked]⟩

end MarkdownWriter
