import MarkdownWriter.Style.Check
import Mathlib.Tactic.Common

/-!
# Accepted markers

A style is made of choices that may be missing or refused, and a marker is asked for only where it
is written. This module says what can be relied on when one is given.

* **A marker that is given is an accepted one** (`Style.mem_of_accepted`), and a thematic break has
  three marks or more (`Style.le_of_ruleLength`).
* **The other marker.** The marker for ambiguous places is another one than the usual marker, and
  the chosen one where one is chosen (`Style.otherThan_eq_ok`). Bullets and delimiters are refused
  in the same way, so this is one fact about both (`Style.otherBulletMarker_eq_ok`,
  `Style.otherDelimiter_eq_ok`).
* **What is checked as a whole is never refused later** (`Style.provides_of_validate`): a style that
  is accepted gives everything it can be asked for (`Style.Provides`).
-/

namespace MarkdownWriter.Style

/-- Of two checks one behind the other both have to succeed. -/
theorem bind_eq_ok {ε α β : Type} {first : Except ε α} {next : α → Except ε β} {result : β} :
    (first >>= next) = .ok result ↔ ∃ value, first = .ok value ∧ next value = .ok result := by
  cases first with
  | error e => exact ⟨fun h => by contradiction, fun ⟨_, h, _⟩ => by contradiction⟩
  | ok value => exact ⟨fun h => ⟨value, rfl, h⟩, fun ⟨_, h, hnext⟩ => Except.ok.inj h ▸ hnext⟩

/-- An accepted marker is one of the markers. -/
theorem mem_of_accepted {choice : Option Char} {default marker : Char} {markers : List Char}
    {refuse : Char → StyleError} (h : accepted choice default markers refuse = .ok marker) :
    marker ∈ markers := by
  unfold accepted at h
  dsimp only at h
  split at h
  · next hmem =>
      obtain rfl := Except.ok.inj h
      exact List.contains_iff_mem.mp hmem
  · contradiction

/-- A marker for the places where `usual` is ambiguous: the chosen one, if it is accepted and not
the usual one. -/
def otherThan (usual fallback : Char) (choice : Option Char) (markers : List Char)
    (refuse : Char → StyleError) (clash : Char → Char → StyleError) : Except StyleError Char :=
  match choice with
  | none => .ok fallback
  | some other =>
      if !markers.contains other then .error (refuse other)
      else if other == usual then .error (clash usual other)
      else .ok other

/-- The other marker is a marker, differs from the usual one, and is the one that is chosen if any
is. -/
theorem otherThan_eq_ok {usual fallback other : Char} {choice : Option Char} {markers : List Char}
    {refuse : Char → StyleError} {clash : Char → Char → StyleError} (hmem : fallback ∈ markers)
    (hne : fallback ≠ usual)
    (h : otherThan usual fallback choice markers refuse clash = .ok other) :
    other ∈ markers ∧ other ≠ usual ∧ ∀ chosen, choice = some chosen → chosen = other := by
  unfold otherThan at h
  cases choice with
  | none =>
      obtain rfl := Except.ok.inj h
      exact ⟨hmem, hne, by simp⟩
  | some chosen =>
      dsimp only at h
      split at h
      · contradiction
      · next haccepted =>
          split at h
          · contradiction
          · next hdistinct =>
              obtain rfl := Except.ok.inj h
              exact ⟨by simpa using haccepted, by simpa using hdistinct, by simp⟩

/-- Of two markers there is always one that is not the usual one. -/
theorem alternative_ne {usual first second : Char} (h : second ≠ first) :
    (if usual == first then second else first) ≠ usual := by
  split
  · next heq =>
      rw [beq_iff_eq.mp heq]
      exact h
  · next hne =>
      intro heq
      exact hne (beq_iff_eq.mpr heq.symm)

/-- A thematic break has three marks or more. -/
theorem le_of_ruleLength {style : Style} {count : Nat} (h : style.ruleLength = .ok count) :
    3 ≤ count := by
  unfold ruleLength at h
  dsimp only at h
  split at h
  · next hle => exact Except.ok.inj h ▸ hle
  · contradiction

/-! ## Lists -/

section Lists

variable {style : Style} {usual other : Char}

theorem otherBulletMarker_eq (husual : style.bulletMarker = .ok usual) :
    style.otherBulletMarker =
      otherThan usual (if usual == '*' then '-' else '*') style.bulletOther bullets .bulletOther
        .bulletNotDistinct := by
  unfold otherBulletMarker otherThan
  rw [husual]
  cases style.bulletOther with
  | none => rfl
  | some chosen => cases bullets.contains chosen <;> cases chosen == usual <;> rfl

theorem otherDelimiter_eq (husual : style.delimiter = .ok usual) :
    style.otherDelimiter =
      otherThan usual (if usual == '.' then ')' else '.') style.bulletOrderedOther delimiters
        .bulletOrderedOther
        .bulletOrderedNotDistinct := by
  unfold otherDelimiter otherThan
  rw [husual]
  cases style.bulletOrderedOther with
  | none => rfl
  | some chosen => cases delimiters.contains chosen <;> cases chosen == usual <;> rfl

/-- So it is with bullets. -/
theorem otherBulletMarker_eq_ok (husual : style.bulletMarker = .ok usual)
    (h : style.otherBulletMarker = .ok other) :
    other ∈ bullets ∧ other ≠ usual ∧ ∀ chosen, style.bulletOther = some chosen →
      chosen = other := by
  rw [otherBulletMarker_eq husual] at h
  refine otherThan_eq_ok ?_ (alternative_ne (by decide)) h
  split <;> decide

/-- So it is with delimiters. -/
theorem otherDelimiter_eq_ok (husual : style.delimiter = .ok usual)
    (h : style.otherDelimiter = .ok other) :
    other ∈ delimiters ∧ other ≠ usual ∧ ∀ chosen, style.bulletOrderedOther = some chosen →
      chosen = other := by
  rw [otherDelimiter_eq husual] at h
  refine otherThan_eq_ok ?_ (alternative_ne (by decide)) h
  split <;> decide

end Lists

/-! ## Accepted styles -/

/-- A style that gives everything it can be asked for. -/
structure Provides (style : Style) : Prop where
  bullet : ∃ marker, style.bulletMarker = .ok marker
  otherBullet : ∃ marker, style.otherBulletMarker = .ok marker
  delimiter : ∃ marker, style.delimiter = .ok marker
  otherDelimiter : ∃ marker, style.otherDelimiter = .ok marker
  emphasis : ∃ marker, style.emphasisMarker = .ok marker
  strong : ∃ marker, style.strongMarker = .ok marker
  fence : ∃ marker, style.fenceMarker = .ok marker
  quote : ∃ marker, style.titleQuote = .ok marker
  rule : ∃ marker, style.ruleMarker = .ok marker
  ruleLength : ∃ count, style.ruleLength = .ok count

/-- **What is checked as a whole is never refused later.** The usual markers of lists are not
checked by themselves, but the other ones are not found without them. -/
theorem provides_of_validate {style : Style} (h : style.validate = .ok ()) : style.Provides := by
  unfold validate at h
  obtain ⟨otherBullet, hotherBullet, h⟩ := bind_eq_ok.mp h
  obtain ⟨otherDelimiter, hotherDelimiter, h⟩ := bind_eq_ok.mp h
  obtain ⟨emphasis, hemphasis, h⟩ := bind_eq_ok.mp h
  obtain ⟨strong, hstrong, h⟩ := bind_eq_ok.mp h
  obtain ⟨fence, hfence, h⟩ := bind_eq_ok.mp h
  obtain ⟨quote, hquote, h⟩ := bind_eq_ok.mp h
  obtain ⟨rule, hrule, h⟩ := bind_eq_ok.mp h
  obtain ⟨count, hcount, -⟩ := bind_eq_ok.mp h
  obtain ⟨bullet, hbullet, -⟩ := bind_eq_ok.mp hotherBullet
  obtain ⟨delimiter, hdelimiter, -⟩ := bind_eq_ok.mp hotherDelimiter
  exact ⟨⟨bullet, hbullet⟩, ⟨otherBullet, hotherBullet⟩, ⟨delimiter, hdelimiter⟩,
    ⟨otherDelimiter, hotherDelimiter⟩, ⟨emphasis, hemphasis⟩, ⟨strong, hstrong⟩, ⟨fence, hfence⟩,
    ⟨quote, hquote⟩, ⟨rule, hrule⟩, ⟨count, hcount⟩⟩

end MarkdownWriter.Style
