import MarkdownWriter.Proofs.Render.AdjacentLists

/-!
# Blocks that fuse

Some blocks are read as one if only a line ending is between them: a paragraph goes on in the block
before it, however deep the paragraph is that ends there (`Node.endsInParagraph`), indented code and
a line of dashes belong to the paragraph above them, and two block quotes are one (`Fuses`). A blank
line keeps them apart.

* **What is decided** (`Fuses.defaultRule_eq`, `Fuses.tightDefinitions_eq_none`): for blocks that
  fuse only the rule about tight lists and items is left to speak, and it asks for a blank line
  between paragraphs alone.
* **Where the blank line is missing** (`Writer.HasDefaultJoins.blankLine_infix_iff`): between two
  such blocks there is a blank line unless they stand in a tight list or item and are not both
  paragraphs.
-/

namespace MarkdownWriter

/-! ## Pairs of blocks -/

mutual

/-- Whether the last line of a block belongs to a paragraph, so that a line of text behind it would
as well. -/
def Node.endsInParagraph : Node → Bool
  | .branch .paragraph _ => true
  | .branch .blockquote children => Node.lastEndsInParagraph children
  | .branch (.list _) children => Node.lastEndsInParagraph children
  | .branch (.listItem _) children => Node.lastEndsInParagraph children
  | _ => false

/-- Whether the last of several blocks ends in a paragraph. -/
def Node.lastEndsInParagraph : List Node → Bool
  | [] => false
  | [child] => child.endsInParagraph
  | _ :: next :: rest => Node.lastEndsInParagraph (next :: rest)

end

/-- Two blocks that are read as one, or as other blocks, if no blank line is between them. -/
inductive Fuses (style : Style) : Node → Node → Prop
  /-- The text of a paragraph continues the one above it. -/
  | text {left : Node} {children : List Node} (h : left.endsInParagraph = true) :
      Fuses style left (.branch .paragraph children)
  /-- Two block quotes are one. -/
  | quotes {lefts rights : List Node} : Fuses style (.branch .blockquote lefts)
    (.branch .blockquote rights)
  /-- Indented code does not interrupt a paragraph. -/
  | code {children : List Node} {block : CodeBlock} (h : block.isIndented style = true) :
      Fuses style (.branch .paragraph children) (.leaf (.code block))
  /-- Dashes below a paragraph make it a heading. -/
  | underline {children : List Node} (h : style.ruleMarker = .ok '-') :
      Fuses style (.branch .paragraph children) (.leaf .thematicBreak)

namespace Fuses

variable {style : Style} {state : State} {left right parent : Node}

/-- Blocks that fuse are neither lists that merge nor continued by indented code, and only
paragraphs ask for a blank line themselves. -/
theorem defaultRule_eq (h : Fuses state.style left right) :
    Join.defaultRule state left right parent =
      parent.spread?.bind fun spread =>
        if left.isParagraph && right.isParagraph then
          none else some (.blankLines (if spread then 1 else 0)) := by
  have hquiet :
      (Join.continuesAsCode state.style left right || Join.mergesAsList state.style left right) =
        false := by
    cases h <;> simp [Join.continuesAsCode, Join.mergesAsList]
  have hkeeps :
      Join.keepsBlankLine state.style left right = (left.isParagraph && right.isParagraph) := by
    cases h with
    | text hends =>
        unfold Join.keepsBlankLine Node.isParagraph
        split <;> simp_all
    | quotes => rfl
    | code hindented => rfl
    | underline hmarker => rfl
  unfold Join.defaultRule
  rw [hquiet, hkeeps]
  cases parent.spread? <;> rfl

/-- Neither of the blocks is a definition. -/
theorem tightDefinitions_eq_none (h : Fuses style left right) :
    Join.tightDefinitions state left right parent = none := by
  cases h <;> simp [Join.tightDefinitions]

end Fuses

/-! ## Separators -/

/-- There is a blank line in a separator unless it is a single line ending. -/
theorem Join.blankLine_infix_separator_iff (join : Join) :
    ['\n', '\n'] <:+: join.separator ↔ join ≠ .blankLines 0 := by
  cases join with
  | interrupt => exact iff_of_true (by decide +kernel) (by simp)
  | blankLines count =>
      cases count with
      | zero =>
          refine iff_of_false (fun h => ?_) (by simp)
          exact absurd h.length_le (by decide)
      | succ count =>
          refine iff_of_true ⟨[], List.replicate count '\n', ?_⟩ (by simp)
          rfl

/-- **Where the blank line is missing.** Two blocks that fuse have a blank line between them exactly
if they do not stand in a tight list or item, or both are paragraphs. -/
theorem Writer.HasDefaultJoins.blankLine_infix_iff {writer : Writer}
    (hwriter : writer.HasDefaultJoins) {state : State} {left right : Node}
    (hfuses : Fuses state.style left right) (parent : Node) :
    ∃ separator after, writer.between left right parent state = (.ok separator, after) ∧
      (['\n', '\n'] <:+: separator ↔
        parent.spread? ≠ some false ∨ (left.isParagraph = true ∧ right.isParagraph = true)) := by
  obtain ⟨after, hbetween, -⟩ := writer.exists_between left right parent state
  refine ⟨_, after, hbetween, ?_⟩
  rw [Join.blankLine_infix_separator_iff, hwriter.decide_eq hfuses.tightDefinitions_eq_none,
    hfuses.defaultRule_eq]
  cases hparent : parent.spread? with
  | none => simp
  | some spread =>
      cases hparagraphs : left.isParagraph && right.isParagraph with
      | true =>
          rw [Bool.and_eq_true] at hparagraphs
          simp [hparagraphs]
      | false =>
          cases spread <;> simp_all

/-- In a tight item only a line ending is between a paragraph and a line of dashes. -/
theorem blankLine_missing_before_dashes :
    Writer.standard.HasDefaultJoins ∧
      Fuses { rule := some '-' } (.branch .paragraph []) (.leaf .thematicBreak) ∧
      ∃ separator after,
        Writer.standard.between (.branch .paragraph []) (.leaf .thematicBreak)
          (.branch (.listItem false) []) { style := { rule := some '-' } } =
            (.ok separator, after) ∧
        ¬ ['\n', '\n'] <:+: separator := by
  have hwriter : Writer.standard.HasDefaultJoins := .inl rfl
  have hfuses : Fuses ({ style := { rule := some '-' } } : State).style (.branch .paragraph [])
      (.leaf .thematicBreak) := .underline rfl
  obtain ⟨separator, after, hbetween, hiff⟩ :=
    hwriter.blankLine_infix_iff hfuses (.branch (.listItem false) [])
  refine ⟨hwriter, hfuses, separator, after, hbetween, ?_⟩
  rw [hiff]
  simp [Node.spread?, Node.isParagraph]

/-- So in a list item a paragraph becomes the text of a heading. -/
theorem toMarkdown_paragraph_dashes :
    (Writer.standard.between (.branch .paragraph [.leaf (.text "a")]) (.leaf .thematicBreak)
        (.branch (.listItem false) [.branch .paragraph [.leaf (.text "a")], .leaf .thematicBreak])
        { style := { rule := some '-' } }).1 = .ok ['\n'] ∧
      toMarkdown (.node { style := { rule := some '-' } } [])
          (.branch (.list {})
            [.branch (.listItem false) [.branch .paragraph [.leaf (.text "a")],
              .leaf .thematicBreak]]) =
        .ok "*   a\n    ---\n" := by
  decide +kernel

end MarkdownWriter
