import MarkdownWriter.Proofs.Render.Items
import MarkdownWriter.Proofs.Render.Paragraph

/-!
# Lists next to lists

Two lists of a kind that follow each other would be read as one list. They are kept apart by an
empty comment or, once the other marker is chosen, by their markers. The other marker is also taken
where the usual one would be misread, and then it may be the marker of both lists.

* **Which marker is seen** (`IsMarkedWith`, `Writer.LaysOut.isMarkedWith_of_list`): a list is its
  items one behind the other, each with one and the same marker at its front.
* **When there is a comment** (`Writer.HasDefaultJoins.interrupts_lists_iff`): between neighbouring
  lists of a kind unless their other marker is chosen.
* **When the markers agree** (`bullet_eq_iff`): with the other marker chosen, only if both lists
  take it, the first one as it was chosen and the second one because its usual marker is misread.
* **Where lists merge** (`Writer.IsBuiltIn.adjacent_lists_merge_iff`): two lists of a kind are
  neither interrupted nor marked in different ways exactly if they are bullet lists, the first one
  has the other bullet as it was chosen, and the second one holds an item that begins with a
  thematic break of the usual bullet.
-/

namespace MarkdownWriter

open Layout Text

/-! ## Marked lists -/

/-- Whether a text is a list with a given marker: its items one behind the other, each of them with
the marker at its front, behind its number if the list is ordered. -/
def IsMarkedWith (style : Style) (list : ListStyle) (items : List Node) (bullet : Char)
    (text : List Char) : Prop :=
  ∃ pieces, text = Piece.flatten pieces ∧ pieces.length = items.length ∧
    ∀ n spread children piece, items[n]? = some (.branch (.listItem spread) children) →
    pieces[n]? = some piece →
    (if list.ordered then decimal (itemNumber style.incrementsMarkers list n) else []) ++
      [bullet] <+: piece.text

/-- The bullet can be read off the text. -/
theorem IsMarkedWith.head?_eq {style : Style} {list : ListStyle} {items : List Node} {bullet : Char}
    {text : List Char} {spread : Bool} {children : List Node}
    (h : IsMarkedWith style list (.branch (.listItem spread) children :: items) bullet text)
    (hunordered : list.ordered = false) : text.head? = some bullet := by
  obtain ⟨pieces, rfl, hlength, hmarked⟩ := h
  obtain ⟨piece, pieces, rfl⟩ := List.exists_cons_of_length_eq_add_one hlength
  obtain ⟨rest, hrest⟩ := hmarked 0 spread children piece rfl rfl
  rw [hunordered, if_neg Bool.false_ne_true] at hrest
  unfold Piece.flatten
  rw [List.flatMap_cons, ← hrest]
  rfl

/-- A list is written with the marker it takes, and leaves it behind. -/
theorem Writer.LaysOut.isMarkedWith_of_list {writer : Writer} (hwriter : writer.LaysOut .list)
    (hwriter' : writer.LaysOut .listItem) {list : ListStyle} {items : List Node}
    {parent : Option Node} {site : Site} {state after : State} {text : List Char}
    (h : writer.render (.branch (.list list) items) parent site state = (.ok text, after)) :
    ∃ bullet, listBullet list items parent.isSome state = .ok bullet ∧
      after.bulletLastUsed = some bullet ∧ IsMarkedWith state.style list items bullet text := by
  rw [hwriter.render_eq rfl] at h
  obtain ⟨bullet, pieces, middle, hbullet, hlast, hpieces, htext, hitems⟩ :=
    hwriter'.writesItems.exists_items h
  refine ⟨bullet, hbullet, hlast, pieces, htext, Writer.length_pieces hpieces, ?_⟩
  intro n spread children piece hitem hpiece
  obtain ⟨_, _, content, _, -, hpiece⟩ := hitems n spread children piece hitem hpiece
  rw [hpiece, ← itemLayout_marker]
  exact (itemLayout state.style bullet list items spread n).marker_prefix_text content

/-! ## Separators -/

/-- A rule that asks for blank lines never writes a comment. -/
theorem Join.separator_eq_interrupt_iff (join : Join) :
    join.separator = Join.interrupt.separator ↔ join = .interrupt := by
  cases join with
  | interrupt => exact iff_of_true rfl rfl
  | blankLines count =>
      constructor
      · intro h
        have hmem : '<' ∈ (Join.blankLines count).separator := by
          rw [h]
          decide
        exact absurd (List.eq_of_mem_replicate hmem) (by decide)
      · intro h
        contradiction

/-- Where the rule for definitions says nothing, the default rule decides, and else there is one
blank line. -/
theorem Writer.HasDefaultJoins.decide_eq {writer : Writer} (hwriter : writer.HasDefaultJoins)
    {state : State} {left right parent : Node}
    (h : Join.tightDefinitions state left right parent = none) :
    Join.decide writer.joins state left right parent =
      (Join.defaultRule state left right parent).getD (.blankLines 1) := by
  unfold Join.decide
  rcases hwriter with hjoins | hjoins
  · rw [hjoins]
    cases hrule : Join.defaultRule state left right parent <;> simp [hrule]
  · rw [hjoins]
    cases hrule : Join.defaultRule state left right parent <;> simp [hrule, h]

/-- Neighbouring lists of a kind are interrupted unless their other marker is chosen. -/
theorem Writer.HasDefaultJoins.interrupts_lists_iff {writer : Writer}
    (hwriter : writer.HasDefaultJoins) {state : State}
    {left right : ListStyle} (hordered : left.ordered = right.ordered) (lefts rights : List Node)
    (parent : Node) :
    Join.decide writer.joins state (.branch (.list left) lefts)
      (.branch (.list right) rights) parent = .interrupt ↔
      otherChoice right state.style = none := by
  have hmerges :
      Join.mergesAsList state.style (.branch (.list left) lefts) (.branch (.list right) rights) =
      (otherChoice right state.style).isNone := by
    simp [Join.mergesAsList, otherChoice, hordered]
  rw [hwriter.decide_eq rfl]
  unfold Join.defaultRule
  rw [hmerges]
  cases otherChoice right state.style with
  | none => simp
  | some chosen => cases parent.spread? <;> simp [Join.continuesAsCode, Join.keepsBlankLine]

/-! ## Markers -/

section Markers

variable {left right : ListStyle} {lefts rights : List Node} {hasParent : Bool}
  {start behind : State}
  {bullet bullet' : Char}

theorem usualMarker_congr (hordered : left.ordered = right.ordered) (style : Style) :
    usualMarker left style = usualMarker right style := by
  unfold usualMarker
  rw [hordered]

theorem otherMarker_congr (hordered : left.ordered = right.ordered) (style : Style) :
    otherMarker left style = otherMarker right style := by
  unfold otherMarker
  rw [hordered]

/-- With the other marker chosen, a list takes the marker of the list before it only if both take
the other one, the second one because it would be misread. -/
theorem bullet_eq_iff (hordered : left.ordered = right.ordered)
    (hleft : listBullet left lefts hasParent start = .ok bullet)
    (hright : listBullet right rights true behind = .ok bullet')
    (hstyle : behind.style = start.style) (hlast : behind.bulletLastUsed = some bullet)
    {n : Nat} {outer : List Nat} (hindexes : behind.indexes = (n + 1) :: outer)
    (hchosen : otherChoice right start.style ≠ none) :
    bullet = bullet' ↔
      right.ordered = false ∧ start.style.bulletOther = some bullet ∧
        rights.any beginsWithRule = true ∧ start.style.ruleMarker = start.style.bulletMarker := by
  obtain ⟨usual, other, misread, husual, hother, -, hbullet⟩ := listBullet_eq_ok hleft
  obtain ⟨usual', other', misread', husual', hother', hmisread', hbullet'⟩ :=
    listBullet_eq_ok hright
  rw [hstyle, ← usualMarker_congr hordered, husual] at husual'
  rw [hstyle, ← otherMarker_congr hordered, hother] at hother'
  obtain rfl := Except.ok.inj husual'
  obtain rfl := Except.ok.inj hother'
  rw [usualMarker_congr hordered] at husual
  rw [otherMarker_congr hordered] at hother
  obtain ⟨-, hne, hchoice⟩ := otherMarker_eq_ok husual hother
  obtain ⟨chosen, hchosen⟩ := Option.ne_none_iff_exists'.mp hchosen
  obtain rfl := hchoice chosen hchosen
  have hbullet' : bullet' = if bullet = usual ∨ misread' = true then chosen else usual := by
    rw [hbullet', hstyle, hchosen, hlast]
    simp
  have heither : bullet = usual ∨ bullet = chosen := by
    rw [hbullet]
    split
    · exact .inr rfl
    · exact .inl rfl
  rcases heither with rfl | rfl
  · -- The usual marker is followed by the other one.
    rw [if_pos (.inl rfl)] at hbullet'
    have hdiffer : bullet ≠ bullet' := by
      rw [hbullet']
      exact hne.symm
    refine iff_of_false hdiffer ?_
    rintro ⟨hunordered, hbulletOther, -⟩
    unfold otherChoice at hchosen
    rw [hunordered] at hchosen
    exact hne (Option.some.inj (hchosen.symm.trans hbulletOther))
  · -- The other marker is followed by the usual one unless that is misread.
    have hsame : bullet = bullet' ↔ misread' = true := by
      rw [hbullet']
      cases misread' <;> simp [hne]
    rw [hsame]
    cases hkind : right.ordered with
    | true =>
        rw [misreads, hkind, if_pos rfl] at hmisread'
        obtain rfl := Except.ok.inj hmisread'
        simp
    | false =>
        unfold otherChoice at hchosen
        unfold usualMarker at husual
        unfold misreads at hmisread'
        rw [hkind, if_neg Bool.false_ne_true] at hmisread' hchosen husual
        rw [isMisread_eq_ok hindexes hmisread', hstyle, husual, hchosen]
        simp

end Markers

/-! ## Neighbours -/

/-- **Where lists merge.** Of two lists of a kind that follow each other in a container, the first
one is separated from the second one by an empty comment, or the two have different markers, unless
they are bullet lists, the first one has the other bullet as it was chosen, and an item of the
second one begins with a thematic break of the usual bullet. -/
theorem Writer.IsBuiltIn.adjacent_lists_merge_iff {writer : Writer} (hwriter : writer.IsBuiltIn)
    {parent : Node} {position : Position} {state after : State} {value : List Char}
    (h : writer.blocks parent position state = (.ok value, after)) :
    ∃ pieces, writer.pieces parent position state = (.ok pieces, after) ∧
      value = Piece.flatten pieces ∧
      ∀ n left lefts right rights,
        parent.children[n]? = some (.branch (.list left) lefts) →
        parent.children[n + 1]? = some (.branch (.list right) rights) →
        left.ordered = right.ordered →
        ∃ first second bullet bullet', pieces[n]? = some first ∧ pieces[n + 1]? = some second ∧
          IsMarkedWith state.style left lefts bullet first.text ∧
          IsMarkedWith state.style right rights bullet' second.text ∧
          ((first.separator ≠ Join.interrupt.separator ∧ bullet = bullet') ↔
            right.ordered = false ∧ state.style.bulletOther = some bullet ∧
              rights.any beginsWithRule = true ∧
              state.style.ruleMarker = state.style.bulletMarker) := by
  obtain ⟨pieces, hpieces, rfl⟩ := blocks_eq_ok h
  refine ⟨pieces, hpieces, rfl, ?_⟩
  intro n left lefts right rights hleft hright hordered
  have hlength := length_pieces hpieces
  have hn := (List.getElem?_eq_some_iff.mp hright).1
  obtain ⟨first, hfirst⟩ : ∃ first, pieces[n]? = some first :=
    ⟨_, List.getElem?_eq_getElem (by omega)⟩
  obtain ⟨second, hsecond⟩ : ∃ second, pieces[n + 1]? = some second :=
    ⟨_, List.getElem?_eq_getElem (by omega)⟩
  obtain ⟨_, start, middle, between, _, start', middle', hstart, hrender, hbetween, hseparator,
      hstart', hlast, hrender'⟩ :=
    exists_runs_of_pieces hpieces hleft hright hfirst hsecond
  obtain ⟨bullet, hbullet, hbehind, hmarked⟩ :=
    (hwriter.laysOut .list).isMarkedWith_of_list (hwriter.laysOut .listItem) hrender
  obtain ⟨bullet', hbullet', -, hmarked'⟩ :=
    (hwriter.laysOut .list).isMarkedWith_of_list (hwriter.laysOut .listItem) hrender'
  rw [hstart.style] at hmarked
  rw [hstart'.style] at hmarked'
  refine ⟨first, second, bullet, bullet', hfirst, hsecond, hmarked, hmarked', ?_⟩
  rw [Ne, hseparator, Join.separator_eq_interrupt_iff, hwriter.joins.interrupts_lists_iff hordered,
    hbetween.style]
  constructor
  · rintro ⟨hchosen, hsame⟩
    rw [← hstart.style] at hchosen ⊢
    exact (bullet_eq_iff hordered hbullet hbullet' (hstart'.style.trans hstart.style.symm)
      (hlast.trans hbehind) hstart'.indexes hchosen).mp hsame
  · intro hmerge
    have hchosen : otherChoice right state.style ≠ none := by
      unfold otherChoice
      rw [hmerge.1, if_neg Bool.false_ne_true, hmerge.2.1]
      exact Option.some_ne_none _
    refine ⟨hchosen, ?_⟩
    rw [← hstart.style] at hchosen hmerge
    exact (bullet_eq_iff hordered hbullet hbullet' (hstart'.style.trans hstart.style.symm)
      (hlast.trans hbehind) hstart'.indexes hchosen).mpr hmerge

/-! ## Lists of thematic breaks -/

/-- The items of a list that holds one thematic break. -/
def ruleItems : List Node :=
  [.branch (.listItem false) [.leaf .thematicBreak]]

/-- Two lists of one thematic break. -/
def ruleLists : Node :=
  .branch .root [.branch (.list {}) ruleItems, .branch (.list {}) ruleItems]

/-- Such lists are marked alike if `+` is chosen as the other bullet, and no comment is between
them. -/
theorem merging_lists_of_rules :
    Writer.standard.IsBuiltIn ∧
      ∃ value after pieces first second,
        Writer.standard.blocks ruleLists {} { style := { bulletOther := some '+' } } =
          (.ok value, after) ∧
        Writer.standard.pieces ruleLists {} { style := { bulletOther := some '+' } } =
          (.ok pieces, after) ∧
        pieces[0]? = some first ∧ pieces[1]? = some second ∧
        first.separator ≠ Join.interrupt.separator ∧
        IsMarkedWith { bulletOther := some '+' } {} ruleItems '+' first.text ∧
        IsMarkedWith { bulletOther := some '+' } {} ruleItems '+' second.text := by
  have hwriter : Writer.standard.IsBuiltIn := ⟨rfl, .inl rfl⟩
  have hrun : Writer.standard.blocks ruleLists {} { style := { bulletOther := some '+' } } =
      (.ok ['+', ' ', ' ', ' ', '*', '*', '*', '\n', '\n', '+', ' ', ' ', ' ', '*', '*', '*'],
        { style := { bulletOther := some '+' }, bulletLastUsed := some '+' }) := rfl
  have hpieces : Writer.standard.pieces ruleLists {} { style := { bulletOther := some '+' } } =
      (.ok [⟨['+', ' ', ' ', ' ', '*', '*', '*'], ['\n', '\n']⟩,
        ⟨['+', ' ', ' ', ' ', '*', '*', '*'], []⟩],
        { style := { bulletOther := some '+' }, bulletLastUsed := some '+' }) := rfl
  obtain ⟨pieces, hpieces', -, hlists⟩ := hwriter.adjacent_lists_merge_iff hrun
  obtain ⟨hsame, -⟩ := Render.outcome_eq_iff.mp (hpieces.symm.trans hpieces')
  obtain rfl := Except.ok.inj hsame
  obtain ⟨first, second, bullet, bullet', hfirst, hsecond, hmarked, hmarked', hmerge⟩ :=
    hlists 0 {} ruleItems {} ruleItems rfl rfl rfl
  obtain rfl := Option.some.inj hfirst
  obtain rfl := Option.some.inj hsecond
  obtain rfl : '+' = bullet := Option.some.inj (hmarked.head?_eq rfl)
  obtain ⟨hseparator, rfl⟩ := hmerge.mpr ⟨rfl, rfl, rfl, rfl⟩
  exact ⟨hwriter, _, _, _, _, _, hrun, hpieces, rfl, rfl, hseparator, hmarked, hmarked'⟩

/-- Neither a comment nor their markers keep two lists of thematic breaks apart. -/
theorem toMarkdown_ruleLists :
    toMarkdown (.node { style := { bulletOther := some '+' } } []) ruleLists =
      .ok "+   ***\n\n+   ***\n" := by
  decide +kernel

end MarkdownWriter
