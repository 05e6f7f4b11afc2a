import MarkdownWriter.Proofs.Render.AdjacentLists
import MarkdownWriter.Proofs.Render.Visits

/-!
# Items that begin with a rule

A bullet in front of a thematic break of the same character is read as part of it. A list with an
item that begins with a thematic break therefore takes the other bullet if the usual one is the
character of the rule. It takes the other bullet for other reasons too, and then that may be the
character of the rule.

* **What a line of marks is read as** (`readsAsRule`): nothing but three or more equal marks, with
  or without spaces. Spaces do not matter to it, so lines are compared without them (`unspaced`).
* **The first line of such an item** (`Writer.LaysOut.unspaced_of_beginsWithRule`) is the bullet and
  the marks of the rule, and it is read as a rule exactly if all of them are equal
  (`readsAsRule_cons_replicate_iff`).
* **Where a bullet continues into a rule** (`Writer.LaysOut.bullet_eq_rule_iff`): exactly if the
  list takes the other bullet, that is the character of the rule, and another reason than the rule
  made the list take it.
-/

namespace MarkdownWriter

open Layout Text

/-! ## Lines of marks -/

/-- What is in a line but spaces and tabs. -/
def unspaced (line : List Char) : List Char :=
  line.filter (!isSpacing ·)

/-- Whether a line that begins with a mark is read as a thematic break: there are three or more of
the same mark in it, and nothing else but spaces and tabs. -/
def readsAsRule (line : List Char) : Bool :=
  3 ≤ (unspaced line).length && ['*', '-', '_'].any fun mark => (unspaced line).all (· == mark)

/-- A rule is a line of three marks or more, all of one kind, with any spaces between them. -/
theorem readsAsRule_iff {line : List Char} :
    readsAsRule line = true ↔ 3 ≤ (unspaced line).length ∧ ∃ mark ∈ ['*', '-', '_'],
      ∀ c ∈ unspaced line, c = mark := by
  unfold readsAsRule
  rw [Bool.and_eq_true, decide_eq_true_iff, List.any_eq_true]
  simp only [List.all_eq_true, beq_iff_eq]

/-- Spaces are left out part by part. -/
theorem unspaced_append (front back : List Char) :
    unspaced (front ++ back) = unspaced front ++ unspaced back :=
  List.filter_append ..

@[simp] theorem unspaced_replicate_space (count : Nat) : unspaced (List.replicate count ' ') = [] :=
  List.filter_replicate_of_neg (by decide)

/-- Where there are none nothing is left out. -/
theorem unspaced_of_forall {line : List Char} (h : ∀ c ∈ line, isSpacing c = false) :
    unspaced line = line :=
  List.filter_eq_self.mpr fun c hc => by simp [h c hc]

/-- Spaces between marks are left out. -/
theorem unspaced_intersperse {line : List Char} (h : ∀ c ∈ line, isSpacing c = false) :
    unspaced (line.intersperse ' ') = line := by
  induction line with
  | nil => rfl
  | cons c rest ih =>
      obtain ⟨hc, hrest⟩ := List.forall_mem_cons.mp h
      cases rest with
      | nil => exact unspaced_of_forall h
      | cons next others =>
          unfold unspaced at ih ⊢
          rw [List.intersperse_cons_cons, List.filter_cons_of_pos (by simp [hc]),
            List.filter_cons_of_neg (by decide), ih hrest]

/-- A mark in front of two or more equal ones belongs to them exactly if it is one of them. -/
theorem readsAsRule_cons_replicate_iff {line : List Char} {bullet rule : Char} {count : Nat}
    (hrule : rule ∈ ['*', '-', '_']) (hcount : 2 ≤ count)
    (hmarks : unspaced line = bullet :: List.replicate count rule) : readsAsRule line = true ↔
      bullet = rule := by
  rw [readsAsRule_iff, hmarks]
  constructor
  · rintro ⟨-, mark, -, hall⟩
    obtain ⟨hbullet, hothers⟩ := List.forall_mem_cons.mp hall
    rw [hbullet, hothers rule (List.mem_replicate.mpr ⟨by omega, rfl⟩)]
  · rintro rfl
    refine ⟨?_, bullet, hrule, ?_⟩
    · rw [List.length_cons, List.length_replicate]
      omega
    · exact List.forall_mem_cons.mpr ⟨rfl, fun c hc => List.eq_of_mem_replicate hc⟩

/-! ## Rules behind bullets -/

/-- An item that begins with a rule has it as its first child. -/
theorem Layout.exists_of_beginsWithRule {item : Node} (h : beginsWithRule item = true) :
    ∃ spread others, item = .branch (.listItem spread) (.leaf .thematicBreak :: others) := by
  unfold beginsWithRule at h
  split at h
  · exact ⟨_, _, rfl⟩
  · contradiction

/-- Three or more marks are written as a thematic break, in one line. -/
theorem Layout.thematicBreak_eq_ok {state after : State} {value : List Char}
    (h : thematicBreak state = (.ok value, after)) :
    ∃ rule count, state.style.ruleMarker = .ok rule ∧ rule ∈ ['*', '-', '_'] ∧ 3 ≤ count ∧
      unspaced value = List.replicate count rule ∧ ∀ c ∈ value, isLineBreak c = false := by
  obtain ⟨rule, _, hmarker, h⟩ := Render.bind_eq_ok.mp h
  obtain ⟨hrule, rfl⟩ := Render.ofStyle_eq_ok.mp hmarker
  obtain ⟨count, _, hlength, h⟩ := Render.bind_eq_ok.mp h
  obtain ⟨hcount, rfl⟩ := Render.ofStyle_eq_ok.mp hlength
  rw [Render.bind_run_ok (Render.get_run _)] at h
  obtain ⟨rfl, -⟩ := Render.pure_eq_ok.mp h
  have hmem : rule ∈ ['*', '-', '_'] := Style.mem_of_accepted hrule
  have hall : ['*', '-', '_'].all (fun mark => !isSpacing mark && !isLineBreak mark) = true := by
    decide
  obtain ⟨hspacing, hfree⟩ : isSpacing rule = false ∧ isLineBreak rule = false := by
    simpa using List.all_eq_true.mp hall rule hmem
  have hreplicate : ∀ c ∈ List.replicate count rule, isSpacing c = false := fun c hc =>
    List.eq_of_mem_replicate hc ▸ hspacing
  have hmarks :
      unspaced (if state.style.spacesRules then (List.replicate count rule).intersperse ' '
      else List.replicate count rule) = List.replicate count rule := by
    split
    · exact unspaced_intersperse hreplicate
    · exact unspaced_of_forall hreplicate
  refine ⟨rule, count, hrule, hmem, Style.le_of_ruleLength hcount, hmarks, fun c hc => ?_⟩
  by_cases hc' : isSpacing c = true
  · simp only [isSpacing, Bool.or_eq_true, beq_iff_eq] at hc'
    rcases hc' with rfl | rfl
    · rfl
    · rfl
  · have hmark : c ∈ List.replicate count rule := by
      rw [← hmarks]
      exact List.mem_filter.mpr ⟨hc, by simpa using hc'⟩
    exact List.eq_of_mem_replicate hmark ▸ hfree

/-- The first line of an item of a bullet list has its bullet in front of the marks of its contents.
-/
theorem Layout.unspaced_itemLayout_text {style : Style} {bullet : Char} {list : ListStyle}
    {items : List Node} {spread : Bool} {n : Nat} (hunordered : list.ordered = false)
    (hbullet : bullet ∈ markers list) (content : List Char) :
    unspaced (Lines.ofText ((itemLayout style bullet list items spread n).text content)).first =
      bullet :: unspaced (Lines.ofText content).first := by
  have hmarker : (itemLayout style bullet list items spread n).marker = [bullet] := by
    rw [itemLayout_marker, hunordered, if_neg Bool.false_ne_true, List.nil_append]
  have hspacing : isSpacing bullet = false := by
    have hall : Style.bullets.all (fun c => !isSpacing c) = true := by decide
    unfold markers at hbullet
    rw [hunordered, if_neg Bool.false_ne_true] at hbullet
    simpa using List.all_eq_true.mp hall bullet hbullet
  rw [ofText_itemLayout_text hbullet, hmarker]
  change unspaced (itemLine [bullet] _ 0 (Lines.ofText content).first) = _
  unfold itemLine
  rw [if_pos rfl]
  have hfront : unspaced [bullet] = [bullet] :=
    unspaced_of_forall (List.forall_mem_singleton.mpr hspacing)
  split
  · next hempty =>
      rw [List.isEmpty_iff.mp hempty]
      exact hfront
  · rw [unspaced_append, unspaced_append, hfront, unspaced_replicate_space, List.append_nil,
      List.singleton_append]

namespace Writer

variable {writer : Writer}

/-- In a bullet list the first line of an item that begins with a thematic break is the bullet
before the rule. -/
theorem LaysOut.unspaced_of_beginsWithRule (hitem : writer.LaysOut .listItem)
    (hrule : writer.LaysOut .thematicBreak) {list : ListStyle} {items : List Node} {bullet : Char}
    {state : State} {visit : Visit} {n : Nat} {last : Option Char}
    (hunordered : list.ordered = false) (hbullet : bullet ∈ markers list)
    (h : visit.IsChild writer (.branch (.list list) items) (openList bullet state) n last)
    (hbegins : beginsWithRule visit.node = true) :
    ∃ rule count, state.style.ruleMarker = .ok rule ∧ rule ∈ ['*', '-', '_'] ∧ 3 ≤ count ∧
      unspaced (Lines.ofText visit.text).first = bullet :: List.replicate count rule := by
  obtain ⟨spread, others, hnode⟩ := exists_of_beginsWithRule hbegins
  obtain ⟨visits, content, hvisits, htext⟩ := hitem.exists_visits_of_item h hnode
  obtain ⟨first, rest, rfl, hleaf, -⟩ := List.map_eq_cons_iff.mp hvisits.nodes
  have hchild := hvisits.isChild (n := 0) rfl
  have hmade := hchild.made
  unfold Visit.IsMade at hmade
  rw [hleaf, hrule.render_eq_layout rfl] at hmade
  obtain ⟨rule, count, hmarker, hmem, hcount, hmarks, hfree⟩ := thematicBreak_eq_ok hmade
  have hstyle : first.state.style = state.style := hchild.within.style.trans h.within.style
  refine ⟨rule, count, hstyle ▸ hmarker, hmem, hcount, ?_⟩
  rw [htext, unspaced_itemLayout_text hunordered hbullet, hvisits.separated.first_eq,
    Lines.first_eq_takeWhile,
    List.takeWhile_eq_self_iff.mpr fun c hc => by simp [hfree c hc], hmarks]

/-- **Where a bullet continues into a rule.** A bullet list with an item that begins with a thematic
break takes the character of the rule as its bullet exactly if that is the other bullet and the list
takes it for a reason of its own: the usual bullet is remembered while the other one is chosen, or
the list is a nested empty one. The first line of every such item is read as one thematic break
exactly then. -/
theorem LaysOut.bullet_eq_rule_iff (hwriter : writer.LaysOut .list)
    (hitem : writer.LaysOut .listItem) (hrule : writer.LaysOut .thematicBreak)
    {list : ListStyle} {items : List Node} {parent : Option Node} {site : Site} {state : State}
    (hstate : state.style.validate = .ok ()) (hunordered : list.ordered = false)
    (hitems : items.any beginsWithRule = true) :
    ∃ usual other rule bullet, state.style.bulletMarker = .ok usual ∧
      state.style.otherBulletMarker = .ok other ∧ state.style.ruleMarker = .ok rule ∧
      listBullet list items parent.isSome state = .ok bullet ∧
      (bullet = rule ↔ other = rule ∧
        ((parent.isSome = true ∧ state.style.bulletOther.isSome = true ∧
            state.bulletLastUsed = some usual) ∨
          IsNestedEmpty usual items state)) ∧
      ∀ text after,
        writer.render (.branch (.list list) items) parent site state = (.ok text, after) →
        after.bulletLastUsed = some bullet ∧
        ∃ visits, writer.Visits (.branch (.list list) items) (openList bullet state) 0
            state.bulletLastUsed items visits text ∧
          ∀ visit ∈ visits, beginsWithRule visit.node = true →
            (∃ count, 3 ≤ count ∧
              unspaced (Lines.ofText visit.text).first = bullet :: List.replicate count rule) ∧
            (readsAsRule (Lines.ofText visit.text).first = true ↔ bullet = rule) := by
  have hprovides := Style.provides_of_validate hstate
  obtain ⟨usual, husual⟩ := hprovides.bullet
  obtain ⟨other, hother⟩ := hprovides.otherBullet
  obtain ⟨rule, hmarker⟩ := hprovides.rule
  obtain ⟨bullet, hbullet⟩ := exists_listBullet hstate list items parent.isSome
  have hmem := listBullet_mem hbullet
  have hne : other ≠ usual := (Style.otherBulletMarker_eq_ok husual hother).2.1
  obtain ⟨heither, htakes⟩ := listBullet_eq_other_iff hunordered husual hother hbullet
  simp only [hitems, hmarker, true_and, Except.ok.injEq] at htakes
  refine ⟨usual, other, rule, bullet, husual, hother, hmarker, hbullet, ?_, ?_⟩
  · constructor
    · intro hsame
      have hsecond : bullet = other := by
        rcases heither with rfl | hsecond
        · exact htakes.mpr (.inr (.inl hsame.symm))
        · exact hsecond
      have hclash : other = rule := hsecond.symm.trans hsame
      rcases htakes.mp hsecond with hmerges | husualRule | hnested
      · exact ⟨hclash, .inl hmerges⟩
      · exact absurd (hclash.trans husualRule) hne
      · exact ⟨hclash, .inr hnested⟩
    · rintro ⟨rfl, hmerges | hnested⟩
      · exact htakes.mpr (.inl hmerges)
      · exact htakes.mpr (.inr (.inr hnested))
  · intro text after h
    obtain ⟨bullet', visits, hbullet', hlast, hvisits⟩ := hwriter.exists_visits_of_list h
    obtain rfl := Except.ok.inj (hbullet.symm.trans hbullet')
    refine ⟨hlast, visits, hvisits, fun visit hvisit hbegins => ?_⟩
    obtain ⟨n, hn⟩ := List.mem_iff_getElem?.mp hvisit
    obtain ⟨rule', count, hmarker', hrule', hcount, hmarks⟩ :=
      hitem.unspaced_of_beginsWithRule hrule hunordered hmem (hvisits.isChild hn) hbegins
    obtain rfl := Except.ok.inj (hmarker.symm.trans hmarker')
    exact ⟨⟨count, hcount, hmarks⟩, readsAsRule_cons_replicate_iff hrule' (by omega) hmarks⟩

end Writer

/-! ## A rule behind the other bullet -/

/-- A style whose other bullet is the character of its rules. -/
def dashedStyle : Style :=
  { bullet := some '+', bulletOther := some '-', rule := some '-' }

/-- Behind a list with the usual bullet, a list of one thematic break is read as that break alone.
-/
theorem readsAsRule_of_dashedStyle :
    Writer.standard.LaysOut .list ∧ Writer.standard.LaysOut .listItem ∧
      Writer.standard.LaysOut .thematicBreak ∧ dashedStyle.validate = .ok () ∧
      ruleItems.any beginsWithRule = true ∧
      ∃ text after,
        Writer.standard.render (.branch (.list {}) ruleItems) (some ruleLists)
            (Writer.blockSite {})
            { style := dashedStyle, indexes := [1], bulletLastUsed := some '+' } =
          (.ok text, after) ∧
        after.bulletLastUsed = dashedStyle.rule ∧
        readsAsRule (Lines.ofText text).first = true := by
  have hvalid : dashedStyle.validate = .ok () := rfl
  have hrun : Writer.standard.render (.branch (.list {}) ruleItems) (some ruleLists)
      (Writer.blockSite {})
      { style := dashedStyle, indexes := [1], bulletLastUsed := some '+' } =
        (.ok ['-', ' ', ' ', ' ', '-', '-', '-'],
          { style := dashedStyle, indexes := [1], bulletLastUsed := some '-' }) := rfl
  obtain ⟨usual, other, rule, bullet, husual, hother, hrule, -, hclash, hwritten⟩ :=
    @Writer.LaysOut.bullet_eq_rule_iff Writer.standard rfl rfl rfl {} ruleItems (some ruleLists)
      (Writer.blockSite {})
      { style := dashedStyle, indexes := [1], bulletLastUsed := some '+' } hvalid rfl rfl
  obtain rfl : '+' = usual := Except.ok.inj husual
  obtain rfl : '-' = other := Except.ok.inj hother
  obtain rfl : '-' = rule := Except.ok.inj hrule
  obtain rfl : bullet = '-' := hclash.mpr ⟨rfl, .inl ⟨rfl, rfl, rfl⟩⟩
  obtain ⟨hlast, visits, hvisits, hrules⟩ := hwritten _ _ hrun
  obtain ⟨visit, others, rfl, hnode, -⟩ := List.map_eq_cons_iff.mp hvisits.nodes
  obtain ⟨-, hreads⟩ := hrules visit List.mem_cons_self (hnode ▸ rfl)
  refine ⟨rfl, rfl, rfl, hvalid, rfl, _, _, hrun, hlast, ?_⟩
  rw [hvisits.separated.first_eq]
  exact hreads.mpr rfl

/-- A document in which the other bullet continues into a rule. -/
theorem toMarkdown_dashedStyle :
    toMarkdown (.node { style := dashedStyle } [])
        (.branch .root [.branch (.list {}) [.branch (.listItem false) []],
          .branch (.list {}) ruleItems]) =
      .ok "+\n\n-   ---\n" ∧ readsAsRule "-   ---".toList = true := by
  decide +kernel

end MarkdownWriter
