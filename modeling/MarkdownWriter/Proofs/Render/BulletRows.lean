import MarkdownWriter.Proofs.Render.RememberedMarkers
import MarkdownWriter.Proofs.Render.RuleItems

/-!
# Rows of bullets

Where lists are nested in first items down to an item without children, their bullets come to stand
in one row, and three or more equal ones are read as a thematic break. The innermost list takes the
other bullet for that, but it does not see which bullets the lists around it have taken.

* **What is in such a row** (`Writer.IsBulletRow`): the bullet of the outermost list, and one for
  each nested list (`nestedBullet`), which depends on the marker that is found there and on the
  items of the list.
* **Where it is read as a thematic break** (`Writer.LaysOutNests.exists_bulletRows`).
-/

namespace MarkdownWriter

open Layout Text

/-! ## Bare items -/

/-- An item that begins with nothing but bullets: it is empty, or its first child is a bullet list
whose first item is bare again. The items of the nested lists are named, those of the outermost one
first. -/
inductive Node.IsBare : Node → List (List Node) → Prop
  | empty {spread : Bool} : IsBare (.branch (.listItem spread) []) []
  | nested {spread : Bool} {list : ListStyle} {first : Node} {items blocks : List Node}
    {inner : List (List Node)} (hunordered : list.ordered = false) (h : IsBare first inner) :
      IsBare (.branch (.listItem spread) (.branch (.list list) (first :: items) :: blocks))
        ((first :: items) :: inner)

/-- Whether the first of several items is empty. -/
def beginsEmpty (items : List Node) : Bool :=
  items.head?.any (·.children.isEmpty)

/-- Of the nested lists in a bare item the last one begins with an empty item, and no other one
does. -/
theorem Node.IsBare.eq_nil_or_concat {item : Node} {inner : List (List Node)}
    (h : item.IsBare inner) :
    (inner = [] ∧ item.children = []) ∨
      ∃ outer last, inner = outer ++ [last] ∧ item.children ≠ [] ∧ beginsEmpty last = true ∧
        ∀ items ∈ outer, beginsEmpty items = false := by
  induction h with
  | empty => exact .inl ⟨rfl, rfl⟩
  | @nested _ _ first items _ _ _ _ ih =>
      right
      obtain ⟨rfl, hempty⟩ | ⟨outer, last, rfl, hchildren, hlast, houter⟩ := ih
      · exact ⟨[], first :: items, rfl, List.cons_ne_nil _ _, by simp [beginsEmpty, hempty],
          by simp⟩
      · have hfirst : beginsEmpty (first :: items) = false := by simpa [beginsEmpty] using hchildren
        exact ⟨(first :: items) :: outer, last, rfl, List.cons_ne_nil _ _, hlast,
          List.forall_mem_cons.mpr ⟨hfirst, houter⟩⟩

/-! ## The bullets of nested lists -/

/-- The bullet of a bullet list that is the first child of a first item of a list which is a first
child of an item itself, if `merges` says whether the usual one is found and the other one is
chosen. -/
def nestedBullet (usual other rule : Char) (merges : Bool) (items : List Node) : Char :=
  if merges || (items.any beginsWithRule && rule == usual) ||
    ((usual == '*' || usual == '-') && beginsEmpty items)
  then other else usual

section nestedBullet

variable {usual other rule bullet : Char} {merges : Bool} {items : List Node}

/-- A nested list has one of two markers. -/
theorem nestedBullet_eq_or : nestedBullet usual other rule merges items = usual ∨
    nestedBullet usual other rule merges items = other := by
  unfold nestedBullet
  split
  · exact .inr rfl
  · exact .inl rfl

/-- It has the other one if it would merge or be misread. -/
theorem nestedBullet_eq_other_iff (hne : other ≠ usual) :
    nestedBullet usual other rule merges items = other ↔
      merges = true ∨ (items.any beginsWithRule = true ∧ rule = usual) ∨
        ((usual = '*' ∨ usual = '-') ∧ beginsEmpty items = true) := by
  unfold nestedBullet
  split
  · next h => exact iff_of_true rfl (by simpa [or_assoc] using h)
  · next h => exact iff_of_false hne.symm (by simpa [or_assoc] using h)

/-- The bullets in a row are read as a thematic break exactly if all of them are the other bullet,
and that is no `+`. The innermost one always is, and so are the others where the usual bullet is
found, or where each of the lists around has an item that begins with a thematic break of the usual
bullet. -/
theorem readsAsRule_nestedBullets_iff {item : Node} {inner : List (List Node)} {line : List Char}
    (husual : usual ∈ Style.bullets) (hother : other ∈ Style.bullets) (hne : other ≠ usual)
    (hrule : rule ∈ ['*', '-', '_']) (hbare : item.IsBare inner) (htwo : 2 ≤ inner.length)
    (hline : unspaced line = bullet :: inner.map (nestedBullet usual other rule merges)) :
    readsAsRule line = true ↔ other ≠ '+' ∧ bullet = other ∧
      (merges = true ∨
        (rule = usual ∧ ∀ items ∈ inner.dropLast, items.any beginsWithRule = true)) := by
  obtain ⟨rfl, -⟩ | ⟨outer, last, rfl, -, hlast, houter⟩ := hbare.eq_nil_or_concat
  · contradiction
  have hmarks : ∀ mark ∈ ['*', '-', '_'], mark ≠ '+' := by simp
  have hbullets : ∀ c ∈ Style.bullets, c ≠ '+' → c = '*' ∨ c = '-' := by simp [Style.bullets]
  constructor
  · intro h
    obtain ⟨-, mark, hmark, hall⟩ := readsAsRule_iff.mp h
    rw [hline, List.forall_mem_cons, List.forall_mem_map] at hall
    obtain ⟨hbullet, hinner⟩ := hall
    obtain rfl : mark = other := by
      have hinnermost := hinner last (List.mem_append_right _ (List.mem_singleton_self _))
      by_contra hmarkOther
      have htakesUsual := nestedBullet_eq_or.resolve_right fun h =>
        hmarkOther (hinnermost.symm.trans h)
      have hplus : usual = '+' := by
        by_contra hplus
        apply hmarkOther
        rw [← hinnermost, nestedBullet_eq_other_iff hne]
        exact .inr (.inr ⟨hbullets usual husual hplus, hlast⟩)
      exact hmarks mark hmark (hinnermost.symm.trans (htakesUsual.trans hplus))
    refine ⟨hmarks _ hmark, hbullet, ?_⟩
    by_cases hmerges : merges = true
    · exact .inl hmerges
    · have hruled : ∀ items ∈ outer, items.any beginsWithRule = true ∧ rule = usual := by
        intro items hitems
        obtain h | h | ⟨-, hempty⟩ :=
          (nestedBullet_eq_other_iff hne).mp (hinner items (List.mem_append_left _ hitems))
        · exact absurd h hmerges
        · exact h
        · rw [houter items hitems] at hempty
          exact absurd hempty Bool.false_ne_true
      obtain ⟨items, hitems⟩ := List.exists_mem_of_ne_nil outer (by rintro rfl; simp at htwo)
      rw [List.dropLast_concat]
      exact .inr ⟨(hruled items hitems).2, fun items hitems => (hruled items hitems).1⟩
  · rintro ⟨hplus, rfl, hreason⟩
    rw [List.dropLast_concat] at hreason
    have hmark : bullet ∈ ['*', '-', '_'] := by
      rcases hbullets bullet hother hplus with rfl | rfl
      · decide
      · decide
    rw [readsAsRule_iff, hline, List.length_cons, List.length_map]
    refine ⟨by omega, bullet, hmark, List.forall_mem_cons.mpr ⟨rfl, ?_⟩⟩
    rw [List.forall_mem_map]
    intro items hitems
    apply (nestedBullet_eq_other_iff hne).mpr
    rcases hreason with hmerges | ⟨rfl, hruled⟩
    · exact .inl hmerges
    · rcases List.mem_append.mp hitems with hitems | hitems
      · exact .inr (.inl ⟨hruled items hitems, rfl⟩)
      · rw [List.mem_singleton.mp hitems]
        exact .inr (.inr ⟨hbullets rule husual (hmarks rule hrule), hlast⟩)

end nestedBullet

/-! ## The row of a bare item -/

/-- The place of a first item of a list that is the first child of an item, for a list that is
opened in a state. -/
structure IsFirstOfFirst (state : State) (n : Nat) : Prop where
  item : n = 0
  list : state.indexes.head? = some 0
  outer : state.constructs.head? = some .listItem

/-- A list that is the first child of an item is nested where that is the first item of a first
child of an item. -/
theorem isNestedFirst_iff {state inner : State} {n : Nat}
    (hconstructs : inner.constructs = .listItem :: .list :: state.constructs)
    (hindexes : inner.indexes = 0 :: n :: state.indexes) :
    isNestedFirst { inner with constructs := .list :: inner.constructs } = true ↔
      IsFirstOfFirst state n := by
  unfold isNestedFirst
  rw [hconstructs, hindexes]
  constructor
  · intro h
    dsimp only at h
    split at h
    · next hcs his =>
        simp only [List.cons.injEq, true_and] at hcs his
        exact ⟨his.1, by rw [his.2]; rfl, by rw [hcs]; rfl⟩
    · contradiction
  · rintro ⟨rfl, hlist, houter⟩
    obtain ⟨others, hlist⟩ := List.head?_eq_some_iff.mp hlist
    obtain ⟨constructs, houter⟩ := List.head?_eq_some_iff.mp houter
    rw [hlist, houter]
    rfl

namespace Writer

variable {writer : Writer}

section row

variable {style : Style} {usual other rule : Char} (hlist : writer.LaysOut .list)
  (hitem : writer.LaysOut .listItem)
  (husual : style.bulletMarker = .ok usual) (hother : style.otherBulletMarker = .ok other)
  (hrule : style.ruleMarker = .ok rule)

include husual hother hrule

/-- The bullet of a list at the beginning of an item, unless it would begin with an empty item in
another place. -/
theorem listBullet_eq_nestedBullet {list : ListStyle} {items : List Node} {state inner : State}
    {bullet : Char} {n : Nat} (hunordered : list.ordered = false) (hstyle : inner.style = style)
    (hconstructs : inner.constructs = .listItem :: .list :: state.constructs)
    (hindexes : inner.indexes = 0 :: n :: state.indexes)
    (h : listBullet list items true inner = .ok bullet)
    (hplace : IsFirstOfFirst state n ∨ beginsEmpty items = false) :
    bullet = nestedBullet usual other rule
      (style.bulletOther.isSome && inner.bulletLastUsed == some usual) items := by
  subst hstyle
  have hne := (Style.otherBulletMarker_eq_ok husual hother).2.1
  obtain ⟨heither, htakes⟩ := listBullet_eq_other_iff hunordered husual hother h
  have hnested : IsNestedEmpty usual items inner ↔ (usual = '*' ∨ usual = '-') ∧
      beginsEmpty items = true := by
    constructor
    · exact fun h => ⟨h.usual_eq, h.empty⟩
    · rintro ⟨hdangerous, hempty⟩
      rcases hplace with hplace | hplace
      · exact ⟨hdangerous, hempty, (isNestedFirst_iff hconstructs hindexes).mpr hplace⟩
      · rw [hempty] at hplace
        contradiction
  have hsame : bullet = other ↔
      nestedBullet usual other rule (inner.style.bulletOther.isSome &&
        inner.bulletLastUsed == some usual) items = other := by
    rw [htakes, nestedBullet_eq_other_iff hne, hnested, hrule]
    simp
  by_cases hsecond : bullet = other
  · exact hsecond.trans (hsame.mp hsecond).symm
  · have hfirst := nestedBullet_eq_or.resolve_right fun h => hsecond (hsame.mpr h)
    exact (heither.resolve_right hsecond).trans hfirst.symm

include hlist hitem

/-- **The row of a bare item** begins with the bullet of its list, and then there is one bullet for
each nested list. -/
theorem exists_bullets_of_isBare {marker : Option Char} {item : Node} {inner : List (List Node)}
    (hbare : item.IsBare inner) {list : ListStyle} {items : List Node} {bullet : Char}
    {state : State} {n : Nat} {visit : Visit} (hunordered : list.ordered = false)
    (hbullet : bullet ∈ markers list) (hstyle : state.style = style)
    (h : visit.IsChild writer (.branch (.list list) items) (openList bullet state) n marker)
    (hnode : visit.node = item) :
    ∃ bullets, unspaced (Lines.ofText visit.text).first = bullet :: bullets ∧
      bullets.length = inner.length ∧ (IsFirstOfFirst state n ∨ inner.length ≠ 1 →
        bullets = inner.map
          (nestedBullet usual other rule (style.bulletOther.isSome && marker == some usual))) := by
  induction hbare generalizing list items bullet state n visit with
  | empty =>
      obtain ⟨visits, content, hvisits, htext⟩ := hitem.exists_visits_of_item h hnode
      cases hvisits
      refine ⟨[], ?_, rfl, fun _ => rfl⟩
      rw [htext, unspaced_itemLayout_text hunordered hbullet]
      rfl
  | @nested spread list' first items' blocks inner hunordered' hbare ih =>
      obtain ⟨visits, content, hvisits, htext⟩ := hitem.exists_visits_of_item h hnode
      obtain ⟨nested, others, rfl, hnested, -⟩ := List.map_eq_cons_iff.mp hvisits.nodes
      have hchild := hvisits.isChild (n := 0) rfl
      have hmade := hchild.made
      unfold Visit.IsMade at hmade
      rw [hnested, hchild.parent_eq] at hmade
      obtain ⟨bullet', visits', hbullet', -, hvisits'⟩ := hlist.exists_visits_of_list hmade
      obtain ⟨visit', others', rfl, hnode', -⟩ := List.map_eq_cons_iff.mp hvisits'.nodes
      have hchild' := hvisits'.isChild (n := 0) rfl
      have hstyle' : nested.state.style = style := by
        rw [hchild.within.style]
        exact h.within.style.trans hstyle
      have hconstructs : nested.state.constructs = .listItem :: .list :: state.constructs := by
        rw [hchild.within.constructs]
        exact congrArg _ h.within.constructs
      have hindexes : nested.state.indexes = 0 :: n :: state.indexes := by
        rw [hchild.within.indexes]
        exact congrArg _ h.within.indexes
      have hlast : nested.state.bulletLastUsed = marker := hchild.last_eq
      rw [Visit.found, hlast] at hchild'
      obtain ⟨bullets, hrow, hlength, hbullets⟩ :=
        ih hunordered' (listBullet_mem hbullet') hstyle' hchild' hnode'
      refine ⟨bullet' :: bullets, ?_, by rw [List.length_cons, List.length_cons, hlength],
        fun hplace => ?_⟩
      · rw [htext, unspaced_itemLayout_text hunordered hbullet, hvisits.separated.first_eq,
          hvisits'.separated.first_eq, hrow]
      · rw [hbullets (.inl ⟨rfl, by rw [hindexes]; rfl, by rw [hconstructs]; rfl⟩), List.map_cons,
          ← hlast]
        congr 1
        apply listBullet_eq_nestedBullet husual hother hrule hunordered' hstyle' hconstructs
          hindexes hbullet'
        refine hplace.imp_right fun hmore => ?_
        -- More lists are nested in the first item then, so it is not empty.
        obtain ⟨rfl, -⟩ | ⟨_, _, -, hchildren, -⟩ := hbare.eq_nil_or_concat
        · exact absurd rfl hmore
        · simpa [beginsEmpty] using hchildren

end row

/-! ## Documents -/

/-- A row with a bullet of a list, and the bullets of further lists that are nested in one of its
items, where a marker is found. -/
structure IsBulletRow (style : Style) (usual other rule bullet : Char) (marker : Option Char)
    (inner : List (List Node)) (row : List Char) : Prop where
  length_eq : (unspaced row).length = inner.length + 1
  unspaced_eq : 2 ≤ inner.length → unspaced row =
    bullet :: inner.map (nestedBullet usual other rule (style.bulletOther.isSome &&
      marker == some usual))
  readsAsRule_iff : readsAsRule row = true ↔ 2 ≤ inner.length ∧ other ≠ '+' ∧ bullet = other ∧
    ((style.bulletOther.isSome = true ∧ marker = some usual) ∨
      (rule = usual ∧ ∀ items ∈ inner.dropLast, items.any beginsWithRule = true))

/-- A row of bullets is one for each list that it opens. -/
theorem isBulletRow_of_unspaced {style : Style} {usual other rule bullet : Char}
    {marker : Option Char} {item : Node} {inner : List (List Node)} {row bullets : List Char}
    (husual : style.bulletMarker = .ok usual) (hother : style.otherBulletMarker = .ok other)
    (hrule : style.ruleMarker = .ok rule) (hbare : item.IsBare inner)
    (hrow : unspaced row = bullet :: bullets) (hlength : bullets.length = inner.length)
    (hbullets : 2 ≤ inner.length →
      bullets = inner.map (nestedBullet usual other rule (style.bulletOther.isSome &&
        marker == some usual))) :
    IsBulletRow style usual other rule bullet marker inner row := by
  obtain ⟨hmem, hne, -⟩ := Style.otherBulletMarker_eq_ok husual hother
  refine ⟨by rw [hrow, List.length_cons, hlength], fun htwo => by rw [hrow, hbullets htwo], ?_⟩
  by_cases htwo : 2 ≤ inner.length
  · have hmerges : (style.bulletOther.isSome && marker == some usual) = true ↔
        style.bulletOther.isSome = true ∧ marker = some usual := by simp
    rw [readsAsRule_nestedBullets_iff (Style.mem_of_accepted husual) hmem hne
      (Style.mem_of_accepted hrule) hbare htwo
      (hrow.trans (congrArg _ (hbullets htwo))), hmerges]
    exact (and_iff_right htwo).symm
  · refine iff_of_false (fun hreads => ?_) fun h => htwo h.1
    have hthree := (MarkdownWriter.readsAsRule_iff.mp hreads).1
    rw [hrow, List.length_cons, hlength] at hthree
    omega

/-- The first row of a bare item that is visited in a list. -/
theorem Reaches.exists_bulletRow {document outer : Visit} {path : List Nat} {list : ListStyle}
    {items : List Node} {usual other rule bullet : Char} (hnests : writer.LaysOutNests)
    (hmade : document.IsMade writer) (hsettled : document.state.Settled)
    (husual : document.state.style.bulletMarker = .ok usual)
    (hother : document.state.style.otherBulletMarker = .ok other)
    (hrule : document.state.style.ruleMarker = .ok rule)
    (houter : writer.Reaches document path outer) (hnode : outer.node = .branch (.list list) items)
    (hunordered : list.ordered = false)
    (hbullet : listBullet list items outer.parent.isSome outer.state = .ok bullet)
    (hlast : outer.after.bulletLastUsed = some bullet) {n : Nat} {item : Node}
    {inner : List (List Node)} (hitem : items[n]? = some item) (hbare : item.IsBare inner) :
    ∃ visit, writer.Reaches document (n :: path) visit ∧ visit.node = item ∧
      IsBulletRow document.state.style usual other rule bullet visit.state.bulletLastUsed inner
        (Lines.ofText visit.text).first := by
  have hinside := houter.inside hmade hsettled
  obtain ⟨visits, written, hopens⟩ := exists_opens hnests hinside.made hinside.settled
  have hinner : outer.inner = openList bullet outer.state := by
    unfold Visit.inner
    rw [hnode, hlast]
    rfl
  have hblocks : outer.node.blocks = items := by
    rw [hnode]
    rfl
  rw [← hblocks, ← hopens.visits.nodes, List.getElem?_map] at hitem
  obtain ⟨visit, hvisit, rfl⟩ := Option.map_eq_some_iff.mp hitem
  have hchild := hopens.visits.isChild hvisit
  rw [Nat.zero_add, hnode, hinner] at hchild
  obtain ⟨bullets, hrow, hlength, hbullets⟩ :=
    exists_bullets_of_isBare hnests.list hnests.listItem husual hother hrule
    hbare hunordered (listBullet_mem hbullet) hinside.style hchild rfl
  rw [← hchild.last_eq] at hbullets
  refine ⟨visit, .within houter hopens hvisit, rfl, ?_⟩
  exact isBulletRow_of_unspaced husual hother hrule hbare hrow hlength fun htwo =>
    hbullets (.inr (by omega))

/-- **Rows of bullets.** In a document the first row of every bare item ends a row that is written,
and it is made of the bullet of the item's list and the bullets of the lists in the item. It is read
as a thematic break exactly if there are three or more bullets in it, the list has the other bullet
and that is no `+`, and either the usual bullet is found at the item while the other one is chosen,
or all nested lists but the innermost have an item that begins with a thematic break of the usual
bullet. -/
theorem LaysOutNests.exists_bulletRows {options : Options} {externals : Externals}
    {state : State} {tree : Node} {text : String}
    (hwriter : options.writer externals = .ok (writer, state))
    (hnests : writer.LaysOutNests) (h : toMarkdown options tree externals = .ok text) :
    ∃ document : Visit, document.node = tree ∧ document.state = state ∧
      (∀ path node, tree.block? path = some node →
        ∃ visit, writer.Reaches document path visit ∧ visit.node = node) ∧
      ∀ path outer list items, writer.Reaches document path outer →
        outer.node = .branch (.list list) items → list.ordered = false →
        ∃ usual other rule bullet, state.style.bulletMarker = .ok usual ∧
          state.style.otherBulletMarker = .ok other ∧ state.style.ruleMarker = .ok rule ∧
          listBullet list items outer.parent.isSome outer.state = .ok bullet ∧
          ∀ (n : Nat) (item : Node) (inner : List (List Node)), items[n]? = some item →
            item.IsBare inner →
            ∃ visit margin row, writer.Reaches document (n :: path) visit ∧ visit.node = item ∧
              writer.Remembers document (blockBefore (n :: path)) visit.state.bulletLastUsed ∧
              (rows visit.text).head? = some row ∧ margin ++ row ∈ rows text.toList ∧
              IsBulletRow state.style usual other rule bullet visit.state.bulletLastUsed
                inner row := by
  obtain ⟨document, rfl, rfl, hmade, hsettled, hnone, rfl⟩ :=
    Options.exists_visit_of_toMarkdown hwriter h
  have hprovides := Style.provides_of_validate hsettled.style
  obtain ⟨usual, husual⟩ := hprovides.bullet
  obtain ⟨other, hother⟩ := hprovides.otherBullet
  obtain ⟨rule, hrule⟩ := hprovides.rule
  refine ⟨document, rfl, rfl,
    fun path node hnode => Reaches.exists_of_block? hmade hsettled hnests hnode, ?_⟩
  intro path outer list items houter hnode hunordered
  have hrun := (houter.inside hmade hsettled).made
  unfold Visit.IsMade at hrun
  rw [hnode] at hrun
  obtain ⟨bullet, -, hbullet, hlast, -⟩ := hnests.list.exists_visits_of_list hrun
  refine ⟨usual, other, rule, bullet, husual, hother, hrule, hbullet, ?_⟩
  intro n item inner hitem hbare
  obtain ⟨visit, hvisit, hitem, hrow⟩ :=
    houter.exists_bulletRow hnests hmade hsettled husual hother hrule hnode
    hunordered hbullet hlast hitem hbare
  have hfirst := head?_rows visit.text
  have hne : (Lines.ofText visit.text).first ≠ [] := by
    intro hempty
    have hlength := hrow.length_eq
    rw [hempty] at hlength
    contradiction
  have hset := (hvisit.inside hmade hsettled).isSetIn.trans (isSetIn_terminated _)
  obtain ⟨margin, hmargin⟩ := hset _ (List.mem_of_mem_head? hfirst) hne
  refine ⟨visit, margin, _, hvisit, hitem, hvisit.remembers hnone, hfirst, ?_, hrow⟩
  rw [String.toList_ofList]
  exact hmargin

end Writer

/-! ## Nested lists behind rules -/

/-- Three nested lists, of which the outer two have an item that holds a thematic break. -/
def nestedRules : Node :=
  .branch (.list {}) [.branch (.listItem false) [.branch (.list {}) [
    .branch (.listItem false) [.branch (.list {}) [.branch (.listItem false) []]],
    .branch (.listItem false) [.leaf .thematicBreak]]],
  .branch (.listItem false) [.leaf .thematicBreak]]

/-- The item opens two lists, one in the other. -/
theorem isBare_nestedRules : Node.IsBare
    (.branch (.listItem false) [.branch (.list {}) [
      .branch (.listItem false) [.branch (.list {}) [.branch (.listItem false) []]],
      .branch (.listItem false) [.leaf .thematicBreak]]])
    [[.branch (.listItem false) [.branch (.list {}) [.branch (.listItem false) []]],
      .branch (.listItem false) [.leaf .thematicBreak]], [.branch (.listItem false) []]] :=
  .nested rfl (.nested rfl .empty)

/-- The three bullets in the first row are read as a thematic break. -/
theorem exists_bulletRow_nestedRules :
    Options.writer (.node {} []) = .ok (Writer.standard, {}) ∧ Writer.standard.LaysOutNests ∧
      ∃ text, toMarkdown (.node {} []) nestedRules = .ok text ∧
        ∃ margin row, margin ++ row ∈ rows text.toList ∧ unspaced row = ['-', '-', '-'] ∧
          readsAsRule row = true := by
  have hnests : Writer.standard.LaysOutNests := fun kind _ => by cases kind <;> rfl
  have htext : toMarkdown (.node {} []) nestedRules = .ok "-   -   -\n    -   ***\n-   ***\n" := by
    decide +kernel
  obtain ⟨document, hdocument, hstate, -, hlists⟩ := hnests.exists_bulletRows writer_default htext
  obtain ⟨usual, other, rule, bullet, husual, hother, hrule, hbullet, hrows⟩ :=
    hlists [] document {} _ .here hdocument rfl
  obtain rfl : '*' = usual := Except.ok.inj husual
  obtain rfl : '-' = other := Except.ok.inj hother
  obtain rfl : '*' = rule := Except.ok.inj hrule
  rw [hstate] at hbullet
  obtain rfl : bullet = '-' :=
    (listBullet_eq_other_iff rfl rfl rfl hbullet).2.mpr (.inr (.inl ⟨rfl, rfl⟩))
  obtain ⟨visit, margin, row, hreached, hnode, hlast, hfirst, hmargin, hrow⟩ :=
    hrows 0 _ _ rfl isBare_nestedRules
  refine ⟨writer_default, hnests, _, htext, margin, row, hmargin, ?_, ?_⟩
  · exact hrow.unspaced_eq (Nat.le_refl 2)
  · exact hrow.readsAsRule_iff.mpr ⟨Nat.le_refl 2, by decide, rfl, .inr ⟨rfl, by decide⟩⟩

/-- A row of equal bullets in a document that is written with the library's own style. -/
theorem toMarkdown_nestedRules :
    toMarkdown (.node {} []) nestedRules = .ok "-   -   -\n    -   ***\n-   ***\n" ∧
      readsAsRule "-   -   -".toList = true := by
  decide +kernel

end MarkdownWriter
