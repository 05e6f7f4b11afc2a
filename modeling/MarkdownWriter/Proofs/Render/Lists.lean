import MarkdownWriter.Proofs.Render.Steps
import MarkdownWriter.Proofs.Style.Markers

/-!
# Lists

A list takes a marker that depends on the state it is opened in (`Layout.listBullet`), and its items
are written with that marker (`Layout.list_eq_ok`). The marker is the usual one or the other one
(`Layout.listBullet_eq_ok`), which are never the same (`Layout.otherMarker_eq_ok`).

* **When the other one is taken** (`Layout.listBullet_eq_other_iff`): where the list would be joined
  to a list before it, or where its usual marker is misread.
* **When a marker is misread** (`Layout.isMisread_iff`): before a thematic break of the same
  character, and in empty items that line up with the items around them (`Layout.IsNestedEmpty`).
  Numbers are never misread (`Layout.misreads`). Only the first child of a container is nested in
  this sense, so other lists are misread for an item that begins with a rule alone
  (`Layout.isMisread_eq_ok`).
* **What is left behind** (`Layout.openList`, `Layout.closeList`): while the items are written the
  marker of the list is the one around them, and behind the list it is remembered.
-/

namespace MarkdownWriter.Layout

open Text

/-! ## The marker of a list -/

/-- Whether the markers of an unordered list that is opened in a state could be taken for a thematic
break. -/
def isMisread (usual : Char) (items : List Node) (state : State) : Except StyleError Bool := do
  let nested := (usual == '*' || usual == '-') && items.head?.any (·.children.isEmpty) &&
    isNestedFirst { state with constructs := .list :: state.constructs }
  if items.any beginsWithRule then return (← state.style.ruleMarker) == usual || nested
  else return nested

/-- Whether the markers of a list that is opened in a state could be taken for a thematic break.
Numbers can't. -/
def misreads (list : ListStyle) (usual : Char) (items : List Node) (state : State) :
    Except StyleError Bool :=
  if list.ordered then pure false else isMisread usual items state

/-- The marker of lists of a kind. -/
def usualMarker (list : ListStyle) (style : Style) : Except StyleError Char :=
  (if list.ordered then Style.delimiter else Style.bulletMarker) style

/-- The marker of lists of a kind where the usual one is ambiguous. -/
def otherMarker (list : ListStyle) (style : Style) : Except StyleError Char :=
  (if list.ordered then Style.otherDelimiter else Style.otherBulletMarker) style

/-- The choice of the other marker. -/
def otherChoice (list : ListStyle) (style : Style) : Option Char :=
  if list.ordered then style.bulletOrderedOther else style.bulletOther

/-- The marker that a list takes when it is opened in a state. -/
def listBullet (style : ListStyle) (items : List Node) (hasParent : Bool) (state : State) :
    Except StyleError Char := do
  let usual ← usualMarker style state.style
  let other ← otherMarker style state.style
  let merges := hasParent && (otherChoice style state.style).isSome &&
    state.bulletLastUsed == some usual
  let misread ← (if style.ordered then
    pure false else isMisread usual items state : Except StyleError Bool)
  return if merges || misread then other else usual

/-- The state in which the items of a list are written. -/
def openList (bullet : Char) (state : State) : State :=
  { state with constructs := .list :: state.constructs, bulletCurrent := some bullet }

/-- The state behind a list that was opened in `state`, after its items have led to `after`. -/
def closeList (bullet : Char) (state after : State) : State :=
  { after with
    constructs := after.constructs.tail
    bulletLastUsed := some bullet
    bulletCurrent := state.bulletCurrent }

/-- The markers of lists of a kind. -/
def markers (list : ListStyle) : List Char :=
  if list.ordered then Style.delimiters else Style.bullets

section Markers

variable {list : ListStyle} {style : Style} {usual other : Char}

/-- The usual marker is one for lists of its kind. -/
theorem usualMarker_mem (h : usualMarker list style = .ok usual) : usual ∈ markers list := by
  unfold usualMarker at h
  unfold markers
  cases hordered : list.ordered
  · rw [hordered] at h
    exact Style.mem_of_accepted h
  · rw [hordered] at h
    exact Style.mem_of_accepted h

/-- The other marker is not the usual one, and it is the one chosen for it if there is one. -/
theorem otherMarker_eq_ok (husual : usualMarker list style = .ok usual)
    (h : otherMarker list style = .ok other) :
    other ∈ markers list ∧ other ≠ usual ∧ ∀ chosen, otherChoice list style = some chosen →
      chosen = other := by
  unfold usualMarker at husual
  unfold otherMarker at h
  unfold markers otherChoice
  cases hordered : list.ordered
  · rw [hordered] at husual h
    exact Style.otherBulletMarker_eq_ok husual h
  · rw [hordered] at husual h
    exact Style.otherDelimiter_eq_ok husual h

end Markers

/-- The marker of a list is the usual one, unless it would be joined to a list before it or misread.
-/
theorem listBullet_eq_ok {list : ListStyle} {items : List Node} {hasParent : Bool} {state : State}
    {bullet : Char} (h : listBullet list items hasParent state = .ok bullet) :
    ∃ usual other misread, usualMarker list state.style = .ok usual ∧
      otherMarker list state.style = .ok other ∧ misreads list usual items state = .ok misread ∧
      bullet = if (hasParent = true ∧ (otherChoice list state.style).isSome = true ∧
        state.bulletLastUsed = some usual) ∨ misread = true then other else usual := by
  unfold listBullet at h
  obtain ⟨usual, husual, h⟩ := Style.bind_eq_ok.mp h
  obtain ⟨other, hother, h⟩ := Style.bind_eq_ok.mp h
  obtain ⟨misread, hmisread, h⟩ := Style.bind_eq_ok.mp h
  refine ⟨usual, other, misread, husual, hother, hmisread, ?_⟩
  rw [← Except.ok.inj h]
  simp [and_assoc]

/-- So is the one that a list takes. -/
theorem listBullet_mem {list : ListStyle} {items : List Node} {hasParent : Bool} {state : State}
    {bullet : Char} (h : listBullet list items hasParent state = .ok bullet) :
    bullet ∈ markers list := by
  obtain ⟨usual, other, misread, husual, hother, -, hbullet⟩ := listBullet_eq_ok h
  rw [hbullet]
  split
  · exact (otherMarker_eq_ok husual hother).1
  · exact usualMarker_mem husual

/-- A list that is opened in a state where its first item has nothing in it and would line up with
the items around it to a thematic break. -/
structure IsNestedEmpty (usual : Char) (items : List Node) (state : State) : Prop where
  usual_eq : usual = '*' ∨ usual = '-'
  empty : items.head?.any (·.children.isEmpty) = true
  nested : isNestedFirst { state with constructs := .list :: state.constructs } = true

/-- The usual marker is misread before a thematic break of the same character and in nested empty
items. -/
theorem isMisread_iff {usual : Char} {items : List Node} {state : State} {misread : Bool}
    (h : isMisread usual items state = .ok misread) :
    misread = true ↔
      (items.any beginsWithRule = true ∧ state.style.ruleMarker = .ok usual) ∨
        IsNestedEmpty usual items state := by
  have hnested : ((usual == '*' || usual == '-') && items.head?.any (·.children.isEmpty) &&
      isNestedFirst { state with constructs := .list :: state.constructs }) = true ↔
        IsNestedEmpty usual items state := by
    simp only [Bool.and_eq_true, Bool.or_eq_true, beq_iff_eq]
    exact ⟨fun ⟨⟨husual, hempty⟩, hfirst⟩ => ⟨husual, hempty, hfirst⟩,
      fun ⟨husual, hempty, hfirst⟩ => ⟨⟨husual, hempty⟩, hfirst⟩⟩
  rw [← hnested]
  unfold isMisread at h
  dsimp only at h
  split at h
  · next hrule =>
      cases hmarker : state.style.ruleMarker with
      | error e =>
          rw [hmarker] at h
          contradiction
      | ok marker =>
          rw [hmarker] at h
          obtain rfl := Except.ok.inj h
          simp [hrule]
  · next hrule =>
      obtain rfl := Except.ok.inj h
      simp [hrule]

/-- Only the first child of a container is nested. -/
theorem not_isNestedEmpty_of_indexes {usual : Char} {items : List Node} {state : State} {n : Nat}
    {outer : List Nat} (hindexes : state.indexes = (n + 1) :: outer) :
    ¬ IsNestedEmpty usual items state := by
  intro h
  have hnested := h.nested
  unfold isNestedFirst at hnested
  rw [hindexes] at hnested
  split at hnested
  · next heq => simp at heq
  · contradiction

/-- A list that is not the first child of its container is only misread for an item that begins with
a thematic break of the same character. -/
theorem isMisread_eq_ok {usual : Char} {items : List Node} {state : State} {misread : Bool}
    {n : Nat} {outer : List Nat} (hindexes : state.indexes = (n + 1) :: outer)
    (h : isMisread usual items state = .ok misread) :
    misread = true ↔ items.any beginsWithRule = true ∧ state.style.ruleMarker = .ok usual := by
  rw [isMisread_iff h, or_iff_left (not_isNestedEmpty_of_indexes hindexes)]

/-- **The bullet of a list** is the usual one or the other one, and the other one exactly where the
list would be joined to the one before it, its bullet would continue into a thematic break, or it
would be one with those around it. -/
theorem listBullet_eq_other_iff {list : ListStyle} {items : List Node} {hasParent : Bool}
    {state : State} {usual other bullet : Char} (hunordered : list.ordered = false)
    (husual : state.style.bulletMarker = .ok usual)
    (hother : state.style.otherBulletMarker = .ok other)
    (h : listBullet list items hasParent state = .ok bullet) :
    (bullet = usual ∨ bullet = other) ∧
      (bullet = other ↔
        (hasParent = true ∧ state.style.bulletOther.isSome = true ∧
          state.bulletLastUsed = some usual) ∨
          (items.any beginsWithRule = true ∧ state.style.ruleMarker = .ok usual) ∨
          IsNestedEmpty usual items state) := by
  obtain ⟨usual', other', misread, husual', hother', hmisread, hbullet⟩ := listBullet_eq_ok h
  unfold usualMarker at husual'
  unfold otherMarker at hother'
  unfold misreads at hmisread
  unfold otherChoice at hbullet
  rw [hunordered, if_neg Bool.false_ne_true] at husual' hother' hmisread hbullet
  obtain rfl := Except.ok.inj (husual.symm.trans husual')
  obtain rfl := Except.ok.inj (hother.symm.trans hother')
  have hne : usual ≠ other := (Style.otherBulletMarker_eq_ok husual hother).2.1.symm
  rw [← isMisread_iff hmisread]
  split at hbullet
  · next hreason => exact ⟨.inr hbullet, iff_of_true hbullet hreason⟩
  · next hreason => exact ⟨.inl hbullet, iff_of_false (hbullet ▸ hne) hreason⟩

/-- Whether the markers are misread depends on the state alone. -/
theorem looksLikeRule_eq_ok {usual : Char} {items : List Node} {state after : State}
    {misread : Bool}
    (h : looksLikeRule usual items { state with constructs := .list :: state.constructs } =
      (.ok misread, after)) :
    isMisread usual items state = .ok misread ∧
      { state with constructs := .list :: state.constructs } = after := by
  unfold looksLikeRule at h
  rw [Render.bind_run_ok (Render.get_run _)] at h
  unfold isMisread
  split at h
  · next hrule =>
      obtain ⟨marker, middle, hmarker, hreturn⟩ := Render.bind_eq_ok.mp h
      obtain ⟨hstyle, rfl⟩ := Render.ofStyle_eq_ok.mp hmarker
      obtain ⟨rfl, rfl⟩ := Render.pure_eq_ok.mp hreturn
      have hmarker : state.style.ruleMarker = .ok marker := hstyle
      refine ⟨?_, rfl⟩
      rw [if_pos hrule, hmarker]
      rfl
  · next hrule =>
      obtain ⟨rfl, rfl⟩ := Render.pure_eq_ok.mp h
      refine ⟨?_, rfl⟩
      rw [if_neg hrule]
      rfl

/-- The marker of a list is worked out from the choices and from how the list would be read. -/
theorem listBullet_of_eq_ok {list : ListStyle} {items : List Node} {hasParent : Bool}
    {state : State} {usual other : Char} {misread : Bool}
    (husual : usualMarker list state.style = .ok usual)
    (hother : otherMarker list state.style = .ok other)
    (hmisread : misreads list usual items state = .ok misread) :
    listBullet list items hasParent state =
      .ok (if (hasParent && (otherChoice list state.style).isSome &&
        state.bulletLastUsed == some usual) || misread then
        other else usual) := by
  unfold misreads at hmisread
  unfold listBullet
  rw [husual, hother]
  dsimp only [bind, Except.bind]
  rw [hmisread]
  rfl

theorem misreads_eq_ok {list : ListStyle} {usual : Char} {items : List Node} {state after : State}
    {misread : Bool}
    (h : (if list.ordered then pure false else looksLikeRule usual items)
      { state with constructs := .list :: state.constructs } = (.ok misread, after)) :
    misreads list usual items state = .ok misread ∧
      { state with constructs := .list :: state.constructs } = after := by
  unfold misreads
  by_cases hordered : list.ordered = true
  · rw [if_pos hordered] at h ⊢
    obtain ⟨rfl, rfl⟩ := Render.pure_eq_ok.mp h
    exact ⟨rfl, rfl⟩
  · rw [if_neg hordered] at h ⊢
    exact looksLikeRule_eq_ok h

/-- **What a list does.** Its items are written with the marker it takes. -/
theorem list_eq_ok {style : ListStyle} {items : List Node} {hasParent : Bool} {site : Site}
    {blocks : Blocks} {state after : State} {value : List Char}
    (h : list style items hasParent site blocks state = (.ok value, after)) :
    ∃ bullet middle, listBullet style items hasParent state = .ok bullet ∧
      blocks site.position (openList bullet state) = (.ok value, middle) ∧
      closeList bullet state middle = after := by
  unfold list at h
  obtain ⟨usual, state₁, h1, h2⟩ := Render.bind_eq_ok.mp h
  obtain ⟨husual, rfl⟩ := Render.ofStyle_eq_ok.mp h1
  obtain ⟨other, state₂, h3, h4⟩ := Render.bind_eq_ok.mp h2
  obtain ⟨hother, rfl⟩ := Render.ofStyle_eq_ok.mp h3
  rw [Render.bind_run_ok (Render.get_run _)] at h4
  obtain ⟨closed, h5, hclosed⟩ := Render.entering_eq_ok.mp h4
  rw [Render.bind_run_ok (Render.get_run _)] at h5
  obtain ⟨misread, middle, h6, h7⟩ := Render.ite_bind_eq_ok.mp h5
  obtain ⟨hmisread, rfl⟩ := misreads_eq_ok h6
  dsimp only at h7
  rw [Render.bind_run_ok (Render.modify_run _ _)] at h7
  obtain ⟨_, written, hblocks, hreturn⟩ := Render.bind_eq_ok.mp h7
  rw [Render.bind_run_ok (Render.modify_run _ _)] at hreturn
  obtain ⟨rfl, rfl⟩ := Render.pure_eq_ok.mp hreturn
  exact ⟨_, written, listBullet_of_eq_ok husual hother hmisread, hblocks, hclosed⟩

end MarkdownWriter.Layout
