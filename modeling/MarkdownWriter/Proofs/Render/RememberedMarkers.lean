import MarkdownWriter.Proofs.Render.AdjacentLists
import MarkdownWriter.Proofs.Render.Visits

/-!
# Remembered markers

While blocks are written the marker of a list is remembered, so that a list behind it can take
another one. It is forgotten behind a block that is no list, but not where a container is entered:
the first block in a container finds what the container itself has found.

* **What is remembered** (`Writer.Reaches.remembers`): the block whose marker may be found is not
  the sibling before a list, but the sibling before the innermost container around the list that has
  one (`blockBefore`).
* **Which marker a list takes** (`Writer.LaysOutNests.exists_marked_lists`): the usual one, unless
  that is misread or the other one is chosen and the usual one is remembered.
-/

namespace MarkdownWriter

open Layout

/-! ## What is remembered -/

/-- The path of the block that comes before the one at a path: its sibling before it or, for a first
child, the block that comes before its container. -/
def blockBefore : List Nat → Option (List Nat)
  | [] => none
  | 0 :: path => blockBefore path
  | (n + 1) :: path => some (n :: path)

namespace Writer

/-- What is found of the block at a path, if there is one: the marker that is remembered behind it.
-/
def Remembers (writer : Writer) (document : Visit) (before : Option (List Nat))
    (marker : Option Char) : Prop :=
  match before with
  | none => marker = none
  | some path => ∃ left, writer.Reaches document path left ∧ marker = left.remembered

variable {writer : Writer} {document visit : Visit} {path : List Nat}

/-- **The marker that is found where a block is written** is that of the block before it. -/
theorem Reaches.remembers (hnone : document.state.bulletLastUsed = none)
    (h : writer.Reaches document path visit) :
    writer.Remembers document (blockBefore path) visit.state.bulletLastUsed := by
  induction h with
  | here => exact hnone
  | @within path outer visit visits written n houter hopens hvisit ih =>
      have hchild := hopens.visits.isChild hvisit
      cases n with
      | zero =>
          -- Nothing has been forgotten on the way into the container.
          rw [hchild.last_eq]
          exact ih
      | succ n =>
          have hn := (List.getElem?_eq_some_iff.mp hvisit).1
          obtain ⟨left, hleft⟩ : ∃ left, visits[n]? = some left :=
            ⟨_, List.getElem?_eq_getElem (by omega)⟩
          refine ⟨left, .within houter hopens hleft, ?_⟩
          rw [hchild.last_eq, Visit.found, hleft, Option.bind_some]

/-- Where a marker is found, the block is in a container. -/
theorem Reaches.isSome_parent (hnone : document.state.bulletLastUsed = none)
    (h : writer.Reaches document path visit) {marker : Char}
    (hmarker : visit.state.bulletLastUsed = some marker) : visit.parent.isSome = true := by
  cases h with
  | here =>
      rw [hnone] at hmarker
      contradiction
  | within houter hopens hvisit =>
      rw [(hopens.visits.isChild hvisit).parent_eq]
      rfl

/-! ## Which marker a list takes -/

/-- How a visited list is written: with the other marker if the usual one is misread, or if the
other one is chosen and the usual one is found. -/
structure TakesMarker (style : Style) (visit : Visit) (list : ListStyle) (items : List Node)
    (usual other bullet : Char) (misread : Bool) : Prop where
  usual_eq : usualMarker list style = .ok usual
  other_eq : otherMarker list style = .ok other
  other_ne : other ≠ usual
  misread_eq : misreads list usual items visit.state = .ok misread
  bullet_eq : bullet =
    if misread = true ∨
        ((otherChoice list style).isSome = true ∧ visit.state.bulletLastUsed = some usual) then
      other
    else usual
  remembered : visit.remembered = some bullet
  isMarkedWith : IsMarkedWith style list items bullet visit.text

/-- Every list that is reached takes its marker by what is remembered in front of it. -/
theorem Reaches.takesMarker (hwriter : writer.LaysOutNests) (hmade : document.IsMade writer)
    (hstate : document.state.Settled) (hnone : document.state.bulletLastUsed = none)
    (h : writer.Reaches document path visit) {list : ListStyle} {items : List Node}
    (hnode : visit.node = .branch (.list list) items) :
    ∃ usual other bullet misread,
      TakesMarker document.state.style visit list items usual other bullet misread := by
  have hinside := h.inside hmade hstate
  have hrun := hinside.made
  unfold Visit.IsMade at hrun
  rw [hnode] at hrun
  obtain ⟨bullet, hbullet, hlast, hmarked⟩ :=
    hwriter.list.isMarkedWith_of_list hwriter.listItem hrun
  obtain ⟨usual, other, misread, husual, hother, hmisread, htaken⟩ := listBullet_eq_ok hbullet
  rw [hinside.style] at husual hother htaken hmarked
  refine ⟨usual, other, bullet, misread, husual, hother, (otherMarker_eq_ok husual hother).2.1,
    hmisread, ?_, ?_, hmarked⟩
  · rw [htaken]
    apply if_congr _ rfl rfl
    constructor
    · rintro (⟨-, hmerges⟩ | hmisread)
      · exact .inr hmerges
      · exact .inl hmisread
    · rintro (hmisread | hmerges)
      · exact .inr hmisread
      · exact .inl ⟨h.isSome_parent hnone hmerges.2, hmerges⟩
  · unfold Visit.remembered
    rw [hnode, Node.isList, if_pos rfl, hlast]

/-- **Remembered markers.** While a document is written every block in a nest is visited, and what
it gives is set in the document. It finds the marker of the block before it, if that is a list, or
none; a first child finds what its container has found. A list is marked with the usual marker,
unless that would be misread or is the one it finds. -/
theorem LaysOutNests.exists_marked_lists {options : Options} {externals : Externals}
    {state : State} {tree : Node} {text : String}
    (hwriter : options.writer externals = .ok (writer, state))
    (hnests : writer.LaysOutNests) (h : toMarkdown options tree externals = .ok text) :
    ∃ document : Visit, document.node = tree ∧ document.state = state ∧
      (∀ path node, tree.block? path = some node →
        ∃ visit, writer.Reaches document path visit ∧ visit.node = node) ∧
      ∀ path visit, writer.Reaches document path visit →
        tree.block? path = some visit.node ∧ Text.IsSetIn visit.text text.toList ∧
          writer.Remembers document (blockBefore path) visit.state.bulletLastUsed ∧
          ∀ list items, visit.node = .branch (.list list) items →
            ∃ usual other bullet misread,
              TakesMarker state.style visit list items usual other bullet misread := by
  obtain ⟨document, rfl, rfl, hmade, hsettled, hnone, rfl⟩ :=
    Options.exists_visit_of_toMarkdown hwriter h
  refine ⟨document, rfl, rfl,
    fun path node hnode => Reaches.exists_of_block? hmade hsettled hnests hnode, ?_⟩
  intro path visit hvisit
  have hinside := hvisit.inside hmade hsettled
  refine ⟨hinside.node, ?_, hvisit.remembers hnone, fun list items hnode => ?_⟩
  · rw [String.toList_ofList]
    exact hinside.isSetIn.trans (isSetIn_terminated _)
  · exact hvisit.takesMarker hnests hmade hsettled hnone hnode

end Writer

/-! ## A list in a list behind a list -/

/-- The items of a list that holds one paragraph. -/
def textItems (text : String) : List Node :=
  [.branch (.listItem false) [.branch .paragraph [.leaf (.text text)]]]

/-- A list behind another one, with a list at the beginning of its only item. -/
def adoptingLists : Node :=
  .branch .root [.branch (.list {}) (textItems "a"),
    .branch (.list {}) [.branch (.listItem false) [.branch (.list {}) (textItems "b")]]]

/-- The list in the item finds the marker of the list before both, and takes the other one. -/
theorem exists_marked_adoptingLists :
    Options.writer (.node { style := { bulletOther := some '+' } } []) =
        .ok (Writer.standard, { style := { bulletOther := some '+' } }) ∧
      Writer.standard.LaysOutNests ∧
      ∃ text,
        toMarkdown (.node { style := { bulletOther := some '+' } } []) adoptingLists =
          .ok text ∧
        ∃ (document visit : Visit), document.node = adoptingLists ∧
          Writer.standard.Reaches document [0, 0, 1] visit ∧
          visit.node = .branch (.list {}) (textItems "b") ∧
          visit.state.bulletLastUsed = some '*' ∧
          IsMarkedWith { bulletOther := some '+' } {} (textItems "b") '+' visit.text := by
  have hwriter : Options.writer (.node { style := { bulletOther := some '+' } } []) =
      .ok (Writer.standard, { style := { bulletOther := some '+' } }) := by
    unfold Options.writer
    rfl
  have hnests : Writer.standard.LaysOutNests := fun kind _ => by cases kind <;> rfl
  have htext : toMarkdown (.node { style := { bulletOther := some '+' } } []) adoptingLists =
      .ok "*   a\n\n+   +   b\n" := by decide +kernel
  obtain ⟨document, hdocument, -, hvisits, hreached⟩ := hnests.exists_marked_lists hwriter htext
  obtain ⟨visit, hvisit, hnode⟩ := hvisits [0, 0, 1] (.branch (.list {}) (textItems "b")) rfl
  obtain ⟨-, -, ⟨left, hleft, hlast⟩, hmarked⟩ := hreached _ _ hvisit
  obtain ⟨hleftNode, -, hnone, hleftMarked⟩ := hreached _ _ hleft
  have hleftNode : .branch (.list {}) (textItems "a") = left.node := Option.some.inj hleftNode
  have hbullet : left.remembered = some '*' := by
    obtain ⟨usual, other, bullet, misread, htaken⟩ := hleftMarked _ _ hleftNode.symm
    obtain rfl : '*' = usual := Except.ok.inj htaken.usual_eq
    have hmisread : misread = false := (Except.ok.inj htaken.misread_eq).symm
    have hbullet := htaken.bullet_eq
    rw [hmisread, show left.state.bulletLastUsed = none from hnone] at hbullet
    rw [htaken.remembered, hbullet]
    rfl
  obtain ⟨usual, other, bullet, misread, htaken⟩ := hmarked _ _ hnode
  obtain rfl : '*' = usual := Except.ok.inj htaken.usual_eq
  obtain rfl : '+' = other := Except.ok.inj htaken.other_eq
  have hfound : visit.state.bulletLastUsed = some '*' := hlast.trans hbullet
  have htakes := htaken.isMarkedWith
  rw [htaken.bullet_eq, if_pos (.inr ⟨rfl, hfound⟩)] at htakes
  exact ⟨hwriter, hnests, _, htext, document, visit, hdocument, hvisit, hnode, hfound, htakes⟩

/-- A first child of an item, whose marker can't be misread, is not marked with the usual marker. -/
theorem toMarkdown_adoptingLists :
    adoptingLists.block? [0, 0, 1] = some (.branch (.list {}) (textItems "b")) ∧
      (textItems "b").any beginsWithRule = false ∧
      (textItems "b").head?.any (·.children.isEmpty) = false ∧
      toMarkdown (.node { style := { bulletOther := some '+' } } []) adoptingLists =
        .ok "*   a\n\n+   +   b\n" := by
  refine ⟨rfl, rfl, rfl, ?_⟩
  decide +kernel

end MarkdownWriter
