import MarkdownWriter.Proofs.Document.PlacedDefinitions
import Mathlib.Data.List.Chain

/-!
# Texts that come in pieces

A parser reports a text in pieces, with soft line breaks between them. In the tree they are one:
nowhere in it do two texts follow each other, whatever the events are and however they are nested
(`Node.ofEvents_joined`).

* **Siblings stay joined** (`Builder.IsJoined.step`): a text is added to the one before it, and
  everything else that is added is not a text.
* **The root stays** (`Builder.keeps_step`, `Builder.finish_run_ends`): it gets more children and
  never loses one, and constructs that end more often than they begin change nothing. No other root
  is made.

What holds of a builder behind every step holds of the document
(`Placement.Invariant.exists_finish`), so both are proved for the steps alone.
-/

namespace MarkdownWriter

open Builder

/-! ## Trees -/

/-- A node is a part of a tree, or all of it. -/
inductive Node.Within (node : Node) : Node → Prop
  | here : Within node node
  | inside {content : Container} {children : List Node} {child : Node} (hchild : child ∈ children)
      (h : Within node child) : Within node (.branch content children)

/-- No two texts follow each other. -/
def Node.TextsApart (nodes : List Node) : Prop :=
  nodes.IsChain fun left right => ¬ (left.isText = true ∧ right.isText = true)

/-- A tree that can stand below the root: its texts are joined, and there is no root in it. -/
structure Node.IsInner (tree : Node) : Prop where
  apart : ∀ node : Node, node.Within tree → TextsApart node.children
  no_root : ∀ node : Node, node.Within tree → node.kind? ≠ some .root

/-- Siblings, the latest first, that can stand below the root. -/
structure AreJoined (nodes : List Node) : Prop where
  apart : Node.TextsApart nodes
  inner : ∀ node ∈ nodes, node.IsInner

/-- That two texts follow each other does not depend on which of them is the first. -/
theorem Node.TextsApart.reverse {nodes : List Node} (h : TextsApart nodes) :
    TextsApart nodes.reverse :=
  List.isChain_reverse.mpr (h.imp fun _ _ hpair hswapped => hpair hswapped.symm)

/-- A leaf has no children. -/
theorem Node.isInner_leaf (content : Leaf) : (Node.leaf content).IsInner where
  apart := by
    rintro node ⟨⟩
    exact .nil
  no_root := by
    rintro node ⟨⟩
    cases content <;> exact fun h => Kind.noConfusion (Option.some.inj h)

/-- A container around joined siblings, unless it is a root. -/
theorem Node.isInner_branch {content : Container} {children : List Node}
    (hcontent : content ≠ .root) (h : AreJoined children) :
    (Node.branch content children.reverse).IsInner where
  apart := by
    rintro node (_ | ⟨hchild, hwithin⟩)
    · exact h.apart.reverse
    · exact (h.inner _ (List.mem_reverse.mp hchild)).apart node hwithin
  no_root := by
    rintro node (_ | ⟨hchild, hwithin⟩)
    · cases content <;> first | exact absurd rfl hcontent | exact nofun
    · exact (h.inner _ (List.mem_reverse.mp hchild)).no_root node hwithin

namespace AreJoined

variable {nodes : List Node}

/-- Nothing is joined. -/
theorem nil : AreJoined [] :=
  ⟨.nil, fun _ h => absurd h List.not_mem_nil⟩

/-- A node that is no text can be added to whatever there is. -/
theorem cons (h : AreJoined nodes) {node : Node} (hnode : node.IsInner)
    (htext : node.isText = false) : AreJoined (node :: nodes) where
  apart := List.isChain_cons.mpr ⟨fun _ _ hboth => by simp [htext] at hboth, h.apart⟩
  inner := List.forall_mem_cons.mpr ⟨hnode, h.inner⟩

/-- A text behind a text becomes a part of it. -/
theorem addText (h : AreJoined nodes) (text : String) : AreJoined (addText text nodes) := by
  cases hlast : nodes.head?.any Node.isText with
  | false =>
      rw [addText_eq hlast]
      refine ⟨List.isChain_cons.mpr ⟨fun node hnode hboth => ?_, h.apart⟩,
        List.forall_mem_cons.mpr ⟨Node.isInner_leaf _, h.inner⟩⟩
      rw [Option.mem_def.mp hnode, Option.any_some, hboth.2] at hlast
      contradiction
  | true =>
      obtain ⟨node, hnode, htext⟩ := (Option.any_eq_true ..).mp hlast
      obtain ⟨others, rfl⟩ := List.head?_eq_some_iff.mp hnode
      obtain ⟨value, rfl⟩ : ∃ value, node = .leaf (.text value) := by
        unfold Node.isText at htext
        split at htext
        · exact ⟨_, rfl⟩
        · contradiction
      obtain ⟨hfirst, hothers⟩ := List.isChain_cons.mp h.apart
      exact ⟨List.isChain_cons.mpr ⟨hfirst, hothers⟩,
        List.forall_mem_cons.mpr ⟨Node.isInner_leaf _, (List.forall_mem_cons.mp h.inner).2⟩⟩

end AreJoined

/-! ## Steps that join texts -/

/-- A construct that is not a root becomes a node that can stand below one. -/
theorem Scope.isInner_node {scope : Scope} (hscope : scope ≠ .container .root)
    {children : List Node} (h : AreJoined children) : (scope.node children.reverse).IsInner := by
  cases scope with
  | container content =>
      exact Node.isInner_branch (fun hroot => hscope (congrArg Scope.container hroot)) h
  | paragraph _ | list _ | item _ => exact Node.isInner_branch nofun h
  | code _ _ _ | html _ | image _ | imageReference _ _ => exact Node.isInner_leaf _

/-- No tag begins a root. -/
theorem Scope.ofTag_ne_root (tag : Tag) : Scope.ofTag tag ≠ .container .root := by
  cases tag with
  | code info => cases info <;> simp [ofTag]
  | link target =>
      rw [ofTag, ofLink]
      split <;> simp
  | image target =>
      rw [ofTag, ofImage]
      split <;> simp
  | _ => simp [ofTag]

namespace Builder

/-- All texts so far are joined, and no root is open or made. -/
structure IsJoined (builder : Builder) : Prop where
  frames : ∀ frame ∈ builder.frames, frame.scope ≠ .container .root ∧ AreJoined frame.children
  top : AreJoined builder.top

namespace IsJoined

variable {builder : Builder}

/-- A node that is no text is added to the innermost construct. -/
theorem push (h : builder.IsJoined) {node : Node} (hnode : node.IsInner)
    (htext : node.isText = false) : (builder.push node).IsJoined := by
  obtain ⟨_ | ⟨frame, frames⟩, top⟩ := builder
  · exact ⟨h.frames, h.top.cons hnode htext⟩
  · obtain ⟨hframe, hframes⟩ := List.forall_mem_cons.mp h.frames
    exact ⟨List.forall_mem_cons.mpr ⟨⟨hframe.1, hframe.2.cons hnode htext⟩, hframes⟩, h.top⟩

/-- A text is added to the one before it, or to the value of the construct. -/
theorem pushText (h : builder.IsJoined) (text : String) : (builder.pushText text).IsJoined := by
  obtain ⟨_ | ⟨⟨scope, children⟩, frames⟩, top⟩ := builder
  · exact ⟨h.frames, h.top.addText text⟩
  · obtain ⟨⟨hscope, hchildren⟩, hframes⟩ := List.forall_mem_cons.mp h.frames
    refine ⟨List.forall_mem_cons.mpr ⟨?_, hframes⟩, h.top⟩
    cases scope with
    | code _ _ _ | html _ => exact ⟨nofun, hchildren⟩
    | _ => exact ⟨hscope, hchildren.addText text⟩

/-- A construct begins without children. -/
theorem openScope (h : builder.IsJoined) {scope : Scope} (hscope : scope ≠ .container .root) :
    (builder.openScope scope).IsJoined :=
  ⟨List.forall_mem_cons.mpr ⟨⟨hscope, .nil⟩, h.frames⟩, h.top⟩

/-- A construct that ends becomes a node of the one around it, and is no text. -/
theorem close (h : builder.IsJoined) : builder.close.IsJoined := by
  obtain ⟨_ | ⟨frame, frames⟩, top⟩ := builder
  · exact h
  · obtain ⟨⟨hscope, hchildren⟩, hframes⟩ := List.forall_mem_cons.mp h.frames
    have hothers : IsJoined ⟨frames, top⟩ := ⟨hframes, h.top⟩
    exact hothers.push (Scope.isInner_node hscope hchildren) (Scope.isDefinition_node _ _).2

/-- A paragraph that is opened on the way changes no siblings. -/
theorem ensureParagraph (h : builder.IsJoined) : builder.ensureParagraph.IsJoined := by
  unfold Builder.ensureParagraph
  split
  · exact h.openScope nofun
  · exact h

/-- An implicit paragraph ends as other constructs do. -/
theorem closeImplicit (h : builder.IsJoined) : builder.closeImplicit.IsJoined := by
  unfold Builder.closeImplicit
  split
  · exact h.close
  · exact h

/-- An item has the same children when it is spread. -/
theorem spreadItem (h : builder.IsJoined) : builder.spreadItem.IsJoined := by
  unfold Builder.spreadItem
  split
  · next hframes =>
      have hall := h.frames
      rw [hframes] at hall
      obtain ⟨⟨-, hchildren⟩, hothers⟩ := List.forall_mem_cons.mp hall
      exact ⟨List.forall_mem_cons.mpr ⟨⟨nofun, hchildren⟩, hothers⟩, h.top⟩
  · exact h

/-- No tag begins a root. -/
theorem start (h : builder.IsJoined) (tag : Tag) : (builder.start tag).IsJoined := by
  have hplace :
      (if tag.isBlock then builder.closeImplicit else builder.ensureParagraph).IsJoined := by
    split
    · exact h.closeImplicit
    · exact h.ensureParagraph
  unfold Builder.start
  refine openScope ?_ (Scope.ofTag_ne_root tag)
  split
  · exact hplace.spreadItem
  · exact hplace

/-- **Every event leaves the texts joined.** -/
theorem step (h : builder.IsJoined) (event : Event) : (builder.step event).IsJoined := by
  cases event with
  | start tag offset => exact h.start tag
  | finish paragraph =>
      cases paragraph with
      | true => exact h.close
      | false => exact h.closeImplicit.close
  | text value | softBreak => exact h.ensureParagraph.pushText _
  | html value => exact h.pushText value
  | code value | inlineHtml value | hardBreak =>
      exact h.ensureParagraph.push (Node.isInner_leaf _) rfl
  | rule offset => exact h.closeImplicit.push (Node.isInner_leaf _) rfl

end IsJoined

/-! ## Steps that keep the root -/

/-- Of what was at the top, the latest first, everything is there still; only a text that was the
last may have become longer. -/
def Keeps (top top' : List Node) : Prop :=
  (∃ added, top' = added ++ top) ∨
    ∃ value more base added, top = .leaf (.text value) :: base ∧
      top' = added ++ .leaf (.text (value ++ more)) :: base

/-- Nothing is lost where nothing happens. -/
theorem Keeps.refl (top : List Node) : Keeps top top :=
  .inl ⟨[], rfl⟩

/-- What is kept by two steps is kept by both, although a text may become longer twice. -/
theorem Keeps.trans {top top' top'' : List Node} (h : Keeps top top') (h' : Keeps top' top'') :
    Keeps top top'' := by
  rcases h with ⟨added, rfl⟩ | ⟨value, more, base, added, rfl, rfl⟩ <;>
    rcases h' with ⟨added', rfl⟩ | ⟨value', more', base', added', htop, rfl⟩
  · exact .inl ⟨added' ++ added, by simp⟩
  · cases added with
    | nil => exact .inr ⟨value', more', base', added', htop, rfl⟩
    | cons node added =>
        obtain ⟨-, rfl⟩ := List.cons.inj htop
        exact .inl ⟨added' ++ .leaf (.text (value' ++ more')) :: added, by simp⟩
  · exact .inr ⟨value, more, base, added' ++ added, rfl, by simp⟩
  · cases added with
    | nil =>
        obtain ⟨htext, rfl⟩ := List.cons.inj htop
        obtain rfl : value ++ more = value' := Leaf.text.inj (Node.leaf.inj htext)
        exact .inr ⟨value, more ++ more', base, added', rfl, by rw [String.append_assoc]⟩
    | cons node added =>
        obtain ⟨-, rfl⟩ := List.cons.inj htop
        exact .inr ⟨value, more, base, added' ++ .leaf (.text (value' ++ more')) :: added, rfl,
          by simp⟩

/-- A text that is added makes the last one longer, or becomes a node of its own. -/
theorem keeps_addText (text : String) (top : List Node) : Keeps top (addText text top) := by
  unfold addText
  split
  · next value base => exact .inr ⟨value, text, base, [], rfl, rfl⟩
  · exact .inl ⟨[.leaf (.text text)], rfl⟩

/-- An action that only adds nodes at the top keeps what is there. -/
theorem Grows.keeps {action : Builder → Builder} {builder : Builder}
    (h : Grows action builder.frames) : Keeps builder.top (action builder).top := by
  obtain ⟨frames', added, haction, -⟩ := h
  rw [show action builder = _ from haction builder.top]
  exact .inl ⟨added, rfl⟩

/-- A node that is added takes nothing away. -/
theorem keeps_push (node : Node) (builder : Builder) :
    Keeps builder.top (builder.push node).top := by
  obtain ⟨_ | ⟨frame, frames⟩, top⟩ := builder
  · exact .inl ⟨[node], rfl⟩
  · exact .refl top

/-- **No event takes away what is at the top.** -/
theorem keeps_step (event : Event) (builder : Builder) :
    Keeps builder.top (builder.step event).top := by
  obtain ⟨_ | ⟨frame, frames⟩, top⟩ := builder
  · rcases step_of_top event with ⟨frames, -, hstep⟩ | ⟨text, -, hstep⟩ | ⟨node, -, hstep⟩
    · rw [hstep]
      exact .refl top
    · rw [hstep]
      exact keeps_addText text top
    · rw [hstep]
      exact .inl ⟨[node], rfl⟩
  · exact @Grows.keeps (fun builder => builder.step event) _ (grows_step event frame frames)

/-! ## Constructs that end -/

/-- A construct may end before the document does: there it would end anyway. -/
theorem finish_close (builder : Builder) : builder.close.finish = builder.finish := by
  obtain ⟨_ | ⟨frame, frames⟩, top⟩ := builder
  · rfl
  · have hlength : (close ⟨frame :: frames, top⟩).frames.length = frames.length := by
      cases frames <;> rfl
    unfold finish
    rw [hlength]
    rfl

/-- An event that ends a construct changes nothing where the document ends anyway. -/
theorem finish_step_finish (paragraph : Bool) (builder : Builder) :
    (builder.step (.finish paragraph)).finish = builder.finish := by
  cases paragraph with
  | true => exact builder.finish_close
  | false =>
      have himplicit : builder.closeImplicit.finish = builder.finish := by
        unfold closeImplicit
        split
        · exact builder.finish_close
        · rfl
      exact (finish_close _).trans himplicit

/-- **Any number of ends** changes nothing about the document, be there as many constructs to end or
not. -/
theorem finish_run_ends (ends : List Bool) (builder : Builder) :
    (builder.run (ends.map .finish)).finish = builder.finish := by
  induction ends generalizing builder with
  | nil => rfl
  | cons paragraph ends ih =>
      rw [List.map_cons, run_cons, ih]
      exact finish_step_finish paragraph builder

end Builder

/-! ## Documents -/

namespace Placement

/-- What placing a definition, every event and every end keeps. -/
structure Invariant (keeps : Builder → Prop) : Prop where
  push : ∀ {builder : Builder} (reference : Reference), keeps builder →
    keeps (builder.push reference.node)
  step : ∀ {builder : Builder} (event : Event), keeps builder → keeps (builder.step event)
  close : ∀ {builder : Builder}, keeps builder → keeps builder.close

namespace Invariant

variable {keeps : Builder → Prop} {placement : Placement}

/-- Several definitions, one after the other. -/
theorem pushAll (h : Invariant keeps) (references : List Reference) {builder : Builder}
    (hbuilder : keeps builder) : keeps (builder.pushAll (references.map Reference.node)) := by
  induction references generalizing builder with
  | nil => exact hbuilder
  | cons reference references ih => exact ih (h.push reference hbuilder)

/-- Several events: what each of them keeps, all of them keep. -/
theorem run (h : Invariant keeps) (hbuilder : keeps placement.builder) (events : List Event) :
    keeps (placement.run events).builder := by
  induction events generalizing placement with
  | nil => exact hbuilder
  | cons event events ih =>
      refine ih ?_
      rw [step_builder]
      exact h.step event (h.pushAll _ hbuilder)

/-- Several ends. -/
theorem closeAll (h : Invariant keeps) (count : Nat) {builder : Builder}
    (hbuilder : keeps builder) : keeps (builder.closeAll count) := by
  induction count generalizing builder with
  | zero => exact hbuilder
  | succ count ih => exact ih (h.close hbuilder)

/-- A document is the root with what a builder has at the top at last. -/
theorem exists_finish (h : Invariant keeps) (hbuilder : keeps placement.builder) :
    ∃ builder, keeps builder ∧ placement.finish = .branch .root builder.top.reverse := by
  have hplaced :
      placement.finish = (placement.builder.pushAll
        (placement.pending.map Reference.node)).finish := by
    rw [finish, Builder.pushAll, List.foldl_map]
  exact ⟨_, h.closeAll _ (h.pushAll placement.pending hbuilder), hplaced⟩

end Invariant

/-- Texts are joined at all times, as definitions are no texts. -/
theorem invariant_isJoined : Invariant IsJoined where
  push := fun _ h => h.push (Node.isInner_leaf _) rfl
  step := fun event h => h.step event
  close := fun h => h.close

/-- What is at the top at some time is there ever after. -/
theorem invariant_keeps (base : List Node) : Invariant fun builder => Keeps base builder.top where
  push := fun _ h => h.trans (keeps_push _ _)
  step := fun event h => h.trans (keeps_step event _)
  close := fun {builder} h => h.trans (grows_close builder.frames).keeps

/-- The state behind some events of a document. -/
def behind (definitions : List Reference) (events : List Event) : Placement :=
  run ⟨inSourceOrder definitions, {}⟩ events

end Placement

/-- The children of the root, with every text in one piece. -/
structure IsRootOf (definitions : List Reference) (events : List Event) (children : List Node) :
    Prop where
  apart : ∀ node : Node, node.Within (.branch .root children) → Node.TextsApart node.children
  /-- Below the root is no other one. -/
  no_root : ∀ child ∈ children, ∀ node : Node, node.Within child → node.kind? ≠ some .root
  /-- What is at the top behind some of the events stays there. -/
  keeps : ∀ before after, events = before ++ after →
    Builder.Keeps (Placement.behind definitions before).builder.top children.reverse
  /-- Nor do ends, wherever they come and however many, take anything from the root. -/
  ends : ∀ before after, events = before ++ after → ∀ ends : List Bool,
    ((Placement.behind definitions before).builder.run (ends.map .finish)).finish =
      (Placement.behind definitions before).builder.finish

/-- **Texts are joined, and the root stays.** -/
theorem Node.ofEvents_joined (definitions : List Reference) (events : List Event) :
    ∃ children, Node.ofEvents definitions events = .branch .root children ∧
      IsRootOf definitions events children := by
  have hstart : Builder.IsJoined {} := ⟨fun _ h => absurd h List.not_mem_nil, .nil⟩
  have hrun : (Placement.behind definitions events).builder.IsJoined :=
    Placement.invariant_isJoined.run hstart events
  obtain ⟨builder, hjoined, hfinish⟩ := Placement.invariant_isJoined.exists_finish hrun
  refine ⟨builder.top.reverse, hfinish, ?_, ?_, ?_,
    fun before after _ ends => Builder.finish_run_ends ends _⟩
  · rintro node (_ | ⟨hchild, hwithin⟩)
    · exact hjoined.top.apart.reverse
    · exact (hjoined.top.inner _ (List.mem_reverse.mp hchild)).apart node hwithin
  · intro child hchild
    exact (hjoined.top.inner child (List.mem_reverse.mp hchild)).no_root
  · rintro before after rfl
    have hkeeps := Placement.invariant_keeps (Placement.behind definitions before).builder.top
    obtain ⟨builder', hkept, hfinish'⟩ := hkeeps.exists_finish (hkeeps.run (.refl _) after)
    rw [Placement.behind, Placement.run_append] at hfinish
    obtain ⟨-, htop⟩ := Node.branch.inj (hfinish'.symm.trans hfinish)
    rw [List.reverse_reverse, ← List.reverse_inj.mp htop]
    exact hkept

end MarkdownWriter
