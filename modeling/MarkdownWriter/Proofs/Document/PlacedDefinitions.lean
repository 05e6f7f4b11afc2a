import MarkdownWriter.Proofs.Document.Nesting
import Mathlib.Data.List.Forall2

/-!
# Where definitions are placed

Link reference definitions are reported apart from the events, in any order. Each becomes a child of
the root once (`Reference.MakesNode`), in the order of the source, and stands before the blocks that
begin behind it; a definition that is written in a block follows that block (`Node.exists_placed`).

The proof compares the document with the one that the same events make without any definitions
(`Placement.Tracks`). Both have the same constructs open, and at the top they are the same but for
the definitions. Events look at the top only where a text is added to it. As definitions are placed
right in front of a block, the last node there is a definition only while that block is open.
-/

namespace MarkdownWriter

open Builder

/-! ## Definition nodes -/

/-- A node is the definition that is reported: it has the label, url and title of that, and its
identifier is the label in the form labels are compared in. These are the parts between blanks, with
single spaces between them, in lower case. -/
inductive Reference.MakesNode (reference : Reference) : Node → Prop where
  | intro {identifier : String} (h : identifier.toList = Unicode.lower
      ([' '].intercalate ((reference.label.toList.splitOnP Text.isBlank).filter (· ≠ [])))) :
      MakesNode reference
        (.leaf (.definition ⟨identifier, some reference.label⟩ ⟨reference.url, reference.title⟩))

/-- Words are the parts between blanks that have characters; the first part goes on from the word
that is begun. -/
theorem Text.wordsFrom_eq (word text : List Char) :
    wordsFrom word text = ((text.splitOnP isBlank).modifyHead (word.reverse ++ ·)).filter
      (· ≠ []) := by
  induction text generalizing word with
  | nil => cases word <;> simp [wordsFrom]
  | cons c text ih =>
      have hnil : (text.splitOnP isBlank).modifyHead (([] : List Char).reverse ++ ·) =
          text.splitOnP isBlank :=
        congrFun List.modifyHead_id _
      rw [wordsFrom, List.splitOnP_cons_eq_if_modifyHead]
      split
      · rw [ih, hnil]
        cases word <;> simp
      · rw [ih, List.modifyHead_modifyHead]
        congr 2
        funext part
        simp

/-- Words are the parts between blanks that have characters. -/
theorem Text.words_eq (text : List Char) :
    words text = (text.splitOnP isBlank).filter (· ≠ []) := by
  rw [words, wordsFrom_eq]
  exact congrArg _ (congrFun List.modifyHead_id _)

/-- The node that is built of a definition is one that it makes. -/
theorem Reference.makesNode_node (reference : Reference) : reference.MakesNode reference.node := by
  refine .intro ?_
  rw [normalizeLabel, String.toList_ofList, Text.words_eq]
  rfl

/-- Definitions make their nodes one by one. -/
theorem forall₂_makesNode (references : List Reference) :
    List.Forall₂ Reference.MakesNode references (references.map Reference.node) :=
  List.forall₂_map_right_iff.mpr (List.forall₂_same.mpr fun reference _ => reference.makesNode_node)

/-! ## With and without definitions -/

/-- Whether a node is not a definition, as all nodes that events make. -/
def Node.isReported (node : Node) : Bool :=
  !node.isDefinition

section Filters

theorem Reference.isDefinition_node (reference : Reference) :
    reference.node.isDefinition = true := rfl

/-- Definitions are the nodes that events do not make. -/
theorem filter_references (references : List Reference) :
    (references.map Reference.node).filter Node.isReported = [] ∧
      (references.map Reference.node).filter Node.isDefinition = references.map Reference.node := by
  constructor
  · simp [Node.isReported, Reference.isDefinition_node]
  · exact List.filter_eq_self.mpr fun node hnode => by
      obtain ⟨reference, -, rfl⟩ := List.mem_map.mp hnode
      exact reference.isDefinition_node

/-- Blocks are the nodes that are not definitions. -/
theorem filter_reported {nodes : List Node}
    (h : ∀ node ∈ nodes, node.isDefinition = false ∧ node.isText = false) :
    nodes.filter Node.isReported = nodes ∧ nodes.filter Node.isDefinition = [] := by
  constructor
  · exact List.filter_eq_self.mpr fun node hnode => by rw [Node.isReported, (h node hnode).1]; rfl
  · exact List.filter_eq_nil_iff.mpr fun node hnode => by
      rw [(h node hnode).1]; exact Bool.false_ne_true

/-- A text is added to the last node at most, which is the last one without the definitions too. -/
theorem filter_addText {top : List Node} (h : top.head?.any Node.isDefinition = false)
    (text : String) :
    (addText text top).filter Node.isReported = addText text (top.filter Node.isReported) ∧
      (addText text top).filter Node.isDefinition = top.filter Node.isDefinition ∧
        (addText text top).head?.any Node.isDefinition = false := by
  cases top with
  | nil => exact ⟨rfl, rfl, rfl⟩
  | cons node top =>
      have hnode : node.isReported = true := by
        rw [Node.isReported, show node.isDefinition = false from h]
        rfl
      rw [List.filter_cons_of_pos hnode]
      cases htext : node.isText with
      | false =>
          have hadded :
              ∀ others, addText text (node :: others) = .leaf (.text text) :: node :: others :=
                fun others =>
            addText_eq htext
          rw [hadded, hadded]
          refine ⟨?_, rfl, rfl⟩
          change .leaf (.text text) :: (node :: top).filter Node.isReported = _
          rw [List.filter_cons_of_pos hnode]
      | true =>
          obtain ⟨value, rfl⟩ : ∃ value, node = .leaf (.text value) := by
            unfold Node.isText at htext
            split at htext
            · exact ⟨_, rfl⟩
            · contradiction
          exact ⟨rfl, rfl, rfl⟩

end Filters

namespace Placement

/-! ## Steps -/

/-- Go on by several events. -/
def run (placement : Placement) (events : List Event) : Placement :=
  events.foldl step placement

theorem run_cons (placement : Placement) (event : Event) (events : List Event) :
    placement.run (event :: events) = (placement.step event).run events := rfl

/-- Events can be taken in two parts. -/
theorem run_append (placement : Placement) (events events' : List Event) :
    placement.run (events ++ events') = (placement.run events).run events' :=
  List.foldl_append

/-- The definitions that are placed before an event. -/
def due (placement : Placement) (event : Event) : List Reference :=
  if placement.builder.atTop then
    event.blockOffset?.elim [] fun offset => placement.pending.takeWhile (isBefore offset)
  else []

/-- Definitions are placed, and then the builder goes on. -/
theorem step_builder (placement : Placement) (event : Event) :
    (placement.step event).builder =
      (placement.builder.pushAll ((placement.due event).map Reference.node)).step event := by
  unfold step due
  rcases placement.builder.atTop with _ | _ <;> rcases event.blockOffset? with _ | offset
  · rfl
  · rfl
  · rfl
  · simp only [pushAll, List.foldl_map, Option.elim_some, if_true]

/-- What is due is taken off the front of what is pending. -/
theorem due_append_pending (placement : Placement) (event : Event) :
    placement.due event ++ (placement.step event).pending = placement.pending := by
  unfold step due
  rcases placement.builder.atTop with _ | _ <;> rcases event.blockOffset? with _ | offset
  · rfl
  · rfl
  · rfl
  · exact List.takeWhile_append_dropWhile

/-- Only in front of blocks definitions are due. -/
theorem due_eq_nil {placement : Placement} {event : Event} (h : event.blockOffset? = none) :
    placement.due event = [] := by
  unfold due
  rw [h]
  exact ite_self _

/-- The definitions that are due come before a block that begins at the top. -/
theorem exists_of_mem_due {placement : Placement} {event : Event} {reference : Reference}
    (h : reference ∈ placement.due event) :
    placement.builder.frames = [] ∧ ∃ offset, event.blockOffset? = some offset ∧
      reference.offset < offset := by
  unfold due at h
  split at h
  · next htop =>
      rcases hoffset : event.blockOffset? with _ | offset
      · rw [hoffset] at h
        contradiction
      · rw [hoffset, Option.elim_some] at h
        exact ⟨List.isEmpty_iff.mp htop, offset, rfl,
          of_decide_eq_true (List.all_eq_true.mp List.all_takeWhile reference h)⟩
  · contradiction

/-- At the end the definitions that are left follow all blocks. -/
theorem finish_of_top {placement : Placement} (h : placement.builder.frames = []) :
    placement.finish =
      .branch .root (placement.builder.top.reverse ++ placement.pending.map Reference.node) := by
  obtain ⟨pending, ⟨frames, top⟩⟩ := placement
  obtain rfl : frames = [] := h
  have hplaced : pending.foldl (fun builder reference => builder.push reference.node) ⟨[], top⟩ =
      pushAll (pending.map Reference.node) ⟨[], top⟩ := by
    rw [pushAll, List.foldl_map]
  rw [finish, hplaced, pushAll_top, Builder.finish]
  change Node.branch .root ((pending.map Reference.node).reverse ++ top).reverse = _
  rw [List.reverse_append, List.reverse_reverse]

/-! ## The document without its definitions -/

/-- A document with definitions, and the same one without them: `placed` are the definitions that
have their place, and `all` are these and those that are still to be placed. -/
structure Tracks (placement : Placement) (plain : Builder) (placed all : List Reference) :
    Prop where
  frames_eq : placement.builder.frames = plain.frames
  reported_top : placement.builder.top.filter Node.isReported = plain.top
  definitions_top :
    placement.builder.top.filter Node.isDefinition = (placed.map Reference.node).reverse
  placed_append : placed ++ placement.pending = all
  /-- With nothing open the last node at the top is the last one in both documents. -/
  head_top : plain.frames = [] → placement.builder.top.head?.any Node.isDefinition = false

variable {placement : Placement} {plain : Builder} {placed all : List Reference}

/-- The definitions that are due come behind all that is at the top. -/
theorem Tracks.filter_due (h : placement.Tracks plain placed all) (due : List Reference) :
    ((due.map Reference.node).reverse ++ placement.builder.top).filter Node.isReported = plain.top ∧
      ((due.map Reference.node).reverse ++ placement.builder.top).filter Node.isDefinition =
        ((placed ++ due).map Reference.node).reverse := by
  obtain ⟨hreported, hdefinitions⟩ := filter_references due
  constructor
  · rw [List.filter_append, List.filter_reverse, hreported, h.reported_top]
    rfl
  · rw [List.filter_append, List.filter_reverse, hdefinitions, h.definitions_top, List.map_append,
      List.reverse_append]

/-- An event where nothing is open. -/
theorem Tracks.step_at_top (h : placement.Tracks plain placed all) (hframes : plain.frames = [])
    (event : Event) :
    (placement.step event).Tracks (plain.step event) (placed ++ placement.due event) all := by
  have hplaced : (placed ++ placement.due event) ++ (placement.step event).pending = all := by
    rw [List.append_assoc, due_append_pending, h.placed_append]
  obtain ⟨hreported, hdefinitions⟩ := h.filter_due (placement.due event)
  have hlast : event.blockOffset? = none →
      (((placement.due event).map Reference.node).reverse ++ placement.builder.top).head?.any
        Node.isDefinition = false := by
    intro hevent
    rw [due_eq_nil hevent]
    exact h.head_top hframes
  have hbuilder : placement.builder = ⟨[], placement.builder.top⟩ := by
    rw [← h.frames_eq] at hframes
    rw [← hframes]
  have hplain : plain = ⟨[], plain.top⟩ := by rw [← hframes]
  have hdue : (placement.step event).builder =
      Builder.step ⟨[], ((placement.due event).map Reference.node).reverse ++ placement.builder.top⟩
        event := by
    rw [step_builder, hbuilder, pushAll_top]
  rcases step_of_top event with ⟨frames, hblock, hstep⟩ | ⟨text, hblock, hstep⟩ |
      ⟨node, hnode, hstep⟩
  all_goals rw [hstep] at hdue
  all_goals rw [hplain, hstep]
  · exact ⟨by rw [hdue], by rw [hdue]; exact hreported, by rw [hdue]; exact hdefinitions, hplaced,
      fun hnil => by rw [hdue]; exact hlast (hblock hnil)⟩
  · obtain ⟨hreported', hdefinitions', hlast'⟩ := filter_addText (hlast hblock) text
    exact ⟨by rw [hdue], by rw [hdue, hreported', hreported],
      by rw [hdue, hdefinitions', hdefinitions], hplaced,
      fun _ => by rw [hdue]; exact hlast'⟩
  · obtain ⟨hkept, hgone⟩ := filter_reported (List.forall_mem_singleton.mpr hnode)
    refine ⟨by rw [hdue], ?_, ?_, hplaced, fun _ => by rw [hdue]; exact hnode.1⟩
    · rw [hdue, ← List.singleton_append, List.filter_append, hkept, hreported]
      rfl
    · rw [hdue, ← List.singleton_append, List.filter_append, hgone, hdefinitions]
      rfl

/-- An event in a construct: no definition is placed there. -/
theorem Tracks.step_inside (h : placement.Tracks plain placed all) (hframes : plain.frames ≠ [])
    (event : Event) :
    (placement.step event).Tracks (plain.step event) (placed ++ placement.due event) all := by
  have hdue : placement.due event = [] :=
    List.eq_nil_iff_forall_not_mem.mpr fun _ hmem =>
      hframes (h.frames_eq ▸ (exists_of_mem_due hmem).1)
  have hplaced := placement.due_append_pending event
  have hbuilder := placement.step_builder event
  rw [hdue, List.nil_append] at hplaced
  rw [hdue, List.map_nil, pushAll_nil] at hbuilder
  obtain ⟨frame, frames, hcons⟩ := List.exists_cons_of_ne_nil hframes
  obtain ⟨frames', added, hstep, hadded, hends⟩ := grows_step event frame frames
  have hwith : (placement.step event).builder = ⟨frames', added ++ placement.builder.top⟩ := by
    rw [hbuilder, ← hstep, ← hcons, ← h.frames_eq]
  have hwithout : plain.step event = ⟨frames', added ++ plain.top⟩ := by rw [← hstep, ← hcons]
  obtain ⟨hkept, hgone⟩ := filter_reported hadded
  rw [hdue, List.append_nil]
  refine ⟨by rw [hwith, hwithout], ?_, ?_, by rw [hplaced, h.placed_append], fun hnil => ?_⟩
  · rw [hwith, hwithout, List.filter_append, hkept, h.reported_top]
  · rw [hwith, List.filter_append, hgone, List.nil_append, h.definitions_top]
  · rw [hwithout] at hnil
    obtain ⟨node, more, rfl⟩ :=
      List.exists_cons_of_ne_nil ((hends hnil).resolve_left (List.cons_ne_nil _ _))
    rw [hwith]
    exact (hadded node List.mem_cons_self).1

/-- **An event does the same with definitions and without them.** -/
theorem Tracks.step (h : placement.Tracks plain placed all) (event : Event) :
    (placement.step event).Tracks (plain.step event) (placed ++ placement.due event) all := by
  by_cases hframes : plain.frames = []
  · exact h.step_at_top hframes event
  · exact h.step_inside hframes event

/-- And so do several events. The definitions that they place all come before one of the blocks that
begin at the top. -/
theorem Tracks.run (h : placement.Tracks plain placed all) {tags tags' : List Tag}
    (hmirror : Frame.Mirror plain.frames tags) {events : List Event}
    (hevents : openTags tags events = some tags') :
    ∃ due, (placement.run events).Tracks (plain.run events) (placed ++ due) all ∧
      ∀ reference ∈ due, ∃ offset ∈ topOffsets tags events, reference.offset < offset := by
  induction events generalizing placement plain placed tags with
  | nil => exact ⟨[], by rwa [List.append_nil], by simp⟩
  | cons event events ih =>
      obtain ⟨middle, hevent, hevents⟩ := openTags_cons_eq_some.mp hevents
      obtain ⟨due, hrun, hdue⟩ := ih (h.step event) (mirror_step hmirror hevent) hevents
      refine ⟨placement.due event ++ due, ?_,
        List.forall_mem_append.mpr ⟨fun reference hmem => ?_, ?_⟩⟩
      · rw [run_cons, Builder.run_cons, ← List.append_assoc]
        exact hrun
      · obtain ⟨hframes, offset, hoffset, hlt⟩ := exists_of_mem_due hmem
        rw [h.frames_eq] at hframes
        refine ⟨offset, List.mem_append_left _ ?_, hlt⟩
        rw [hmirror.eq_nil_iff.mp hframes, hoffset]
        exact List.mem_singleton_self offset
      · intro reference hmem
        obtain ⟨offset, hoffset, hlt⟩ := hdue reference hmem
        refine ⟨offset, List.mem_append_right _ ?_, hlt⟩
        rwa [hevent, Option.getD_some]

/-- A block stays where it stands while definitions are placed. -/
theorem standsOn_run {base : List Node} (h : placement.builder.StandsOn base)
    (events : List Event) : (placement.run events).builder.StandsOn base := by
  induction events generalizing placement with
  | nil => exact h
  | cons event events ih =>
      refine ih ?_
      rw [step_builder]
      exact standsOn_step (standsOn_pushAll h _) event

end Placement

/-! ## The root -/

/-- Definitions in the order of the source. -/
def inSourceOrder (definitions : List Reference) : List Reference :=
  definitions.mergeSort fun a b => a.offset ≤ b.offset

/-- Definitions wait in the order of their offsets. -/
theorem pairwise_inSourceOrder (definitions : List Reference) :
    (inSourceOrder definitions).Pairwise fun a b => a.offset ≤ b.offset := by
  refine (List.pairwise_mergeSort ?_ ?_ definitions).imp of_decide_eq_true
  · intro a b c hab hbc
    exact decide_eq_true (Nat.le_trans (of_decide_eq_true hab) (of_decide_eq_true hbc))
  · intro a b
    simpa using Nat.le_total a.offset b.offset

/-- Behind the definitions that come before an offset there are none that do. -/
theorem le_of_mem_dropWhile {references : List Reference}
    (h : references.Pairwise fun a b => a.offset ≤ b.offset)
    (offset : Nat) : ∀ reference ∈ references.dropWhile (Placement.isBefore offset),
      offset ≤ reference.offset := by
  induction references with
  | nil => exact fun _ hmem => absurd hmem List.not_mem_nil
  | cons first rest ih =>
      obtain ⟨hfirst, hrest⟩ := List.pairwise_cons.mp h
      by_cases hbefore : Placement.isBefore offset first = true
      · rw [List.dropWhile_cons_of_pos hbefore]
        exact ih hrest
      · rw [List.dropWhile_cons_of_neg hbefore]
        have hle : offset ≤ first.offset := by simpa [Placement.isBefore] using hbefore
        exact List.forall_mem_cons.mpr ⟨hle,
          fun reference hmem => Nat.le_trans hle (hfirst reference hmem)⟩

/-- With the definitions that are due before a block those are placed that come before it, if those
that were placed already do. -/
theorem filter_placed_append {placed pending all : List Reference} {offset : Nat}
    (hordered : all.Pairwise fun a b => a.offset ≤ b.offset) (hall : placed ++ pending = all)
    (hplaced : ∀ reference ∈ placed, reference.offset < offset) :
    all.filter (·.offset < offset) = placed ++ pending.takeWhile (Placement.isBefore offset) ∧
      all.filter (¬ ·.offset < offset) = pending.dropWhile (Placement.isBefore offset) := by
  have hpending : pending.Pairwise fun a b => a.offset ≤ b.offset := by
    rw [← hall] at hordered
    exact (List.pairwise_append.mp hordered).2.1
  have hbefore : ∀ reference ∈ placed ++ pending.takeWhile (Placement.isBefore offset),
      reference.offset < offset :=
    List.forall_mem_append.mpr ⟨hplaced, fun reference hmem =>
      of_decide_eq_true (List.all_eq_true.mp List.all_takeWhile reference hmem)⟩
  have hbehind := le_of_mem_dropWhile hpending offset
  have hsplit : all = (placed ++ pending.takeWhile (Placement.isBefore offset)) ++
      pending.dropWhile (Placement.isBefore offset) := by
    rw [List.append_assoc, List.takeWhile_append_dropWhile, hall]
  constructor
  · rw [hsplit, List.filter_append,
      List.filter_eq_self.mpr fun reference hmem => by simpa using hbefore reference hmem,
      List.filter_eq_nil_iff.mpr fun reference hmem => by simpa using hbehind reference hmem,
      List.append_nil]
  · rw [hsplit, List.filter_append,
      List.filter_eq_nil_iff.mpr fun reference hmem => by simpa using hbefore reference hmem,
      List.filter_eq_self.mpr fun reference hmem => by simpa using hbehind reference hmem,
      List.nil_append]

namespace Placement

variable {placement : Placement} {plain : Builder} {placed all : List Reference}

/-- At the start nothing is placed. -/
theorem tracks_start (definitions : List Reference) :
    Tracks ⟨inSourceOrder definitions, {}⟩ {} [] (inSourceOrder definitions) :=
  ⟨rfl, rfl, rfl, rfl, fun _ => rfl⟩

/-- What the root's children are, with all constructs ended. -/
theorem Tracks.finish (h : placement.Tracks plain placed all) (hframes : plain.frames = []) :
    ∃ children, placement.finish = .branch .root children ∧
      children.filter Node.isDefinition = all.map Reference.node ∧
      children.filter Node.isReported = plain.top.reverse := by
  obtain ⟨hreported, hdefinitions⟩ := filter_references placement.pending
  refine ⟨_, finish_of_top (h.frames_eq.trans hframes), ?_, ?_⟩
  · rw [List.filter_append, List.filter_reverse, h.definitions_top, hdefinitions,
      List.reverse_reverse, ← List.map_append, h.placed_append]
  · rw [List.filter_append, List.filter_reverse, h.reported_top, hreported, List.append_nil]

end Placement

/-- Without definitions the builder goes on alone. -/
theorem Placement.run_nil_pending (builder : Builder) (events : List Event) :
    Placement.run ⟨[], builder⟩ events = ⟨[], builder.run events⟩ := by
  induction events generalizing builder with
  | nil => rfl
  | cons event events ih =>
      have hstep : Placement.step ⟨[], builder⟩ event = ⟨[], builder.step event⟩ := by
        unfold Placement.step
        split <;> rfl
      rw [Placement.run_cons, hstep, ih, Builder.run_cons]

/-- Without definitions the document is what the events put at the top. -/
theorem Node.ofEvents_nil {events : List Event} (h : WellNested events) :
    Node.ofEvents [] events = .branch .root (Builder.run {} events).top.reverse := by
  have hframes : (Builder.run {} events).frames = [] := (mirror_run .nil h).eq_nil_iff.mpr rfl
  have hrun : Node.ofEvents [] events = (Placement.run ⟨inSourceOrder [], {}⟩ events).finish := rfl
  rw [hrun, show inSourceOrder [] = [] from List.mergeSort_nil, Placement.run_nil_pending,
    Placement.finish_of_top hframes]
  exact congrArg (Node.branch .root) (List.append_nil _)

/-- The children of the root with all definitions in their places: `placed` are the definitions in
the order in which they stand there. -/
structure DefinitionsPlaced (definitions : List Reference) (events : List Event)
    (children : List Node) (placed : List Reference) : Prop where
  perm : placed.Perm definitions
  ordered : placed.Pairwise fun a b => a.offset ≤ b.offset
  definitions : List.Forall₂ Reference.MakesNode placed (children.filter Node.isDefinition)
  /-- Without the definitions the children are those that the events alone make. -/
  reported_eq : Node.ofEvents [] events = .branch .root (children.filter Node.isReported)
  /-- An event that begins a block outside of all others adds one child, behind those that the
  events before it make. The definitions above that block are those before its offset. -/
  around_block : ∀ before event after offset, events = before ++ event :: after →
    WellNested before → event.blockOffset? = some offset →
    ∃ above block below,
      children = above ++ block :: below ∧ block.isDefinition = false ∧
      Node.ofEvents [] before = .branch .root (above.filter Node.isReported) ∧
      List.Forall₂ Reference.MakesNode (placed.filter (·.offset < offset))
        (above.filter Node.isDefinition) ∧
      List.Forall₂ Reference.MakesNode (placed.filter (¬ ·.offset < offset))
        (below.filter Node.isDefinition)

namespace Placement

variable {placement : Placement} {plain : Builder} {placed all : List Reference}

/-- A block that begins where nothing is open stands on what was at the top and the definitions that
were due. -/
theorem standsOn_block (hframes : placement.builder.frames = []) {event : Event} {offset : Nat}
    (hevent : event.blockOffset? = some offset) :
    (placement.step event).builder.StandsOn
      (((placement.due event).map Reference.node).reverse ++ placement.builder.top) := by
  have hbuilder : placement.builder = ⟨[], placement.builder.top⟩ := by rw [← hframes]
  have hdue : (placement.step event).builder =
      Builder.step ⟨[], ((placement.due event).map Reference.node).reverse ++ placement.builder.top⟩
        event := by
    rw [step_builder, hbuilder, pushAll_top]
  rw [hdue]
  rcases step_of_top event with ⟨frames, hblock, hstep⟩ | ⟨text, hblock, -⟩ | ⟨node, hnode, hstep⟩
  · rw [hstep]
    exact .inl ⟨fun hnil => by simp [hblock hnil] at hevent, rfl⟩
  · simp [hblock] at hevent
  · rw [hstep]
    exact .inr ⟨[], node, rfl, hnode⟩

/-- When all constructs have ended, the block stands between what was at the top before it and what
follows it. -/
theorem exists_finish_of_standsOn {base : List Node} (h : placement.builder.StandsOn base)
    (hframes : placement.builder.frames = []) :
    ∃ block below, placement.finish = .branch .root (base.reverse ++ block :: below) ∧
      block.isDefinition = false := by
  obtain ⟨hopen, -⟩ | ⟨above, block, htop, hblock, -⟩ := h
  · exact absurd hframes hopen
  · refine ⟨block, above.reverse ++ placement.pending.map Reference.node, ?_, hblock⟩
    simp only [finish_of_top hframes, htop, List.reverse_append, List.reverse_cons,
      List.append_assoc, List.cons_append, List.nil_append]

/-- **A block that begins at the top stands behind the definitions before its offset, and before all
others.** -/
theorem Tracks.exists_block (h : placement.Tracks plain placed all) (hframes : plain.frames = [])
    {event : Event} {offset : Nat} (hevent : event.blockOffset? = some offset)
    (hplaced : ∀ reference ∈ placed, reference.offset < offset)
    (hordered : all.Pairwise fun a b => a.offset ≤ b.offset) {after : List Event}
    (hafter : (plain.run (event :: after)).frames = [])
    (hall : ∃ placed,
      (placement.run (event :: after)).Tracks (plain.run (event :: after)) placed all) :
    ∃ above block below,
      (placement.run (event :: after)).finish = .branch .root (above ++ block :: below) ∧
      block.isDefinition = false ∧ above.filter Node.isReported = plain.top.reverse ∧
      above.filter Node.isDefinition = (all.filter (·.offset < offset)).map Reference.node ∧
      below.filter Node.isDefinition = (all.filter (¬ ·.offset < offset)).map Reference.node := by
  have hopen : placement.builder.frames = [] := h.frames_eq.trans hframes
  have hdue : placement.due event = placement.pending.takeWhile (isBefore offset) := by
    rw [Placement.due, atTop, hopen, hevent]
    rfl
  obtain ⟨hbefore, hbehind⟩ := filter_placed_append hordered h.placed_append hplaced
  rw [← hdue] at hbefore
  obtain ⟨hreported, hdefinitions⟩ := h.filter_due (placement.due event)
  obtain ⟨placed', hrun⟩ := hall
  obtain ⟨children, hchildren, hall, -⟩ := hrun.finish hafter
  have hstands := standsOn_run (standsOn_block hopen hevent) after
  obtain ⟨block, below, hfinish, hblock⟩ :=
    exists_finish_of_standsOn hstands (hrun.frames_eq.trans hafter)
  obtain ⟨-, rfl⟩ := Node.branch.inj (hchildren.symm.trans hfinish)
  have habove :
      (((placement.due event).map Reference.node).reverse ++ placement.builder.top).reverse.filter
      Node.isDefinition = (all.filter (·.offset < offset)).map Reference.node := by
    rw [List.filter_reverse, hdefinitions, List.reverse_reverse, hbefore]
  refine ⟨_, block, below, hfinish, hblock, ?_, habove, ?_⟩
  · rw [List.filter_reverse, hreported]
  · rw [List.filter_append, habove, List.filter_cons_of_neg (by simp [hblock])] at hall
    refine List.append_cancel_left (hall.trans ?_)
    rw [← List.map_append, hbefore, hbehind, hdue, List.append_assoc,
      List.takeWhile_append_dropWhile, h.placed_append]

end Placement

/-- **Every definition is placed once, before the blocks at the top that begin behind it.** -/
theorem Node.exists_placed (definitions : List Reference) {events : List Event}
    (hnested : WellNested events) (hoffsets : (topOffsets [] events).Pairwise (· < ·)) :
    ∃ children placed, Node.ofEvents definitions events = .branch .root children ∧
      DefinitionsPlaced definitions events children placed := by
  have htop : ∀ {events}, WellNested events → (Builder.run {} events).frames = [] := fun h =>
    (mirror_run .nil h).eq_nil_iff.mpr rfl
  have hstart := Placement.tracks_start definitions
  have hordered := pairwise_inSourceOrder definitions
  obtain ⟨due, hrun, -⟩ := hstart.run .nil hnested
  obtain ⟨children, hchildren, hdefinitions, hreported⟩ := hrun.finish (htop hnested)
  refine ⟨children, inSourceOrder definitions, hchildren, List.mergeSort_perm _ _, hordered,
    hdefinitions ▸ forall₂_makesNode _,
    (Node.ofEvents_nil hnested).trans (congrArg _ hreported.symm), ?_⟩
  rintro before event after offset rfl hbefore hevent
  obtain ⟨placed, hplaced, hlt⟩ := hstart.run .nil hbefore
  have hbeforeOffset : ∀ reference ∈ placed, reference.offset < offset := by
    intro reference hmem
    obtain ⟨earlier, hearlier, hreference⟩ := hlt reference hmem
    rw [topOffsets_append hbefore, List.pairwise_append] at hoffsets
    have hoffset : offset ∈ topOffsets [] (event :: after) := by
      rw [topOffsets, hevent]
      exact List.mem_append_left _ (List.mem_singleton_self offset)
    exact Nat.lt_trans hreference (hoffsets.2.2 earlier hearlier offset hoffset)
  rw [Builder.run_append, Placement.run_append] at hrun
  rw [Placement.run_append] at hchildren
  have hafter := htop hnested
  rw [Builder.run_append] at hafter
  obtain ⟨above, block, below, hsplit, hblock, habove, hearlier, hlater⟩ :=
    hplaced.exists_block (htop hbefore) hevent hbeforeOffset hordered hafter ⟨_, hrun⟩
  obtain ⟨-, rfl⟩ := Node.branch.inj (hchildren.symm.trans hsplit)
  exact ⟨above, block, below, rfl, hblock,
    (Node.ofEvents_nil hbefore).trans (congrArg _ habove.symm),
    hearlier ▸ forall₂_makesNode _, hlater ▸ forall₂_makesNode _⟩

/-- The definition that is written in the quote follows it. Of the others one comes before the
quote, and one behind the rule. -/
theorem Node.exists_placed_quote :
    ∃ placed, DefinitionsPlaced
      [⟨25, "B\n b", "/b", none⟩, ⟨40, "c", "/c", some "d"⟩, ⟨5, " A", "/a", none⟩]
      [.start .paragraph 0, .text "x", .finish true, .start .blockquote 10, .start .paragraph 12,
        .text "y", .finish true, .finish false, .rule 30]
      [.branch .paragraph [.leaf (.text "x")], .leaf (.definition ⟨"a", some " A"⟩ ⟨"/a", none⟩),
        .branch .blockquote [.branch .paragraph [.leaf (.text "y")]],
        .leaf (.definition ⟨"b b", some "B\n b"⟩ ⟨"/b", none⟩), .leaf .thematicBreak,
        .leaf (.definition ⟨"c", some "c"⟩ ⟨"/c", some "d"⟩)]
      placed := by
  obtain ⟨children, placed, hchildren, h⟩ := @Node.exists_placed
    [⟨25, "B\n b", "/b", none⟩, ⟨40, "c", "/c", some "d"⟩, ⟨5, " A", "/a", none⟩]
    [.start .paragraph 0, .text "x", .finish true,
      .start .blockquote 10, .start .paragraph 12, .text "y", .finish true, .finish false,
      .rule 30] rfl (by decide)
  have hsorted :
      inSourceOrder [⟨25, "B\n b", "/b", none⟩, ⟨40, "c", "/c", some "d"⟩, ⟨5, " A", "/a", none⟩] =
      [⟨5, " A", "/a", none⟩, ⟨25, "B\n b", "/b", none⟩, ⟨40, "c", "/c", some "d"⟩] := by
    simp [inSourceOrder, List.mergeSort]
  have hidentifiers : normalizeLabel " A" = "a" ∧ normalizeLabel "B\n b" = "b b" ∧
      normalizeLabel "c" = "c" := by
    decide +kernel
  change (Placement.run ⟨inSourceOrder _, {}⟩ _).finish = _ at hchildren
  rw [hsorted] at hchildren
  obtain ⟨-, rfl⟩ := Node.branch.inj hchildren
  rw [← hidentifiers.1, ← hidentifiers.2.1, ← hidentifiers.2.2]
  exact ⟨placed, h⟩

end MarkdownWriter
