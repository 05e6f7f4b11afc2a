import MarkdownWriter.Proofs.Document.Rebuilding

/-!
# Well-nested events

Events are well nested if every end is one of the construct that began last, and every construct
ends (`WellNested`). A builder that goes on by such events has the constructs open that have begun
and not ended (`Frame.Mirror`), and the implicit paragraphs it has opened itself stand directly in
items; so it is at the top again where the events are (`Builder.mirror_run`).

What is added at the top while a construct is open there does not depend on what is at the top
already (`Builder.grows_step`): it is the construct itself, once it ends. Where nothing is open only
a text looks at what is there (`Builder.step_of_top`), and it is never added to a block. So a block
stays where it stands (`Builder.standsOn_step`).
-/

namespace MarkdownWriter

/-! ## Tags -/

/-- The tags that are open behind an event, innermost first, if an end is the end of the innermost
one. -/
def Event.openTags (tags : List Tag) : Event → Option (List Tag)
  | .start tag _ => some (tag :: tags)
  | .finish paragraph =>
      match tags with
      | tag :: rest => if paragraph = (tag == .paragraph) then some rest else none
      | [] => none
  | _ => some tags

/-- The tags that are open behind several events. -/
def openTags (tags : List Tag) : List Event → Option (List Tag)
  | [] => some tags
  | event :: events => (event.openTags tags).bind fun tags => openTags tags events

/-- Every end is the end of the construct that began last, and every construct ends. -/
def WellNested (events : List Event) : Prop :=
  openTags [] events = some []

/-- The offsets of the blocks that begin outside of all others. -/
def topOffsets (tags : List Tag) : List Event → List Nat
  | [] => []
  | event :: events =>
      (if tags.isEmpty then event.blockOffset?.toList else []) ++ topOffsets
        ((event.openTags tags).getD []) events

/-- The tags behind several events are those behind the first, and then the others. -/
theorem openTags_cons_eq_some {tags tags' : List Tag} {event : Event} {events : List Event} :
    openTags tags (event :: events) = some tags' ↔
      ∃ middle, event.openTags tags = some middle ∧ openTags middle events = some tags' :=
  Option.bind_eq_some_iff

/-- Behind some events the offsets go on with what is open there. -/
theorem topOffsets_append {tags middle : List Tag} {events : List Event}
    (h : openTags tags events = some middle) (events' : List Event) :
    topOffsets tags (events ++ events') = topOffsets tags events ++ topOffsets middle events' := by
  induction events generalizing tags with
  | nil =>
      obtain rfl := Option.some.inj h
      rfl
  | cons event events ih =>
      obtain ⟨next, hevent, hevents⟩ := openTags_cons_eq_some.mp h
      rw [List.cons_append, topOffsets, topOffsets, hevent, Option.getD_some, ih hevents,
        List.append_assoc]

/-! ## What is open -/

/-- A construct as its tag begins it, and perhaps goes on. It is no implicit paragraph. -/
structure Scope.StandsFor (scope : Scope) (tag : Tag) : Prop where
  ne_implicit : scope ≠ .paragraph true
  item_iff : (∃ spread, scope = .item spread) ↔ tag = .item

/-- The constructs that are open are those of the tags that are, and implicit paragraphs directly in
items. -/
inductive Frame.Mirror : List Frame → List Tag → Prop
  | nil : Mirror [] []
  | tag {scope : Scope} {tag : Tag} {children : List Node} {frames : List Frame} {tags : List Tag}
      (hscope : scope.StandsFor tag) (h : Mirror frames tags) : Mirror (⟨scope, children⟩ :: frames)
      (tag :: tags)
  | implicit {spread : Bool} {children siblings : List Node} {frames : List Frame} {tags : List Tag}
      (h : Mirror (⟨.item spread, siblings⟩ :: frames) tags) :
      Mirror (⟨.paragraph true, children⟩ :: ⟨.item spread, siblings⟩ :: frames) tags

/-- A construct stands for the tag that begins it. -/
theorem Scope.standsFor_ofTag (tag : Tag) : (Scope.ofTag tag).StandsFor tag := by
  cases tag with
  | code info => cases info <;> exact ⟨by simp [ofTag], by simp [ofTag]⟩
  | link target =>
      change (ofLink target).StandsFor _
      unfold ofLink
      split <;> exact ⟨by simp, by simp⟩
  | image target =>
      change (ofImage target).StandsFor _
      unfold ofImage
      split <;> exact ⟨by simp, by simp⟩
  | _ => exact ⟨by simp [ofTag], by simp [ofTag]⟩

namespace Frame.Mirror

variable {scope : Scope} {children : List Node} {frames : List Frame} {tag : Tag} {tags : List Tag}

/-- What is in a construct does not matter. -/
theorem of_children (h : Mirror (⟨scope, children⟩ :: frames) tags) (others : List Node) :
    Mirror (⟨scope, others⟩ :: frames) tags := by
  cases h with
  | tag hscope h => exact .tag hscope h
  | implicit h => exact .implicit h

/-- Nothing is open where no tag is, and the other way round. -/
theorem eq_nil_iff (h : Mirror frames tags) : frames = [] ↔ tags = [] := by
  induction h with
  | nil => exact ⟨fun _ => rfl, fun _ => rfl⟩
  | tag => simp
  | implicit h ih => simpa using ih

/-- Behind an implicit paragraph a tag other than that of an item is not the innermost one. -/
theorem innermost_ne (h : Mirror frames (tag :: tags)) (htag : tag ≠ .item) :
    frames.head?.map Frame.scope ≠ some (.paragraph true) := by
  cases h with
  | tag hscope h => exact fun heq => hscope.ne_implicit (Option.some.inj heq)
  | implicit h =>
      cases h with
      | tag hscope h => exact absurd (hscope.item_iff.mp ⟨_, rfl⟩) htag

end Frame.Mirror

namespace Builder

open MarkdownWriter.Frame (Mirror)

variable {builder : Builder} {tag : Tag} {tags tags' : List Tag}

/-- A node that is added opens and ends nothing. -/
theorem mirror_push (h : Mirror builder.frames tags) (node : Node) :
    Mirror (builder.push node).frames tags := by
  obtain ⟨_ | ⟨⟨scope, children⟩, frames⟩, top⟩ := builder
  · exact h
  · exact h.of_children _

/-- Nor does a text, although it may change the construct it is added to. -/
theorem mirror_pushText (h : Mirror builder.frames tags) (text : String) :
    Mirror (builder.pushText text).frames tags := by
  obtain ⟨_ | ⟨⟨scope, children⟩, frames⟩, top⟩ := builder
  · exact h
  · cases scope with
    | code lang attributes value =>
        cases h with
        | tag hscope h => exact .tag ⟨by simp, by simpa using hscope.item_iff⟩ h
    | html value =>
        cases h with
        | tag hscope h => exact .tag ⟨by simp, by simpa using hscope.item_iff⟩ h
    | _ => exact h.of_children _

/-- A paragraph in an item is implicit, and has no tag. -/
theorem mirror_ensureParagraph (h : Mirror builder.frames tags) :
    Mirror builder.ensureParagraph.frames tags := by
  unfold ensureParagraph
  split
  · next heq =>
      rw [openScope, heq]
      rw [heq] at h
      exact .implicit h
  · exact h

/-- It ends again without one, and there are no two of them. -/
theorem mirror_closeImplicit (h : Mirror builder.frames tags) :
    Mirror builder.closeImplicit.frames tags ∧
      builder.closeImplicit.innermost ≠ some (.paragraph true) := by
  by_cases hopen : builder.innermost = some (.paragraph true)
  · obtain ⟨_ | ⟨⟨scope, children⟩, frames⟩, top⟩ := builder
    · contradiction
    · obtain rfl : scope = .paragraph true := Option.some.inj hopen
      cases h with
      | tag hscope h => exact absurd rfl hscope.ne_implicit
      | implicit h => exact ⟨h.of_children _, by simp [closeImplicit, close, push, innermost]⟩
  · rw [closeImplicit_eq hopen]
    exact ⟨h, hopen⟩

/-- A spread item still stands for its tag. -/
theorem mirror_spreadItem (h : Mirror builder.frames tags) :
    Mirror builder.spreadItem.frames tags := by
  unfold spreadItem
  split
  · next heq =>
      rw [heq] at h
      cases h with
      | tag hscope h => exact .tag ⟨by simp, by simpa using hscope.item_iff⟩ h
  · exact h

/-- The end of a construct that is not an implicit paragraph closes the innermost tag. -/
theorem mirror_close (h : Mirror builder.frames (tag :: tags))
    (hopen : builder.innermost ≠ some (.paragraph true)) :
    Mirror builder.close.frames tags := by
  obtain ⟨_ | ⟨⟨scope, children⟩, frames⟩, top⟩ := builder
  · cases h
  · cases h with
    | tag hscope h => exact mirror_push h _
    | implicit h => exact absurd rfl hopen

/-- A tag opens the construct that it stands for. -/
theorem mirror_start (h : Mirror builder.frames tags) (tag : Tag) :
    Mirror (builder.start tag).frames (tag :: tags) := by
  unfold start
  refine .tag (Scope.standsFor_ofTag tag) ?_
  have hplace :
      Mirror (if tag.isBlock then builder.closeImplicit else builder.ensureParagraph).frames
        tags := by
    split
    · exact (mirror_closeImplicit h).1
    · exact mirror_ensureParagraph h
  split
  · exact mirror_spreadItem hplace
  · exact hplace

/-- **Behind an event that is well nested the constructs are open whose tags are.** -/
theorem mirror_step (h : Mirror builder.frames tags) {event : Event}
    (hevent : event.openTags tags = some tags') :
    Mirror (builder.step event).frames tags' := by
  cases event with
  | start tag offset =>
      obtain rfl := Option.some.inj hevent
      exact mirror_start h tag
  | finish paragraph =>
      cases tags with
      | nil => contradiction
      | cons tag tags =>
          simp only [Event.openTags] at hevent
          split at hevent
          · next hparagraph =>
              obtain rfl := Option.some.inj hevent
              cases paragraph with
              | true =>
                  have htag : tag ≠ .item := by
                    rintro rfl
                    contradiction
                  exact mirror_close h (h.innermost_ne htag)
              | false =>
                  obtain ⟨hclosed, hopen⟩ := mirror_closeImplicit h
                  exact mirror_close hclosed hopen
          · contradiction
  | html value =>
      obtain rfl := Option.some.inj hevent
      exact mirror_pushText h value
  | text value | softBreak =>
      obtain rfl := Option.some.inj hevent
      exact mirror_pushText (mirror_ensureParagraph h) _
  | code value | inlineHtml value | hardBreak =>
      obtain rfl := Option.some.inj hevent
      exact mirror_push (mirror_ensureParagraph h) _
  | rule offset =>
      obtain rfl := Option.some.inj hevent
      exact mirror_push (mirror_closeImplicit h).1 _

/-- And so they are behind several such events. -/
theorem mirror_run (h : Mirror builder.frames tags) {events : List Event}
    (hevents : openTags tags events = some tags') :
    Mirror (builder.run events).frames tags' := by
  induction events generalizing builder tags with
  | nil =>
      obtain rfl := Option.some.inj hevents
      exact h
  | cons event events ih =>
      obtain ⟨middle, hevent, hevents⟩ := openTags_cons_eq_some.mp hevents
      rw [run_cons]
      exact ih (mirror_step h hevent) hevents

end Builder

/-! ## What is added at the top -/

/-- Whether a node is a definition. -/
def Node.isDefinition : Node → Bool
  | .leaf (.definition ..) => true
  | _ => false

/-- A construct that ends is neither a definition nor a text. -/
theorem Scope.isDefinition_node (scope : Scope) (children : List Node) :
    (scope.node children).isDefinition = false ∧ (scope.node children).isText = false := by
  cases scope <;> exact ⟨rfl, rfl⟩

namespace Builder

/-- With given constructs open, an action adds the same nodes at the top whatever is there. None of
them is a definition or a text, and some are added if the last of the constructs ends. -/
def Grows (action : Builder → Builder) (frames : List Frame) : Prop :=
  ∃ frames' added, (∀ top, action ⟨frames, top⟩ = ⟨frames', added ++ top⟩) ∧
    (∀ node ∈ added, node.isDefinition = false ∧ node.isText = false) ∧
    (frames' = [] → frames = [] ∨ added ≠ [])

variable {action next : Builder → Builder} {frames : List Frame}

/-- What adds nothing at the top and ends nothing. -/
theorem Grows.of_frames {frames' : List Frame} (h : ∀ top, action ⟨frames, top⟩ = ⟨frames', top⟩)
    (hframes : frames' = [] → frames = []) : Grows action frames :=
  ⟨frames', [], h, fun _ hnode => absurd hnode List.not_mem_nil, fun hnil => .inl (hframes hnil)⟩

/-- One action after the other adds one list of nodes in front of the other. -/
theorem Grows.comp (h : Grows action frames) (hnext : ∀ frames, Grows next frames) :
    Grows (fun builder => next (action builder)) frames := by
  obtain ⟨middle, added, haction, hadded, hends⟩ := h
  obtain ⟨frames', more, hnext, hmore, hmoreEnds⟩ := hnext middle
  refine ⟨frames', more ++ added, fun top => ?_, ?_, fun hnil => ?_⟩
  · dsimp only
    rw [haction, hnext, List.append_assoc]
  · exact List.forall_mem_append.mpr ⟨hmore, hadded⟩
  · rcases hmoreEnds hnil with hmiddle | hne
    · exact (hends hmiddle).imp_right (List.append_ne_nil_of_right_ne_nil more)
    · exact .inr (List.append_ne_nil_of_left_ne_nil hne added)

/-- A block that is added is all that is added. -/
theorem grows_push {node : Node} (hnode : node.isDefinition = false ∧ node.isText = false)
    (frames : List Frame) : Grows (push node) frames := by
  cases frames with
  | nil => exact ⟨[], [node], fun _ => rfl, by simpa using hnode, fun _ => .inl rfl⟩
  | cons frame frames => exact .of_frames (fun _ => rfl) (by simp)

/-- A construct that begins adds nothing yet. -/
theorem grows_openScope (scope : Scope) (frames : List Frame) : Grows (openScope scope) frames :=
  @Grows.of_frames _ _ (⟨scope, []⟩ :: frames) (fun _ => rfl) (by simp)

/-- When a construct ends, its node is added. -/
theorem grows_close (frames : List Frame) : Grows close frames := by
  cases frames with
  | nil => exact .of_frames (fun _ => rfl) id
  | cons frame frames =>
      cases frames with
      | nil =>
          exact ⟨[], [frame.scope.node frame.children.reverse], fun _ => rfl,
            by simpa using Scope.isDefinition_node _ _, fun _ => .inr (List.cons_ne_nil _ _)⟩
      | cons outer frames => exact .of_frames (fun _ => rfl) (by simp)

/-- An implicit paragraph adds itself when it ends. -/
theorem grows_closeImplicit (frames : List Frame) : Grows closeImplicit frames := by
  by_cases hopen : frames.head?.map Frame.scope = some (.paragraph true)
  · obtain ⟨frames', added, hclose, hadded⟩ := grows_close frames
    refine ⟨frames', added, fun top => ?_, hadded⟩
    rw [← hclose]
    obtain _ | ⟨⟨scope, children⟩, frames⟩ := frames
    · contradiction
    · obtain rfl : scope = .paragraph true := Option.some.inj hopen
      rfl
  · exact .of_frames (fun top => closeImplicit_eq hopen) id

/-- It adds nothing when it begins. -/
theorem grows_ensureParagraph (frames : List Frame) : Grows ensureParagraph frames := by
  obtain _ | ⟨⟨scope, children⟩, frames⟩ := frames
  · exact .of_frames (fun _ => rfl) id
  · cases scope with
    | item spread =>
        exact @Grows.of_frames _ _ (⟨.paragraph true, []⟩ :: ⟨.item spread, children⟩ :: frames)
          (fun _ => rfl) (by simp)
    | _ => exact .of_frames (fun _ => rfl) id

/-- To spread an item adds nothing. -/
theorem grows_spreadItem (frames : List Frame) : Grows spreadItem frames := by
  obtain _ | ⟨⟨scope, children⟩, frames⟩ := frames
  · exact .of_frames (fun _ => rfl) id
  · cases scope with
    | item spread => exact .of_frames (fun _ => rfl) (by simp)
    | _ => exact .of_frames (fun _ => rfl) id

/-- A tag ends an implicit paragraph at most. -/
theorem grows_start (tag : Tag) (frames : List Frame) : Grows (start tag) frames := by
  have hplace :
      Grows (fun builder => if tag.isBlock then builder.closeImplicit else builder.ensureParagraph)
        frames := by
    cases tag.isBlock with
    | true => exact grows_closeImplicit frames
    | false => exact grows_ensureParagraph frames
  have hspread :
      ∀ frames, Grows (fun builder => if tag = .paragraph then builder.spreadItem else builder)
        frames := by
    intro frames
    split
    · exact grows_spreadItem frames
    · exact .of_frames (fun _ => rfl) id
  exact (hplace.comp hspread).comp (grows_openScope _)

/-- A text goes into a construct, if one is open. -/
theorem grows_pushText (text : String) (frame : Frame) (frames : List Frame) :
    Grows (pushText text) (frame :: frames) :=
  .of_frames (fun _ => rfl) (by simp)

/-- A text within a construct adds nothing at the top. -/
theorem grows_pushText_ensureParagraph (text : String) (frame : Frame) (frames : List Frame) :
    Grows (fun builder => pushText text builder.ensureParagraph) (frame :: frames) := by
  obtain ⟨scope, children⟩ := frame
  cases scope with
  | item spread =>
      exact @Grows.of_frames _ _ (Frame.addText text ⟨.paragraph true, []⟩ :: ⟨.item spread,
        children⟩ :: frames)
        (fun _ => rfl) (by simp)
  | _ => exact grows_pushText text _ frames

/-- **Where a construct is open, an event adds the same at the top whatever is there.** -/
theorem grows_step (event : Event) (frame : Frame) (frames : List Frame) :
    Grows (fun builder => builder.step event) (frame :: frames) := by
  cases event with
  | start tag offset => exact grows_start tag _
  | finish paragraph =>
      cases paragraph with
      | true => exact grows_close _
      | false => exact (grows_closeImplicit _).comp grows_close
  | text value | softBreak => exact grows_pushText_ensureParagraph _ frame frames
  | code value | inlineHtml value | hardBreak =>
      exact (grows_ensureParagraph _).comp (grows_push ⟨rfl, rfl⟩)
  | html value => exact grows_pushText value frame frames
  | rule offset => exact (grows_closeImplicit _).comp (grows_push ⟨rfl, rfl⟩)

/-- At the top an event begins a construct, goes on by a text or adds a node. Where it reports the
beginning of a block it is that block which is begun or added. -/
theorem step_of_top (event : Event) :
    (∃ frames, (frames = [] → event.blockOffset? = none) ∧
      ∀ top, step ⟨[], top⟩ event = ⟨frames, top⟩) ∨
      (∃ text, event.blockOffset? = none ∧ ∀ top, step ⟨[], top⟩ event = ⟨[], addText text top⟩) ∨
        ∃ node : Node, (node.isDefinition = false ∧ node.isText = false) ∧
          ∀ top, step ⟨[], top⟩ event = ⟨[], node :: top⟩ := by
  cases event with
  | start tag offset =>
      refine .inl ⟨[⟨.ofTag tag, []⟩], by simp, fun top => ?_⟩
      rw [step, start]
      cases tag.isBlock <;> by_cases htag : tag = .paragraph <;> simp only [htag] <;> rfl
  | finish paragraph => cases paragraph <;> exact .inl ⟨[], fun _ => rfl, fun _ => rfl⟩
  | text value | html value => exact .inr (.inl ⟨value, rfl, fun _ => rfl⟩)
  | softBreak => exact .inr (.inl ⟨"\n", rfl, fun _ => rfl⟩)
  | code value => exact .inr (.inr ⟨.leaf (.inlineCode value), ⟨rfl, rfl⟩, fun _ => rfl⟩)
  | inlineHtml value => exact .inr (.inr ⟨.leaf (.html value), ⟨rfl, rfl⟩, fun _ => rfl⟩)
  | hardBreak => exact .inr (.inr ⟨.leaf .hardBreak, ⟨rfl, rfl⟩, fun _ => rfl⟩)
  | rule offset => exact .inr (.inr ⟨.leaf .thematicBreak, ⟨rfl, rfl⟩, fun _ => rfl⟩)

/-! ## What stays at the top -/

/-- A block stands on what is at the top, or is still open there. -/
def StandsOn (base : List Node) (builder : Builder) : Prop :=
  (builder.frames ≠ [] ∧ builder.top = base) ∨
    ∃ above block, builder.top = above ++ block :: base ∧
      block.isDefinition = false ∧ block.isText = false

variable {base : List Node} {builder : Builder}

/-- A node that is added stands above what is there. -/
theorem standsOn_push (h : builder.StandsOn base) (node : Node) :
    (builder.push node).StandsOn base := by
  obtain ⟨_ | ⟨frame, frames⟩, top⟩ := builder
  · rcases h with ⟨hopen, -⟩ | ⟨above, block, htop, hblock⟩
    · exact absurd rfl hopen
    · exact .inr ⟨node :: above, block, congrArg (node :: ·) htop, hblock⟩
  · rcases h with ⟨-, htop⟩ | h
    · exact .inl ⟨List.cons_ne_nil _ _, htop⟩
    · exact .inr h

/-- So do several. -/
theorem standsOn_pushAll (h : builder.StandsOn base) (nodes : List Node) :
    (builder.pushAll nodes).StandsOn base := by
  induction nodes generalizing builder with
  | nil => exact h
  | cons node nodes ih => exact ih (standsOn_push h node)

/-- A text behind a block does not become a part of what is before the block. -/
theorem exists_addText_eq {block : Node} (hblock : block.isText = false) (text : String)
    (above : List Node) :
    ∃ above', addText text (above ++ block :: base) = above' ++ block :: base := by
  cases above with
  | nil => exact ⟨[.leaf (.text text)], addText_eq hblock⟩
  | cons node above =>
      unfold addText
      split
      · next value nodes heq =>
          obtain ⟨-, rfl⟩ := List.cons.inj heq
          exact ⟨.leaf (.text (value ++ text)) :: above, rfl⟩
      · exact ⟨.leaf (.text text) :: node :: above, rfl⟩

/-- **A block stays where it stands.** -/
theorem standsOn_step (h : builder.StandsOn base) (event : Event) :
    (builder.step event).StandsOn base := by
  obtain ⟨_ | ⟨frame, frames⟩, top⟩ := builder
  · rcases h with ⟨hopen, -⟩ | ⟨above, block, rfl, hblock⟩
    · exact absurd rfl hopen
    · rcases step_of_top event with ⟨frames, -, hstep⟩ | ⟨text, -, hstep⟩ | ⟨node, -, hstep⟩
      · exact .inr ⟨above, block, by rw [hstep], hblock⟩
      · obtain ⟨above', htop⟩ := exists_addText_eq hblock.2 text above
        exact .inr ⟨above', block, by rw [hstep, htop], hblock⟩
      · exact .inr ⟨node :: above, block, by rw [hstep]; rfl, hblock⟩
  · obtain ⟨frames', added, hstep, hadded, hends⟩ := grows_step event frame frames
    rw [show step _ event = _ from hstep top]
    rcases h with ⟨-, rfl⟩ | ⟨above, block, rfl, hblock⟩
    · rcases List.eq_nil_or_concat added with rfl | ⟨more, block, rfl⟩
      · exact .inl ⟨fun hnil => by simpa using hends hnil, rfl⟩
      · exact .inr ⟨more, block, by simp, hadded block (by simp)⟩
    · exact .inr ⟨added ++ above, block, by simp, hblock⟩

end Builder

end MarkdownWriter
