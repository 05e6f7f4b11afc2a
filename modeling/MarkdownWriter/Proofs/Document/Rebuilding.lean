import MarkdownWriter.Proofs.Document.Reports
import MarkdownWriter.Proofs.Text.Endings

/-!
# Trees from their reports

A builder puts together the tree that is reported to it (`RowReport.finish_run`). What a block adds
is independent of what is open around it: it ends the implicit paragraph before it and becomes a
child of what was around that (`BlockReport.run_eq`). Inline content becomes children of the
construct it stands in (`InlineReport.run_eq`), or of an implicit paragraph that its first event
begins (`InlineReport.run_item`).

There is one thing a report does not tell: whether a carriage return before a line feed belongs to
the text of a code block or to the line ending behind it (`not_forall_finish_run`).
-/

namespace MarkdownWriter

open Text

namespace Builder

/-! ## Steps -/

variable {builder : Builder}

/-- Go on by several events. -/
def run (builder : Builder) (events : List Event) : Builder :=
  events.foldl step builder

@[simp] theorem run_nil : builder.run [] = builder := rfl

@[simp] theorem run_cons (event : Event) (events : List Event) :
    builder.run (event :: events) = (builder.step event).run events := rfl

@[simp] theorem run_append (events events' : List Event) :
    builder.run (events ++ events') = (builder.run events).run events' :=
  List.foldl_append

/-- Add several nodes to the innermost construct. -/
def pushAll (nodes : List Node) (builder : Builder) : Builder :=
  nodes.foldl (fun builder node => builder.push node) builder

@[simp] theorem pushAll_nil : builder.pushAll [] = builder := rfl

@[simp] theorem pushAll_cons (node : Node) (nodes : List Node) :
    builder.pushAll (node :: nodes) = (builder.push node).pushAll nodes := rfl

/-- Nodes become children of the innermost construct. -/
theorem pushAll_frames (nodes : List Node) (scope : Scope) (children : List Node)
    (frames : List Frame) (top : List Node) :
    pushAll nodes ⟨⟨scope, children⟩ :: frames, top⟩ =
      ⟨⟨scope, nodes.reverse ++ children⟩ :: frames, top⟩ := by
  induction nodes generalizing children with
  | nil => rfl
  | cons node nodes ih =>
      rw [pushAll_cons, List.reverse_cons, List.append_assoc]
      exact ih (node :: children)

/-- Without a construct they are added at the top. -/
theorem pushAll_top (nodes top : List Node) :
    pushAll nodes ⟨[], top⟩ = ⟨[], nodes.reverse ++ top⟩ := by
  induction nodes generalizing top with
  | nil => rfl
  | cons node nodes ih =>
      rw [pushAll_cons, List.reverse_cons, List.append_assoc]
      exact ih (node :: top)

/-! ## The innermost construct -/

/-- The innermost construct that is open. -/
def innermost (builder : Builder) : Option Scope :=
  builder.frames.head?.map Frame.scope

@[simp] theorem innermost_push (node : Node) :
    (builder.push node).innermost = builder.innermost := by
  rcases builder with ⟨_ | ⟨frame, frames⟩, top⟩ <;> rfl

@[simp] theorem innermost_openScope (scope : Scope) :
    (builder.openScope scope).innermost = some scope := rfl

/-- No implicit paragraph is ended where none is open. -/
theorem closeImplicit_eq (h : builder.innermost ≠ some (.paragraph true)) :
    builder.closeImplicit = builder := by
  unfold closeImplicit
  split
  · next heq => simp [innermost, heq] at h
  · rfl

/-- Behind an implicit paragraph no other one is ended. -/
theorem ensureParagraph_eq (h : ∀ spread, builder.innermost ≠ some (.item spread)) :
    builder.ensureParagraph = builder := by
  unfold ensureParagraph
  split
  · next spread _ _ heq => simp [innermost, heq] at h
  · rfl

/-- Only an item is spread. -/
theorem spreadItem_eq (h : ∀ spread, builder.innermost ≠ some (.item spread)) :
    builder.spreadItem = builder := by
  unfold spreadItem
  split
  · next spread _ _ heq => simp [innermost, heq] at h
  · rfl

/-- One implicit paragraph is enough. -/
theorem ensureParagraph_ensureParagraph :
    builder.ensureParagraph.ensureParagraph = builder.ensureParagraph := by
  rcases builder with ⟨_ | ⟨⟨scope, children⟩, frames⟩, top⟩
  · rfl
  · cases scope <;> rfl

/-- An item is spread once. -/
theorem spreadItem_spreadItem : builder.spreadItem.spreadItem = builder.spreadItem := by
  rcases builder with ⟨_ | ⟨⟨scope, children⟩, frames⟩, top⟩
  · rfl
  · cases scope <;> rfl

/-- What is added to an item does not decide whether it is spread. -/
theorem spreadItem_push (node : Node) :
    (builder.push node).spreadItem = builder.spreadItem.push node := by
  rcases builder with ⟨_ | ⟨⟨scope, children⟩, frames⟩, top⟩
  · rfl
  · cases scope <;> rfl

/-- A spread item is no implicit paragraph either. -/
theorem innermost_spreadItem (h : builder.innermost ≠ some (.paragraph true)) :
    builder.spreadItem.innermost ≠ some (.paragraph true) := by
  rcases builder with ⟨_ | ⟨⟨scope, children⟩, frames⟩, top⟩
  · exact h
  · cases scope with
    | item spread => simp [spreadItem, innermost]
    | _ => exact h

/-- **A construct with its children in it becomes a child itself.** -/
theorem close_pushAll_openScope (nodes : List Node) (scope : Scope) :
    ((builder.openScope scope).pushAll nodes).close = builder.push (scope.node nodes) := by
  rw [openScope, pushAll_frames, List.append_nil]
  change builder.push (scope.node nodes.reverse.reverse) = _
  rw [List.reverse_reverse]

@[simp] theorem innermost_pushAll (nodes : List Node) :
    (builder.pushAll nodes).innermost = builder.innermost := by
  induction nodes generalizing builder with
  | nil => rfl
  | cons node nodes ih => rw [pushAll_cons, ih, innermost_push]

/-- A construct that is reported between its beginning and its end becomes a child. -/
theorem run_finish {scope : Scope} (hscope : scope ≠ .paragraph true) {children : List Node}
    {report : List Event}
    (hreport : (builder.openScope scope).run report = (builder.openScope scope).pushAll children)
    (events : List Event) :
    (builder.openScope scope).run (report ++ .finish false :: events) =
      (builder.push (scope.node children)).run events := by
  have hopen : ((builder.openScope scope).pushAll children).innermost ≠ some (.paragraph true) := by
    rw [innermost_pushAll, innermost_openScope]
    exact fun h => hscope (Option.some.inj h)
  rw [run_append, hreport, run_cons, step, closeImplicit_eq hopen, close_pushAll_openScope]

/-- A tag of inline content opens its construct where no item is the innermost one. -/
theorem start_eq_of_inline {tag : Tag} (htag : tag.isBlock = false)
    (h : ∀ spread, builder.innermost ≠ some (.item spread)) :
    builder.start tag = builder.openScope (.ofTag tag) := by
  have hne : tag ≠ .paragraph := by
    rintro rfl
    contradiction
  simp only [start, htag, Bool.false_eq_true, if_false, if_neg hne]
  rw [ensureParagraph_eq h]

/-- A tag of a block other than a paragraph opens its construct behind an implicit paragraph. -/
theorem start_eq_of_block {tag : Tag} (htag : tag.isBlock = true) (hne : tag ≠ .paragraph) :
    builder.start tag = builder.closeImplicit.openScope (.ofTag tag) := by
  simp only [start, htag, if_true, if_neg hne]

/-- A paragraph that is reported spreads the item it is in. -/
theorem start_paragraph (h : builder.innermost ≠ some (.paragraph true)) :
    builder.start .paragraph = builder.spreadItem.openScope (.paragraph false) := by
  change builder.closeImplicit.spreadItem.openScope (.paragraph false) = _
  rw [closeImplicit_eq h]

end Builder

/-! ## Inline content -/

/-- Whether inline content becomes children of a construct directly. -/
def Scope.takesInline : Scope → Bool
  | .item _ | .code .. | .html _ => false
  | _ => true

section Inline

open Builder

variable {scope : Scope} {children : List Node} {frames : List Frame} {top : List Node}

/-- What takes inline content is no item. -/
theorem Scope.ne_item (hscope : scope.takesInline = true) (spread : Bool) :
    innermost ⟨⟨scope, children⟩ :: frames, top⟩ ≠ some (.item spread) := by
  intro h
  obtain rfl : scope = .item spread := Option.some.inj h
  contradiction

/-- A text behind something else is a node of its own. -/
theorem addText_eq {text : String} (hchildren : children.head?.any Node.isText = false) :
    addText text children = .leaf (.text text) :: children := by
  unfold addText
  split
  · contradiction
  · rfl

/-- A piece of text is added to the children of the innermost construct. -/
theorem Builder.pushText_ensureParagraph (hscope : scope.takesInline = true) (text : String) :
    pushText text (ensureParagraph ⟨⟨scope, children⟩ :: frames, top⟩) =
      ⟨⟨scope, addText text children⟩ :: frames, top⟩ := by
  rw [ensureParagraph_eq (scope.ne_item hscope)]
  cases scope with
  | item | code | html => contradiction
  | _ => rfl

/-! ### Texts -/

/-- A text goes on from piece to piece. -/
theorem TextReport.run_behind {rest : String} {events : List Event} (h : TextReport rest events)
    (hscope : scope.takesInline = true) (value : String) :
    run ⟨⟨scope, .leaf (.text value) :: children⟩ :: frames, top⟩ events =
      ⟨⟨scope, .leaf (.text (value ++ rest)) :: children⟩ :: frames, top⟩ := by
  induction h generalizing value with
  | nil => rw [String.append_empty, run_nil]
  | text piece h ih =>
      rw [run_cons, step, pushText_ensureParagraph hscope, addText, ih, String.append_assoc]
  | softBreak h ih =>
      rw [run_cons, step, pushText_ensureParagraph hscope, addText, ih, String.append_assoc]

/-- **A text becomes one child**, however many pieces it is reported in. -/
theorem TextReport.run_eq {value : String} {events : List Event} (h : TextReport value events)
    (hvalue : value ≠ "") (hscope : scope.takesInline = true)
    (hchildren : children.head?.any Node.isText = false) :
    run ⟨⟨scope, children⟩ :: frames, top⟩ events =
      ⟨⟨scope, .leaf (.text value) :: children⟩ :: frames, top⟩ := by
  cases h with
  | nil => contradiction
  | text piece h =>
      rw [run_cons, step, pushText_ensureParagraph hscope, addText_eq hchildren,
        h.run_behind hscope]
  | softBreak h =>
      rw [run_cons, step, pushText_ensureParagraph hscope, addText_eq hchildren,
        h.run_behind hscope]

/-- The texts in an image are its alternative text, which may be empty. -/
theorem TextReport.exists_run {alt : String} {events : List Event} (h : TextReport alt events)
    (hscope : scope.takesInline = true) (builder : Builder) :
    ∃ texts, (builder.openScope scope).run events = (builder.openScope scope).pushAll texts ∧
      Node.plainTexts texts = alt.toList := by
  cases h with
  | nil => exact ⟨[], rfl, rfl⟩
  | @text piece rest events h =>
      refine ⟨[.leaf (.text (piece ++ rest))], ?_, List.append_nil _⟩
      rw [run_cons, step, openScope, pushText_ensureParagraph hscope, addText_eq rfl,
        h.run_behind hscope]
      rfl
  | @softBreak rest events h =>
      refine ⟨[.leaf (.text ("\n" ++ rest))], ?_, List.append_nil _⟩
      rw [run_cons, step, openScope, pushText_ensureParagraph hscope, addText_eq rfl,
        h.run_behind hscope]
      rfl

/-! ### Nodes -/

/-- A title that is not empty is read as it is reported, and so is a missing one. -/
theorem nonEmpty_getD {title : Option String} (h : title ≠ some "") :
    nonEmpty (some (title.getD "")) = title := by
  cases title with
  | none => rfl
  | some title =>
      have hne : title.isEmpty = false := by
        rw [String.isEmpty_eq_false_iff]
        exact fun h' => h (congrArg some h')
      simp [nonEmpty, hne]

/-- The target of a reference is read as its form and its association. -/
theorem Target.RefersTo.ofLabel_eq {target : Target} {association : Association}
    {form : ReferenceForm} (h : target.RefersTo association form) :
    target.form.reference? = some form ∧ Association.ofLabel target.label = association := by
  constructor
  · rw [h.form]
    cases form <;> rfl
  · unfold Association.ofLabel
    rw [← h.label, ← h.identifier]

/-- Any other target is read as its resource, with the scheme of an email address added. -/
theorem Target.LeadsTo.resource_eq {target : Target} {resource : Resource}
    (h : target.LeadsTo resource) :
    target.form.reference? = none ∧
      (⟨if target.form == .email then "mailto:" ++ target.url else target.url,
        nonEmpty (some target.title)⟩ : Resource) = resource := by
  constructor
  · have hform := h.form
    simp only [List.mem_cons, List.not_mem_nil, or_false] at hform
    rcases hform with hform | hform | hform
    all_goals rw [hform]; rfl
  · have hurl : resource.url = if target.form ==
        .email then "mailto:" ++ target.url else target.url := by
      rw [h.url]
      cases target.form <;> simp
    rw [← hurl, ← h.title, nonEmpty_getD h.title_ne]

/-- The tag of a container of inline content begins that container. -/
theorem Container.InlineTag.ofTag_eq {content : Container} {tag : Tag} (h : content.InlineTag tag) :
    tag.isBlock = false ∧ Scope.ofTag tag = .container content := by
  cases h with
  | emphasis => exact ⟨rfl, rfl⟩
  | strong => exact ⟨rfl, rfl⟩
  | @link target resource h =>
      obtain ⟨hform, hresource⟩ := h.resource_eq
      refine ⟨rfl, ?_⟩
      rw [Scope.ofTag, Scope.ofLink, hform]
      exact congrArg (fun resource => Scope.container (.link resource)) hresource
  | @linkReference target association form h =>
      obtain ⟨hform, hlabel⟩ := h.ofLabel_eq
      refine ⟨rfl, ?_⟩
      rw [Scope.ofTag, Scope.ofLink, hform]
      exact congrArg (fun association => Scope.container (.linkReference association form)) hlabel

/-- The tag of an image begins a construct that takes the alternative text for its contents. -/
theorem Leaf.ImageTag.ofTag_eq {content : Leaf} {alt : String} {tag : Tag}
    (h : content.ImageTag alt tag) :
    tag.isBlock = false ∧ ∃ scope, Scope.ofTag tag = scope ∧ scope.takesInline = true ∧
      scope ≠ .paragraph true ∧ ∀ texts, Node.plainTexts texts = alt.toList →
      scope.node texts = .leaf content := by
  cases h with
  | @image target resource alt hform h =>
      obtain ⟨hreference, hresource⟩ := h.resource_eq
      rw [hform] at hresource
      refine ⟨rfl, .image resource, ?_, rfl, by simp, fun texts htexts => ?_⟩
      · rw [Scope.ofTag, Scope.ofImage, hreference]
        exact congrArg Scope.image hresource
      · rw [Scope.node, htexts, String.ofList_toList]
  | @imageReference target association form alt h =>
      obtain ⟨hform, hlabel⟩ := h.ofLabel_eq
      refine ⟨rfl, .imageReference association form, ?_, rfl, by simp, fun texts htexts => ?_⟩
      · rw [Scope.ofTag, Scope.ofImage, hform]
        exact congrArg (Scope.imageReference · form) hlabel
      · rw [Scope.node, htexts, String.ofList_toList]

/-- Leaves with events of their own are no texts. -/
theorem Leaf.isText_of_event {content : Leaf} {event : Event} (h : content.event? = some event) :
    (Node.leaf content).isText = false := by
  cases content with
  | text value => contradiction
  | _ => rfl

/-- Nor are images. -/
theorem Leaf.ImageTag.isText_eq {content : Leaf} {alt : String} {tag : Tag}
    (h : content.ImageTag alt tag) : (Node.leaf content).isText = false := by
  cases h <;> rfl

/-- A leaf with an event of its own becomes a child. -/
theorem Builder.step_leaf {content : Leaf} {event : Event} (hevent : content.event? = some event)
    {builder : Builder} (hbuilder : ∀ spread, builder.innermost ≠ some (.item spread)) :
    builder.step event = builder.push (.leaf content) := by
  cases content with
  | inlineCode value | html value | hardBreak =>
      obtain rfl := Option.some.inj hevent
      rw [step, ensureParagraph_eq hbuilder]
  | _ => contradiction

/-- **Inline content becomes children.** No text may stand where a text is added, as the two would
be one. -/
theorem InlineReport.run_eq {nodes : List Node} {events : List Event}
    (h : InlineReport nodes events) (hscope : scope.takesInline = true)
    (hchildren : children.head?.any Node.isText = false ∨ nodes.head?.any Node.isText = false) :
    run ⟨⟨scope, children⟩ :: frames, top⟩ events = pushAll nodes
      ⟨⟨scope, children⟩ :: frames, top⟩ := by
  induction h generalizing scope children frames with
  | nil => rfl
  | @text value rest report events hvalue htext hrest h ih =>
      have hlast : children.head?.any Node.isText = false :=
        hchildren.resolve_right (by simp [Node.isText])
      rw [run_append, htext.run_eq hvalue hscope hlast, ih hscope (.inr hrest)]
      rfl
  | @leaf content event rest events hevent h ih =>
      rw [run_cons, step_leaf hevent (scope.ne_item hscope)]
      exact ih hscope (.inl (Leaf.isText_of_event hevent))
  | @image content alt tag rest report events offset htag htext h ih =>
      obtain ⟨hinline, opened, hopened, htakes, hne, hnode⟩ := htag.ofTag_eq
      rw [run_cons, step, start_eq_of_inline hinline (scope.ne_item hscope), hopened]
      obtain ⟨texts, hrun, htexts⟩ := htext.exists_run htakes ⟨⟨scope, children⟩ :: frames, top⟩
      rw [run_finish hne hrun, hnode texts htexts]
      exact ih hscope (.inl htag.isText_eq)
  | @branch content tag inner rest report events offset htag hinner h ihinner ih =>
      obtain ⟨hinline, hopened⟩ := htag.ofTag_eq
      have hrun : (openScope (.container content) ⟨⟨scope, children⟩ :: frames, top⟩).run report =
          (openScope (.container content) ⟨⟨scope, children⟩ :: frames, top⟩).pushAll inner :=
            ihinner rfl (.inl rfl)
      rw [run_cons, step, start_eq_of_inline hinline (scope.ne_item hscope), hopened,
        run_finish (by simp) hrun]
      exact ih hscope (.inl rfl)

/-! ### Implicit paragraphs -/

/-- An implicit paragraph is begun by the first event of inline content, so it may as well be open
before it. -/
theorem InlineReport.run_ensureParagraph {nodes : List Node} {events : List Event}
    (h : InlineReport nodes events) (hne : nodes ≠ []) (builder : Builder) :
    builder.ensureParagraph.run events = builder.run events := by
  cases h with
  | nil => contradiction
  | text hvalue htext hrest h =>
      cases htext with
      | nil => contradiction
      | text piece htext => simp [step, ensureParagraph_ensureParagraph]
      | softBreak htext => simp [step, ensureParagraph_ensureParagraph]
  | @leaf content event rest events hevent h =>
      cases content with
      | inlineCode value | html value | hardBreak =>
          obtain rfl := Option.some.inj hevent
          simp [step, ensureParagraph_ensureParagraph]
      | _ => contradiction
  | image offset htag htext h =>
      simp [step, start, htag.ofTag_eq.1, ensureParagraph_ensureParagraph]
  | branch offset htag hinner h =>
      simp [step, start, htag.ofTag_eq.1, ensureParagraph_ensureParagraph]

/-- **Inline content in an item becomes an implicit paragraph**, which stays open behind it. -/
theorem InlineReport.run_item {nodes : List Node} {events : List Event}
    (h : InlineReport nodes events) (hne : nodes ≠ []) (spread : Bool) :
    run ⟨⟨.item spread, children⟩ :: frames, top⟩ events =
      ⟨⟨.paragraph true, nodes.reverse⟩ :: ⟨.item spread, children⟩ :: frames, top⟩ := by
  rw [← h.run_ensureParagraph hne]
  have hrun :=
    @InlineReport.run_eq (.paragraph true) [] (⟨.item spread, children⟩ :: frames) top _ _ h rfl
      (.inl rfl)
  rwa [pushAll_frames, List.append_nil] at hrun

end Inline

/-! ## Blocks -/

open Builder

/-- What the blocks of a row are to a builder. Tagged paragraphs spread the item they are in; the
last one of bare paragraphs may still be open behind them, and that is why none may come first where
one is open. -/
def Row.Rebuilds (nodes : List Node) (events : List Event) : Row → Prop
  | .tagged => ∀ builder : Builder, builder.innermost ≠ some (.paragraph true) →
      builder.run events = (if nodes.any Node.isParagraph then
        builder.spreadItem else builder).pushAll nodes
  | .bare =>
      ∀ (builder : Builder) (spread : Bool), builder.closeImplicit.innermost = some (.item spread) →
      (builder.innermost = some (.paragraph true) → nodes.head?.any Node.isParagraph = false) →
      (builder.run events).closeImplicit = builder.closeImplicit.pushAll nodes
  | .items => ∀ builder : Builder, builder.innermost ≠ some (.paragraph true) →
      builder.run events = builder.pushAll nodes

/-- A text that is reported in pieces is put together in the innermost construct. -/
theorem Builder.run_pieces {make : String → Scope} {say : String → Event} {frames : List Frame}
    {top : List Node}
    (hstep : ∀ value piece, step ⟨⟨make value, []⟩ :: frames, top⟩ (say piece) =
      ⟨⟨make (value ++ piece), []⟩ :: frames, top⟩)
    (value : String) (pieces : List String) :
    run ⟨⟨make value, []⟩ :: frames, top⟩ (pieces.map say) =
      ⟨⟨make (value ++ String.join pieces), []⟩ :: frames, top⟩ := by
  induction pieces generalizing value with
  | nil => simp
  | cons piece pieces ih =>
      rw [List.map_cons, run_cons, hstep, ih, String.join_cons, String.append_assoc]

/-- A construct whose text is reported in pieces becomes a child. -/
theorem Builder.run_pieces_finish {builder : Builder} {make : String → Scope} {say : String → Event}
    (hmake : ∀ value, make value ≠ .paragraph true)
    (hstep : ∀ value piece, step (builder.openScope (make value)) (say piece) =
      builder.openScope (make (value ++ piece))) (pieces : List String) :
    (builder.openScope (make "")).run (pieces.map say ++ [.finish false]) =
      builder.push ((make (String.join pieces)).node []) := by
  have hpieces : (builder.openScope (make "")).run (pieces.map say) =
      builder.openScope (make (String.join pieces)) := by
    have hrun := @run_pieces make say builder.frames builder.top hstep "" pieces
    rwa [String.empty_append] at hrun
  have hopen : (builder.openScope (make (String.join pieces))).innermost ≠ some (.paragraph true) :=
    fun h => hmake _ (Option.some.inj h)
  rw [run_append, hpieces, run_cons, run_nil, step, closeImplicit_eq hopen]
  rfl

/-- The text of code or of raw HTML is what is reported, without the line ending behind it. -/
theorem ofList_dropFinalLineEnding {value text : String} {ending : LineEnding}
    (hends : ending.StandsApart value.toList)
    (htext : text = value ++ String.ofList ending.toText) :
    String.ofList (dropFinalLineEnding text.toList) = value := by
  rw [htext, String.toList_append, String.toList_ofList, dropFinalLineEnding_append_iff.mpr hends,
    String.ofList_toList]

/-- A block that is reported apart from paragraphs is none. -/
theorem BlockReport.isParagraph_eq {ends : String → LineEnding → Prop} {node : Node}
    {events : List Event} (h : BlockReport ends node events) : node.isParagraph = false := by
  cases h <;> rfl

/-- A list is what its items say of it. -/
theorem Scope.node_list {style : ListStyle} {items : List Node}
    (hordered : style.ordered = style.start.isSome)
    (hstart : ∀ start ∈ style.start, start < startLimit)
    (hspread : style.spread = items.any fun item => item.spread? == some true) :
    Scope.node items (.list style.start) = .branch (.list style) items := by
  have hfilter : style.start.filter (· < startLimit) = style.start := by
    cases hnumber : style.start with
    | none => rfl
    | some start => simp [Option.filter, hstart start hnumber]
  have hitems : (items.any fun item => item.spread?.getD false) = style.spread := by
    rw [hspread]
    congr 1
    funext item
    cases item.spread? with
    | none => rfl
    | some spread => cases spread <;> rfl
  rw [Scope.node, hfilter, hitems, ← hordered]

/-- The end of an implicit paragraph makes it a child of the item around it. -/
theorem Builder.closeImplicit_paragraph (spread : Bool) (children siblings : List Node)
    (frames : List Frame) (top : List Node) :
    closeImplicit ⟨⟨.paragraph true, children.reverse⟩ :: ⟨.item spread, siblings⟩ :: frames, top⟩ =
      ⟨⟨.item spread, .branch .paragraph children :: siblings⟩ :: frames, top⟩ := by
  change push (.branch .paragraph children.reverse.reverse)
      ⟨⟨.item spread, siblings⟩ :: frames, top⟩ = _
  rw [List.reverse_reverse]
  rfl

namespace Row.Rebuilds

variable {row : Row} {children rest : List Node} {report events : List Event}

/-- A block in front of a row becomes the first child. -/
theorem block {node : Node} (hrow : row ≠ .items) (hparagraph : node.isParagraph = false)
    (hnode : ∀ builder : Builder, builder.run report = builder.closeImplicit.push node)
    (hrest : row.Rebuilds rest events) : row.Rebuilds (node :: rest) (report ++ events) := by
  cases row with
  | tagged =>
      intro builder hbuilder
      rw [run_append, hnode, closeImplicit_eq hbuilder, hrest _ (by simpa using hbuilder),
        spreadItem_push, List.any_cons, hparagraph, Bool.false_or, pushAll_cons]
      split <;> rfl
  | bare =>
      intro builder spread hitem hfirst
      have hopen : (builder.closeImplicit.push node).innermost = some (.item spread) := by
        rw [innermost_push, hitem]
      have hsettled :
          (builder.closeImplicit.push node).closeImplicit = builder.closeImplicit.push node :=
        closeImplicit_eq (by simp [hopen])
      rw [run_append, hnode, hrest _ spread (by rw [hsettled, hopen]) (by simp [hopen]), hsettled,
        pushAll_cons]
  | items => contradiction

/-- A paragraph that is reported as such spreads the item around it. -/
theorem paragraph (offset : Nat) (hchildren : InlineReport children report)
    (hrest : Rebuilds rest events .tagged) :
    Rebuilds (.branch .paragraph children :: rest)
      (.start .paragraph offset :: (report ++ .finish true :: events))
      .tagged := by
  intro builder hbuilder
  have hrun : (openScope (.paragraph false) builder.spreadItem).run report =
      (openScope (.paragraph false) builder.spreadItem).pushAll children :=
        hchildren.run_eq rfl (.inl rfl)
  rw [run_cons, step, start_paragraph hbuilder, run_append, hrun, run_cons, step,
    close_pushAll_openScope, hrest _ (by simpa using innermost_spreadItem hbuilder),
    spreadItem_push, spreadItem_spreadItem, ite_self]
  rfl

/-- A bare paragraph is left open by its contents and ended by what is behind it. -/
theorem bareParagraph (hne : children ≠ []) (hchildren : InlineReport children report)
    (hfirst : rest.head?.any Node.isParagraph = false) (hrest : Rebuilds rest events .bare) :
    Rebuilds (.branch .paragraph children :: rest) (report ++ events) .bare := by
  intro builder spread hitem hopen
  have hsettled : builder.closeImplicit = builder := closeImplicit_eq fun h =>
    Bool.noConfusion (hopen h)
  rw [hsettled] at hitem ⊢
  obtain ⟨_ | ⟨⟨scope, siblings⟩, frames⟩, top⟩ := builder
  · contradiction
  · obtain rfl : scope = .item spread := Option.some.inj hitem
    have hclosed := closeImplicit_paragraph spread children siblings frames top
    rw [run_append, hchildren.run_item hne, hrest _ spread (by rw [hclosed]; rfl) fun _ => hfirst,
      hclosed]
    rfl

/-- The blocks of an item, behind its beginning and in front of its end. -/
theorem close_item {spread : Bool} (h : (Row.ofItem spread).Rebuilds children report)
    (hspread : spread = true → children.any Node.isParagraph = true) (builder : Builder) :
    ((builder.openScope (.item false)).run report).closeImplicit.close =
      builder.push (.branch (.listItem spread) children) := by
  cases spread with
  | false =>
      rw [h _ false rfl (by simp)]
      exact close_pushAll_openScope children (.item false)
  | true =>
      have hspreads :
          (builder.openScope (.item false)).spreadItem = builder.openScope (.item true) := rfl
      rw [h _ (by simp), if_pos (hspread rfl), hspreads, closeImplicit_eq (by simp)]
      exact close_pushAll_openScope children (.item true)

/-- An item in front of others becomes the first child. -/
theorem item {spread : Bool} (offset : Nat)
    (hspread : spread = true → children.any Node.isParagraph = true)
    (hchildren : (Row.ofItem spread).Rebuilds children report)
    (hrest : Rebuilds rest events .items) :
    Rebuilds (.branch (.listItem spread) children :: rest)
      (.start .item offset :: (report ++ .finish false :: events)) .items := by
  intro builder hbuilder
  rw [run_cons, step, start_eq_of_block rfl (by simp), closeImplicit_eq hbuilder, run_append,
    run_cons, step]
  exact (congrArg (run · events) (hchildren.close_item hspread builder)).trans
    (hrest _ (by simpa using hbuilder))

end Row.Rebuilds

section Block

variable {ends : String → LineEnding → Prop}

mutual

/-- **A block becomes a child**, behind the implicit paragraph that was open before it. -/
theorem BlockReport.run_eq {node : Node} {events : List Event} (h : BlockReport ends node events)
    (hends : ∀ value ending, ends value ending → ending.StandsApart value.toList)
    (builder : Builder) : builder.run events = builder.closeImplicit.push node := by
  cases h with
  | thematicBreak offset => rfl
  | @heading depth children report offset hdepth h =>
      have hrun : (openScope (.container (.heading depth)) builder.closeImplicit).run report =
          (openScope (.container (.heading depth)) builder.closeImplicit).pushAll children :=
            h.run_eq rfl (.inl rfl)
      rw [run_cons, step, start_eq_of_block rfl (by simp)]
      exact run_finish (by simp) hrun []
  | @blockquote children report offset h =>
      have hrun :=
        h.rebuilds hends (openScope (.container .blockquote) builder.closeImplicit) (by simp)
      rw [spreadItem_eq (by simp), ite_self] at hrun
      rw [run_cons, step, start_eq_of_block rfl (by simp)]
      exact run_finish (by simp) hrun []
  | @code block info ending pieces offset hinfo hending htext =>
      have hscope : Scope.ofTag (.code info) = .code block.lang block.attributes "" := by
        obtain ⟨hlang, hattributes⟩ := Prod.mk.inj hinfo
        rw [hlang, hattributes]
        cases info <;> rfl
      rw [run_cons, step, start_eq_of_block rfl (by simp), hscope,
        @run_pieces_finish _ (.code block.lang block.attributes) _ (by simp) (fun _ _ => rfl),
        Scope.node, ofList_dropFinalLineEnding (hends _ _ hending) htext]
  | @html value ending pieces offset hending htext =>
      rw [run_cons, step, start_eq_of_block rfl (by simp), Scope.ofTag,
        @run_pieces_finish _ .html _ (by simp) (fun _ _ => rfl), Scope.node,
        ofList_dropFinalLineEnding (hends _ _ hending) htext]
  | @list style items report offset hordered hstart hspread h =>
      have hrun := h.rebuilds hends (openScope (.list style.start) builder.closeImplicit) (by simp)
      have hfinish := run_finish (by simp) hrun []
      rw [run_nil, Scope.node_list hordered hstart hspread] at hfinish
      rw [run_cons, step, start_eq_of_block rfl (by simp)]
      exact hfinish

/-- **Blocks become children one after the other.** -/
theorem RowReport.rebuilds {row : Row} {nodes : List Node} {events : List Event}
    (h : RowReport ends row nodes events)
    (hends : ∀ value ending, ends value ending → ending.StandsApart value.toList) :
    row.Rebuilds nodes events := by
  cases h with
  | nil =>
      cases row with
      | tagged => exact fun builder _ => rfl
      | bare => exact fun builder spread _ _ => rfl
      | items => exact fun builder _ => rfl
  | block hrow hnode h =>
      exact .block hrow hnode.isParagraph_eq (hnode.run_eq hends) (h.rebuilds hends)
  | paragraph offset hchildren h => exact .paragraph offset hchildren (h.rebuilds hends)
  | bareParagraph hne hchildren hrest h =>
      exact .bareParagraph hne hchildren hrest (h.rebuilds hends)
  | item offset hspread hchildren h =>
      exact .item offset hspread (hchildren.rebuilds hends) (h.rebuilds hends)

end

end Block

/-! ## Documents -/

/-- **A tree is what is reported of it.** However texts are cut into pieces, links are written and
blocks are placed, the builder puts the tree together again, if no line feed is the line ending
behind a text that ends with a carriage return. -/
theorem RowReport.finish_run {nodes : List Node} {events : List Event}
    (h : RowReport (fun value ending => ending.StandsApart value.toList) .tagged nodes events) :
    (events.foldl Builder.step {}).finish = .branch .root nodes := by
  have hrun : run {} events = pushAll nodes {} := by
    rw [h.rebuilds (fun _ _ => id) {} (by simp [innermost]), spreadItem_eq (by simp [innermost]),
      ite_self]
  rw [← run, hrun]
  rw [show pushAll nodes {} = ⟨[], nodes.reverse ++ []⟩ from pushAll_top nodes []]
  change Node.branch .root (nodes.reverse ++ []).reverse = _
  rw [List.append_nil, List.reverse_reverse]

/-- A tight item with a text over two lines, and code behind it. -/
def Node.tightNotes : List Node :=
  [.branch (.list {}) [.branch (.listItem false)
    [.branch .paragraph [.leaf (.text "a\nb"), .leaf .hardBreak], .leaf (.code { value := "c" })]]]

/-- What is reported of it. -/
def Event.tightNotes : List Event :=
  [.start (.list none) 0, .start .item 0, .text "a", .softBreak, .text "b", .hardBreak,
    .start (.code none) 8, .text "c\n", .finish false, .finish false, .finish false]

/-- Texts that end in half a line ending and items without paragraphs are built as they are
reported. -/
theorem finish_run_tightNotes :
    RowReport (fun value ending => ending.StandsApart value.toList) .tagged Node.tightNotes
        Event.tightNotes ∧
      (Event.tightNotes.foldl Builder.step {}).finish = .branch .root Node.tightNotes := by
  have hreport :
      RowReport (fun value ending => ending.StandsApart value.toList) .tagged Node.tightNotes
      Event.tightNotes := by
    have htext := TextReport.text "a" (.softBreak (.text "b" .nil))
    have hparagraph :=
      InlineReport.text (by simp) htext rfl (@InlineReport.leaf .hardBreak _ _ _ rfl .nil)
    have hcode :=
      @BlockReport.code (fun value ending => ending.StandsApart value.toList)
        { value := "c" } none .lf
      ["c\n"] 8 rfl (by simp [LineEnding.StandsApart]) rfl
    have hitem := RowReport.bareParagraph (by simp) hparagraph rfl (.block (by simp) hcode .nil)
    have hitems := @RowReport.item _ false _ _ _ _ 0 (by simp) hitem .nil
    exact .block (by simp) (@BlockReport.list _ {} _ _ 0 rfl (by simp) rfl hitems) .nil
  exact ⟨hreport, hreport.finish_run⟩

/-- **A carriage return and a line feed behind it are read as one line ending**, also where the text
of a code block ends with the carriage return. -/
theorem not_forall_finish_run :
    ¬ ∀ nodes events, RowReport (fun _ _ => True) .tagged nodes events →
      (events.foldl Builder.step {}).finish = .branch .root nodes := by
  intro h
  have hcode :=
    @BlockReport.code (fun _ _ => True) { value := "a\r" } (some "") .lf
      ["a\r", "\n"] 0 rfl trivial rfl
  have hvalue :=
    congrArg (fun node => node.children.head?.bind Node.value?)
      (h _ _ (.block (by simp) hcode .nil))
  exact absurd hvalue (by decide)

end MarkdownWriter
