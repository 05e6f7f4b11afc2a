import MarkdownWriter.Proofs.Escape.Labels
import MarkdownWriter.Proofs.Render.Failing
import MarkdownWriter.Proofs.Text.Runs

/-!
# Nodes without a text

A node can be written as nothing at all: an empty text, and a paragraph, a root or a list with
nothing but such nodes in it (`Node.isSilent`). Every other node has markup of its own, only a hard
break may vanish, and that behind whitespace alone. So behind anything else a node is written as
nothing exactly if it is silent (`Writer.render_eq_nil_iff`), and then nothing is seen of it by
looking ahead (`Writer.peekAt_eq_none_iff`).

* **All results** (`Render.Yields`): what is true of all that an action can give, whatever state it
  is taken in. There is one lemma for each way in which actions are put together.
* **Layouts** (`Leaf.layout_eq_nil_iff`, `Container.layout_eq_nil_iff`): kind by kind, a layout with
  markup of its own is never empty, and one without any is empty exactly if its children are.
* **Children** (`Writer.blocksFrom_eq_nil_iff`, `Writer.inlinesFrom_eq_nil_iff`): blocks have a
  separator between them, so only a single one can be written as nothing. Inline content is written
  behind progress that is open (`Progress.IsOpen`): no space or tab is in front of the first child,
  and so no hard break vanishes there.
-/

namespace MarkdownWriter

open Text

/-! ## Silent nodes -/

/-- Whether a leaf has an empty literal text and nothing around it. -/
def Leaf.isSilent : Leaf → Bool
  | .text value | .html value => value.isEmpty
  | _ => false

namespace Node

mutual

/-- Whether a node is written as nothing where no space or tab is in front of it. -/
def isSilent : Node → Bool
  | .leaf content => content.isSilent
  | .branch .paragraph children => areSilent children
  | .branch .root children => (children.any isPhrasing || children.length ≤ 1) && areSilent children
  | .branch (.list _) children => children.length ≤ 1 && areSilent children
  | .branch _ _ => false

/-- Whether all of several nodes are written as nothing. -/
def areSilent : List Node → Bool
  | [] => true
  | node :: nodes => node.isSilent && areSilent nodes

end

end Node

namespace Render

variable {α β : Type}

/-- All that an action gives has a property. -/
def Yields (action : Render α) (property : α → Prop) : Prop :=
  ∀ ⦃state value after⦄, action state = (.ok value, after) → property value

namespace Yields

variable {property property' : α → Prop} {action : Render α} {next : α → Render β}
  {result : β → Prop}

/-- What has a property has every weaker one. -/
theorem mono (h : Yields action property) (himp : ∀ value, property value → property' value) :
    Yields action property' :=
  fun _ _ _ hrun => himp _ (h hrun)

/-- A value is all that is given. -/
theorem pure {value : α} (h : property value) : Yields (Pure.pure value) property :=
  fun _ _ _ hrun => (pure_eq_ok.mp hrun).1 ▸ h

/-- An action that fails gives nothing. -/
theorem throw (error : RenderError) : Yields (MonadExcept.throw error) property :=
  fun _ _ _ hrun => by cases congrArg Prod.fst hrun

/-- What is given in the end depends on what was given before it. -/
theorem bind (haction : Yields action property)
    (hnext : ∀ value, property value → Yields (next value) result) :
    Yields (action >>= next) result := by
  intro state value after hrun
  obtain ⟨first, middle, hfirst, hrest⟩ := bind_eq_ok.mp hrun
  exact hnext first (haction hfirst) hrest

/-- Whatever the first action gives, it is the second one that matters. -/
theorem behind (hnext : ∀ value, Yields (next value) result) : Yields (action >>= next) result :=
  bind (show Yields action fun _ => True from fun _ _ _ _ => trivial) fun value _ => hnext value

/-- A look at the state gives what the state allows. -/
theorem ofState {check : State → Except RenderError α}
    (h : ∀ state value, check state = .ok value → property value) :
    Yields (Render.ofState check) property :=
  fun _ _ _ hrun => h _ _ (ofState_eq_ok.mp hrun).1

/-- A look at the style gives what the style allows. -/
theorem ofStyle {check : Style → Except StyleError α}
    (h : ∀ style value, check style = .ok value → property value) :
    Yields (Render.ofStyle check) property :=
  ofState fun state value hvalue => h state.style value (mapError_eq_ok.mp hvalue)

/-- An open construct makes no difference to what has to be shown. -/
theorem entering {construct : Construct} (h : Yields action property) :
    Yields (Render.entering construct action) property := by
  intro state value after hrun
  obtain ⟨middle, hmiddle, -⟩ := entering_eq_ok.mp hrun
  exact h hmiddle

/-- Nor does it when no construct is open. -/
theorem isolated (h : Yields action property) : Yields (Render.isolated action) property := by
  intro state value after hrun
  obtain ⟨middle, hmiddle, -⟩ := isolated_eq_ok.mp hrun
  exact h hmiddle

/-- Nor does one more index. -/
theorem counting (h : Yields action property) : Yields (Render.counting action) property := by
  intro state value after hrun
  obtain ⟨middle, hmiddle, -⟩ := counting_eq_ok.mp hrun
  exact h hmiddle

/-- A text that is never empty. -/
theorem loud {action : Render (List Char)} (h : Yields action (· ≠ [])) :
    Yields action fun text => text = [] ↔ false = true :=
  h.mono fun _ hne => iff_of_false hne Bool.false_ne_true

end Yields

end Render

/-! ## Layouts -/

/-- A text that is written line by line is only empty if its only line is written as nothing. -/
theorem Text.mapLines_ne_nil {f : Nat → List Char → List Char} {text : List Char}
    (h : (Lines.ofText text).rest = [] → f 0 (Lines.ofText text).first ≠ []) :
    mapLines f text ≠ [] := by
  unfold mapLines Lines.mapIdx Lines.toText
  intro hnil
  obtain ⟨hfirst, hrest⟩ := List.append_eq_nil_iff.mp hnil
  cases hlines : (Lines.ofText text).rest with
  | nil => exact h hlines hfirst
  | cons line lines =>
      rw [hlines] at hrest
      cases hending : line.1 <;> simp [List.mapIdx_cons, hending, LineEnding.toText] at hrest

open Render

section Layouts

variable {references : Text.References} {rules : List Rule} {site : Site} {blocks : Blocks}
  {inline : Inline}

namespace Layout

/-- A rule has at least three characters, as no shorter one is accepted. -/
theorem thematicBreak_ne_nil : Yields thematicBreak (· ≠ []) := by
  have hlength : Yields (Render.ofStyle Style.ruleLength) (3 ≤ ·) :=
    .ofStyle fun _ _ hcount => Style.le_of_ruleLength hcount
  refine .behind fun marker => .bind hlength fun count hcount => .behind fun state => .pure ?_
  obtain ⟨n, rfl⟩ := Nat.exists_eq_add_of_le' hcount
  split
  · simp [List.replicate_succ]
  · simp [List.replicate_succ]

/-- Code is indented line by line, and a value that is not empty has a line that is written. -/
theorem indentedCode_ne_nil {value : List Char} (h : value ≠ []) : indentedCode value ≠ [] := by
  refine mapLines_ne_nil fun hrest => ?_
  have hvalue := Lines.toText_ofText value
  unfold Lines.toText at hvalue
  rw [hrest, List.flatMap_nil, List.append_nil] at hvalue
  rw [hvalue]
  simp [codeIndent, h]

/-- Code is fenced unless it is indented, which it is only with a value. -/
theorem code_ne_nil (block : CodeBlock) : Yields (code rules block) (· ≠ []) := by
  refine .behind fun marker => .behind fun state => ?_
  dsimp only
  split
  · next hindented =>
      apply Yields.pure
      apply indentedCode_ne_nil
      intro hnil
      simp [CodeBlock.isIndented, hnil] at hindented
  · exact .behind fun opening => .pure (by simp)

/-- A destination is added to what is written already. -/
theorem destination_ne_nil (enclosed : Bool) (after url : List Char) {written : List Char}
    (h : written ≠ []) : Yields (destination rules enclosed after url written) (· ≠ []) := by
  unfold destination
  split
  · exact .entering (.behind fun _ => .pure (by simp))
  · exact .entering (.behind fun _ => .pure (by simp [h]))

/-- So is a title. -/
theorem title_ne_nil (quote : Char) (caption : Option String) {written : List Char}
    (h : written ≠ []) : Yields (title rules quote caption written) (· ≠ []) := by
  unfold title
  split
  · exact .pure h
  · exact .entering (.behind fun _ => .pure (by simp))

/-- A definition begins with a bracket. -/
theorem definition_ne_nil (label : List Char) (target : Resource) :
    Yields (definition rules label target) (· ≠ []) :=
  .behind fun _ => .entering (.behind fun _ =>
    .bind (destination_ne_nil _ _ _ (by simp)) fun _ hwritten => title_ne_nil _ _ hwritten)

/-- An image begins with its exclamation mark. -/
theorem image_ne_nil (target : Resource) (alt : List Char) :
    Yields (image rules target alt) (· ≠ []) :=
  .behind fun _ => .entering (.behind fun _ => .behind fun _ => .pure (by simp))

/-- What closes a reference drops at most the last two brackets. -/
theorem closeReference_ne_nil (form : ReferenceForm) (text label : List Char) {written : List Char}
    (h : 2 ≤ written.length) : Yields (closeReference rules form text label written) (· ≠ []) := by
  refine .behind fun escaped => ?_
  split
  · exact .pure (by simp)
  · split
    · refine .pure (List.ne_nil_of_length_pos ?_)
      rw [List.length_dropLast]
      omega
    · exact .pure (by simp)

/-- An image reference keeps its exclamation mark in every form. -/
theorem imageReference_ne_nil (label : List Char) (form : ReferenceForm) (alt : List Char) :
    Yields (imageReference rules label form alt) (· ≠ []) :=
  .entering (.behind fun _ => closeReference_ne_nil _ _ _ (by simp))

/-- A code span has its backticks, even around nothing. -/
theorem codeSpan_ne_nil (value : List Char) : codeSpan rules value ≠ [] := by
  obtain ⟨n, hn⟩ :=
    Nat.exists_eq_succ_of_ne_zero (Nat.ne_of_gt (shortestMissingRun_spec '\x60' value).1)
  simp [codeSpan, hn, List.replicate_succ]

/-- Where no space or tab is in front of it, a hard break leaves something behind. -/
theorem hardBreak_ne_nil (h : ∀ c ∈ site.before, isSpacing c = false) :
    Yields (hardBreak rules site) (· ≠ []) := by
  refine .behind fun state => ?_
  split
  · exact .pure (by simp)
  · split
    · next hspacing =>
        obtain ⟨c, hc, hspace⟩ := List.any_eq_true.mp hspacing
        exact absurd (h c hc) (by unfold isSpacing; simp [hspace])
    · exact .pure (by simp)

/-- A heading has number signs or an underline. -/
theorem heading_ne_nil (node : Node) (depth : Nat) :
    Yields (heading node depth site inline) (· ≠ []) := by
  obtain ⟨rank, hrank⟩ : ∃ n, headingRank depth = n + 1 :=
    Nat.exists_eq_succ_of_ne_zero (Nat.ne_of_gt (Nat.le_max_left 1 _))
  refine .behind fun state => ?_
  rw [hrank]
  split
  · exact .behind fun _ => .pure (by simp)
  · refine .behind fun value => .behind fun state => .pure ?_
    split
    · simp
    · split
      · simp [List.replicate_succ]
      · simp

/-- A quote marks its first line in any case. -/
theorem blockquote_ne_nil : Yields (blockquote site blocks) (· ≠ []) :=
  .entering (.behind fun _ => .pure (mapLines_ne_nil fun _ => by
    unfold quoteLine
    split
    · simp
    · simp))

/-- The marker of an item has its bullet or delimiter. -/
theorem itemMarker_ne_nil (increments : Bool) (bullet : Char) (parent : Option Node) (index : Nat) :
    (itemMarker increments bullet parent index).1 ≠ [] := by
  unfold itemMarker
  split
  · split
    · simp
    · simp
  · simp

/-- An item has at least its marker. -/
theorem listItem_ne_nil (spread : Bool) (parent : Option Node) :
    Yields (listItem spread parent site blocks) (· ≠ []) := by
  refine .behind fun state => ?_
  have hitem (bullet : Char) (size : Nat) (value : List Char) :
      mapLines (itemLine (itemMarker state.style.incrementsMarkers bullet parent
        (state.indexes.head?.getD 0)).1 size)
        value ≠ [] :=
    mapLines_ne_nil fun _ => by
      unfold itemLine
      rw [if_pos rfl]
      split
      · exact itemMarker_ne_nil _ _ _ _
      · simp [itemMarker_ne_nil]
  dsimp only
  split
  · exact .behind fun _ => .entering (.behind fun _ => .pure (hitem _ _ _))
  · exact .behind fun _ => .entering (.behind fun _ => .pure (hitem _ _ _))

/-- What stands between markers has those. -/
theorem delimited_ne_nil (construct : Construct) {marker : List Char} (h : marker ≠ []) :
    Yields (delimited construct marker site inline) (· ≠ []) :=
  .entering (.behind fun _ => .pure (by simp [h]))

/-- A link begins with a bracket of one kind or another. -/
theorem link_ne_nil (target : Resource) (children : List Node) :
    Yields (link rules target children site inline) (· ≠ []) := by
  refine .behind fun quote => .behind fun state => ?_
  split
  · exact .isolated (.entering (.behind fun _ => .pure (by simp)))
  · exact .entering (.behind fun _ => .behind fun _ => .pure (by simp))

/-- A link reference keeps its bracket in every form. -/
theorem linkReference_ne_nil (label : List Char) (form : ReferenceForm) :
    Yields (linkReference rules label form site inline) (· ≠ []) :=
  .entering (.behind fun _ => closeReference_ne_nil _ _ _ (by simp))

/-- A list is written as its items. -/
theorem list_yields {property : List Char → Prop}
    (h : ∀ position, Yields (blocks position) property)
    (style : ListStyle) (items : List Node) (hasParent : Bool) :
    Yields (list style items hasParent site blocks) property := by
  intro state value after hrun
  obtain ⟨bullet, middle, -, hblocks, -⟩ := list_eq_ok hrun
  exact h _ hblocks

end Layout

variable {parent : Option Node}

/-- A leaf is only written as nothing if it is a literal text without characters. -/
theorem Leaf.layout_eq_nil_iff (content : Leaf) (hbefore : ∀ c ∈ site.before, isSpacing c = false) :
    Yields (content.layout references rules site) fun text => text = [] ↔
      content.isSilent = true := by
  cases content with
  | thematicBreak => exact Yields.loud Layout.thematicBreak_ne_nil
  | html value => exact .pure (by simp [isSilent])
  | code block => exact Yields.loud (Layout.code_ne_nil _)
  | definition association target => exact Yields.loud (Layout.definition_ne_nil _ _)
  | text value => exact .behind fun state => .pure (by simp [escapeLiteral_eq_nil_iff, isSilent])
  | inlineCode value => exact Yields.loud (.pure (Layout.codeSpan_ne_nil _))
  | hardBreak => exact Yields.loud (Layout.hardBreak_ne_nil hbefore)
  | image target alt => exact Yields.loud (Layout.image_ne_nil _ _)
  | imageReference association form alt => exact Yields.loud (Layout.imageReference_ne_nil _ _ _)

/-- A container is only written as nothing if it has no markup of its own and nothing is written for
its children. -/
theorem Container.layout_eq_nil_iff {children : List Node}
    (hbefore : ∀ c ∈ site.before, isSpacing c = false)
    (hinline : ∀ site, (∀ c ∈ site.before, isSpacing c = false) →
      Yields (inline site) fun text => text = [] ↔ Node.areSilent children = true)
    (hblocks : ∀ position,
      Yields (blocks position) fun text => text = [] ↔ children.length ≤ 1 ∧
        Node.areSilent children = true)
    {content : Container} {kind : Kind} (hkind : content.kind? = some kind) :
    Yields (content.layout references rules children parent site blocks inline) fun text =>
      text = [] ↔ (Node.branch content children).isSilent = true := by
  cases content with
  | root =>
      simp only [layout, Node.isSilent, Bool.and_eq_true, Bool.or_eq_true, decide_eq_true_eq]
      split
      · next hphrasing => exact (hinline _ hbefore).mono fun text h => by simp [h, hphrasing]
      · next hphrasing => exact (hblocks _).mono fun text h => by simp [h, hphrasing]
  | paragraph =>
      rw [Node.isSilent]
      exact .entering (.entering (hinline _ hbefore))
  | heading depth => exact Yields.loud (Layout.heading_ne_nil _ _)
  | blockquote => exact Yields.loud Layout.blockquote_ne_nil
  | list style =>
      simp only [layout, Node.isSilent, Bool.and_eq_true, decide_eq_true_eq]
      exact Layout.list_yields hblocks _ _ _
  | listItem spread => exact Yields.loud (Layout.listItem_ne_nil _ _)
  | emphasis => exact Yields.loud (.behind fun _ => Layout.delimited_ne_nil _ (by simp))
  | strong => exact Yields.loud (.behind fun _ => Layout.delimited_ne_nil _ (by simp))
  | link target => exact Yields.loud (Layout.link_ne_nil _ _)
  | linkReference association form => exact Yields.loud (Layout.linkReference_ne_nil _ _)
  | custom name value => contradiction

end Layouts

namespace Writer

/-- Between two blocks there is at least a line ending. -/
theorem between_ne_nil {writer : Writer} (left right parent : Node) :
    Yields (writer.between left right parent) (· ≠ []) := by
  intro state separator after hrun
  have hseparator := writer.between_run left right parent state
  rw [hrun] at hseparator
  rw [Except.ok.inj hseparator]
  cases Join.decide writer.joins state left right parent with
  | blankLines count => exact List.cons_ne_nil _ _
  | interrupt => decide +kernel

/-! ## Inline content -/

/-- Progress in which the last character is that of the child in front, and no space or tab stands
before the first text that is written. -/
structure Progress.IsOpen (progress : Progress) : Prop where
  before : progress.written.flatten = [] → ∀ c ∈ progress.before, isSpacing c = false
  last : ∀ last ∈ progress.written.head?, progress.before = last.getLast?.toList

namespace Progress.IsOpen

variable {progress : Progress}

/-- Behind a text progress is open again. -/
theorem push (progress : Progress) (value : List Char) : (progress.push value).IsOpen where
  before := fun hnil c hc => by
    obtain ⟨rfl, -⟩ := List.append_eq_nil_iff.mp hnil
    contradiction
  last := fun last hlast => Option.some.inj hlast ▸ rfl

/-- A line ending that becomes a space in front of raw HTML was there before. -/
theorem prepare (h : progress.IsOpen) (child : Node) (start : Position) :
    (progress.prepare child start).IsOpen ∧
      ((progress.prepare child start).written.flatten = [] ↔ progress.written.flatten = []) := by
  unfold Progress.prepare Progress.joinLines
  split
  · split
    · next last earlier hwritten =>
        split
        · next hbreak =>
            have hlast : last ≠ [] := by
              rintro rfl
              rw [h.last [] (by rw [hwritten]; rfl)] at hbreak
              contradiction
            refine ⟨⟨fun hnil => ?_, fun other hother => ?_⟩, ?_⟩
            · simp at hnil
            · obtain rfl := Option.some.inj hother
              simp
            · simp [hwritten, hlast]
        · exact ⟨h, Iff.rfl⟩
    · exact ⟨h, Iff.rfl⟩
  · exact ⟨h, Iff.rfl⟩

/-- Where nothing is written so far, no space or tab is in front of a child. -/
theorem yields_child {writer : Writer} (h : progress.IsOpen) {child : Node} {parent : Option Node}
    {start : Position} {after : List Char}
    (hchild : ∀ site, (∀ c ∈ site.before, isSpacing c = false) →
      Yields (writer.render child parent site) fun text => text = [] ↔ child.isSilent = true) :
    Yields (writer.render child parent
        ⟨(progress.prepare child start).before, after, (progress.prepare child start).position⟩)
          fun text =>
      (progress.prepare child start).written.flatten = [] → (text = [] ↔ child.isSilent = true) :=
  fun _ _ _ hrun hnil => hchild _ ((h.prepare child start).1.before hnil) hrun

/-- What a child and those behind it are written as is empty if that holds of both. -/
theorem eq_nil_iff (h : progress.IsOpen) {child : Node} {start : Position} {value text : List Char}
    {rest : List Node}
    (hvalue : (progress.prepare child start).written.flatten = [] →
      (value = [] ↔ child.isSilent = true))
    (htext : text = [] ↔ ((progress.prepare child start).push value).written.flatten = [] ∧
      Node.areSilent rest = true) :
    text = [] ↔ progress.written.flatten = [] ∧ Node.areSilent (child :: rest) = true := by
  rw [htext, ← (h.prepare child start).2, Node.areSilent, Progress.push, List.flatten_cons,
    List.append_eq_nil_iff, Bool.and_eq_true]
  constructor
  · rintro ⟨⟨hnil, hwritten⟩, hrest⟩
    exact ⟨hwritten, (hvalue hwritten).mp hnil, hrest⟩
  · rintro ⟨hwritten, hsilent, hrest⟩
    exact ⟨⟨(hvalue hwritten).mpr hsilent, hwritten⟩, hrest⟩

end Progress.IsOpen

variable {writer : Writer}

/-! ## The recursion -/

mutual

/-- **What is written as nothing is silent**, where no space or tab is in front of it. -/
theorem render_eq_nil_iff (hwriter : writer.handlers = Handler.defaults) (node : Node)
    (parent : Option Node) (site : Site) (hbefore : ∀ c ∈ site.before, isSpacing c = false) :
    Yields (writer.render node parent site) fun text => text = [] ↔ node.isSilent = true :=
  match node with
  | .leaf content => by
      have hkind : (Node.leaf content).kind? = some content.kind := rfl
      rw [(laysOut_of_defaults hwriter _).render_eq_layout hkind, Node.isSilent]
      exact content.layout_eq_nil_iff hbefore
  | .branch content children => by
      cases hkind : content.kind? with
      | none =>
          rw [render_custom_eq hwriter hkind]
          exact .throw _
      | some kind =>
          have hnode : (Node.branch content children).kind? = some kind := hkind
          rw [(laysOut_of_defaults hwriter kind).render_eq_layout hnode]
          have hinline (site : Site) (hbefore : ∀ c ∈ site.before, isSpacing c = false) :
              Yields (writer.inlines (.branch content children) site) fun text =>
                text = [] ↔ Node.areSilent children = true :=
            .counting ((inlinesFrom_eq_nil_iff hwriter _ site children 0 ⟨[], site.before,
              site.position⟩
              ⟨fun _ => hbefore, fun _ hlast => nomatch hlast⟩).mono fun text h => by simp [h])
          have hblocks (position : Position) :
              Yields (writer.blocks (.branch content children) position) fun text =>
                text = [] ↔ children.length ≤ 1 ∧ Node.areSilent children = true :=
            .counting (blocksFrom_eq_nil_iff hwriter _ children 0 position)
          exact Container.layout_eq_nil_iff hbefore hinline hblocks hkind

/-- Two blocks have a separator between them, so only a single one can be written as nothing. -/
theorem blocksFrom_eq_nil_iff (hwriter : writer.handlers = Handler.defaults) (parent : Node)
    (children : List Node) (index : Nat) (position : Position) :
    Yields (blocksFrom writer parent children index position) fun text =>
      text = [] ↔ children.length ≤ 1 ∧ Node.areSilent children = true :=
  match children with
  | [] => by
      rw [blocksFrom]
      exact .pure (by simp [Node.areSilent])
  | [child] => by
      rw [blocksFrom]
      have hchild := render_eq_nil_iff hwriter child (some parent) (blockSite position)
        fun c hc => by rw [List.mem_singleton.mp hc]; rfl
      exact .behind fun _ => .bind hchild fun value hvalue => .behind fun _ =>
        .pure (by simp [hvalue, Node.areSilent])
  | child :: next :: rest => by
      rw [blocksFrom]
      refine .behind fun _ => .behind fun value => .behind fun _ => ?_
      exact .bind (between_ne_nil _ _ _) fun separator hne => .behind fun following =>
        .pure (by simp [hne])

/-- Inline content is written as nothing if all of it is silent. -/
theorem inlinesFrom_eq_nil_iff (hwriter : writer.handlers = Handler.defaults) (parent : Node)
    (site : Site) (children : List Node) (index : Nat) (progress : Progress)
    (hprogress : progress.IsOpen) :
    Yields (inlinesFrom writer parent site children index progress) fun text =>
      text = [] ↔ progress.written.flatten = [] ∧ Node.areSilent children = true :=
  match children with
  | [] => by
      rw [inlinesFrom]
      exact .pure (by simp [Node.areSilent])
  | [child] => by
      rw [inlinesFrom]
      exact .behind fun _ =>
        .bind (hprogress.yields_child (render_eq_nil_iff hwriter child _)) fun value hvalue =>
        (inlinesFrom_eq_nil_iff hwriter parent site [] _ _ (.push _ value)).mono fun text htext =>
          hprogress.eq_nil_iff hvalue htext
  | child :: next :: rest => by
      rw [inlinesFrom]
      exact .behind fun _ => .behind fun after =>
        .bind (hprogress.yields_child (render_eq_nil_iff hwriter child _)) fun value hvalue =>
          (inlinesFrom_eq_nil_iff hwriter parent site (next :: rest) _ _ (.push _ value)).mono
            fun text htext =>
            hprogress.eq_nil_iff hvalue htext

end

/-! ## Looking ahead -/

/-- A kind that tells how its nodes begin has markup of its own. -/
theorem isSilent_of_kindPeek {node : Node} {kind : Kind} (hkind : node.kind? = some kind)
    (hhtml : node.isHtml = false) {style : Style} {c : Char}
    (h : kind.peek node style = .ok (some c)) : node.isSilent = false := by
  cases node with
  | leaf content =>
      obtain rfl := Option.some.inj hkind
      cases content with
      | text value => cases h
      | html value => contradiction
      | _ => rfl
  | branch content children =>
      cases content with
      | root | paragraph | list style =>
          obtain rfl := Option.some.inj hkind
          cases h
      | _ => rfl

/-- **What nothing is seen of is silent.** A known node that is no raw HTML, which always begins
with its angle bracket, is seen to begin with no character exactly if it is silent. -/
theorem peekAt_eq_none_iff (hwriter : writer.handlers = Handler.defaults) {node : Node}
    {kind : Kind} (hkind : node.kind? = some kind) (hhtml : node.isHtml = false)
    (parent : Option Node) {site : Site} (hbefore : ∀ c ∈ site.before, isSpacing c = false) :
    Yields (writer.peekAt node parent site) fun first => first = none ↔ node.isSilent = true := by
  have hknown : Yields (Render.ofState (kind.handler.peek node)) fun first =>
      ∀ c, first = some c → node.isSilent = false :=
    .ofState fun state first hfirst c hc =>
      isSilent_of_kindPeek hkind hhtml (hc ▸ mapError_eq_ok.mp hfirst)
  unfold peekAt peek
  rw [(laysOut_of_defaults hwriter kind).handler_eq hkind]
  refine .bind hknown fun first hfirst => ?_
  cases first with
  | some c => exact .pure (by simp [hfirst c rfl])
  | none =>
      exact .bind (render_eq_nil_iff hwriter node parent site hbefore) fun text htext =>
        .pure (by rw [List.head?_eq_none_iff, htext])

end Writer

end MarkdownWriter
