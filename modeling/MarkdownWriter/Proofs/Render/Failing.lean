import MarkdownWriter.Proofs.Render.BuiltIn

/-!
# When a tree cannot be written

Without handlers and patterns of an extension only two things keep a tree from being written: a
choice of the style that is refused, and a custom node in the tree, for which there is no handler
(`Options.toMarkdown_outcome`).

* **Layouts** (`Container.failsFor_layout`): a layout fails for what its children fail for and for
  nothing else, because all it does around them is quiet.
* **Custom nodes** (`Writer.render_custom_eq`): they are refused, also one whose kind is called like
  a known one, which is then given to a handler that cannot write it.
* **Renderings** (`Writer.failsFor_render`): so a rendering fails for the custom nodes of the tree.
  The recursion is on the tree, together with the two ways in which children are written, and
  looking ahead goes along with it: it fails only for what the rendering of the same node fails for
  (`Writer.failsFor_peek`).
* **Styles** (`Writer.neverRefuses`, `Options.writer_eq_error`): a style that is accepted as a whole
  is never refused later, and one that is not keeps every tree from being written.
-/

namespace MarkdownWriter

/-! ## Layouts -/

open Render

section Layouts

variable {references : Text.References} {rules : List Rule} {site : Site} {met possible : List Node}
  {blocks : Blocks}
  {inline : Inline} {parent : Option Node}

/-- A layout fails for the custom nodes that the writing of the children in it fails for. -/
theorem Render.FailsFor.surrounds : Layout.Surrounds (FailsFor met possible) where
  quietly := fun haction hnext => haction.fails.quietly hnext
  andThen := fun haction hnext => haction.andThen fun value => (hnext value).fails
  entering := .entering
  isolated := .isolated

/-- **A container fails for what its children fail for**: it writes them, once, and nothing else in
it can fail. -/
theorem Container.failsFor_layout (hinline : ∀ site, FailsFor met possible (inline site))
    (hblocks : ∀ position, FailsFor met possible (blocks position)) {content : Container}
    {kind : Kind} (hkind : content.kind? = some kind) (children : List Node) :
    FailsFor met possible (content.layout references rules children parent site blocks inline) := by
  apply FailsFor.surrounds.container hkind (fun _ => hinline) (fun _ => hblocks)
  intro style _
  exact FailsFor.surrounds.list _ _ _ fun bullet outer =>
    .quietly (.modifying fun _ => rfl) fun _ => (hblocks _).andThen fun _ =>
      .quietly (.modifying fun _ => rfl) fun _ => .pure _

end Layouts

/-! ## Handlers -/

/-- With an accepted style the known kinds tell how their nodes begin without being refused. -/
theorem Kind.exists_peek_eq_ok (kind : Kind) (node : Node) {style : Style} (h : style.Provides) :
    ∃ first, kind.peek node style = .ok first := by
  cases kind with
  | emphasis =>
      obtain ⟨marker, hmarker⟩ := h.emphasis
      exact ⟨some marker, congrArg (some <$> ·) hmarker⟩
  | strong =>
      obtain ⟨marker, hmarker⟩ := h.strong
      exact ⟨some marker, congrArg (some <$> ·) hmarker⟩
  | link =>
      simp only [peek]
      split
      · exact ⟨_, rfl⟩
      · exact ⟨_, rfl⟩
  | _ => exact ⟨_, rfl⟩

/-- The handler for a name is that of the kind with the name. -/
theorem Handler.lookup_defaults_eq (name : String) :
    defaults.lookup name = (Kind.ofName? name).map Kind.handler := by
  unfold defaults Kind.ofName?
  induction Kind.all with
  | nil => rfl
  | cons kind kinds ih =>
      rw [List.map_cons, List.lookup_cons, List.find?_cons, ih, BEq.comm]
      cases kind.name == name <;> rfl

namespace Writer

variable {writer : Writer}

/-- Some rule or none decides what separates two blocks; nothing fails. -/
theorem failsFor_between (left right parent : Node) :
    FailsFor [] [] (writer.between left right parent) := by
  apply FailsFor.quietly .get
  intro state
  dsimp only
  split
  · exact .quietly (.modifying fun _ => rfl) fun _ => .pure _
  · exact .pure _

/-- To forget a marker does not fail. -/
theorem failsFor_forgetBullet (child : Node) : FailsFor [] [] (forgetBullet child) := by
  unfold forgetBullet
  split
  · exact .pure _
  · exact .modifying fun _ => rfl

section defaults

variable (hwriter : writer.handlers = Handler.defaults)

include hwriter

/-- With the handlers of the known kinds alone the name of a node tells its handler. -/
theorem handler_eq_of_defaults (node : Node) :
    writer.handler node =
      if node.kindName.isEmpty then .error (.invalidNode (String.ofList node.description))
      else
        match Kind.ofName? node.kindName with
        | some kind => .ok kind.handler
        | none => .error (.unknownNode node.kindName) := by
  have hlookup :
      writer.handlers.lookup node.kindName = (Kind.ofName? node.kindName).map Kind.handler := by
    rw [hwriter, Handler.lookup_defaults_eq]
  unfold handler
  simp only [hlookup]
  cases Kind.ofName? node.kindName <;> rfl

/-- A handler that is found is that of a known kind. -/
theorem exists_kind_of_handler {node : Node} {found : Handler}
    (h : writer.handler node = .ok found) : ∃ kind : Kind, found = kind.handler := by
  rw [handler_eq_of_defaults hwriter] at h
  split at h
  · contradiction
  · split at h
    · exact ⟨_, (Except.ok.inj h).symm⟩
    · contradiction

/-- **A custom node is refused**, whatever its kind is called. -/
theorem render_custom_eq {content : Container} (hcontent : content.kind? = none)
    (children : List Node) (parent : Option Node) (site : Site) :
    writer.render (.branch content children) parent site = throw
      (Node.branch content children).fault := by
  have hkind : (Node.branch content children).kind? = none := hcontent
  rw [render, plan, handler_eq_of_defaults hwriter]
  unfold Node.fault
  split
  · rfl
  · cases hname : Kind.ofName? (Node.branch content children).kindName with
    | none => rfl
    | some kind =>
        change (Plan.layout kind).run _ _ _ _ _ _ _ = _
        unfold Plan.run
        dsimp only
        rw [hkind, if_neg (Option.some_ne_none kind).symm]

/-- What can be written is of a known kind. -/
theorem exists_kind_of_render {node : Node} {parent : Option Node} {site : Site}
    {state after : State} {text : List Char}
    (h : writer.render node parent site state = (.ok text, after)) :
    ∃ kind, node.kind? = some kind := by
  cases node with
  | leaf content => exact ⟨content.kind, rfl⟩
  | branch content children =>
      cases hkind : content.kind? with
      | some kind => exact ⟨kind, hkind⟩
      | none =>
          rw [render_custom_eq hwriter hkind] at h
          cases congrArg Prod.fst h

/-- To see how a node begins may fail, but only for what its rendering fails for. -/
theorem failsFor_peek (node : Node) {met possible : List Node} {rendered : Render (List Char)}
    (h : FailsFor met possible rendered) : FailsFor [] possible (writer.peek node rendered) := by
  unfold peek
  split
  · exact .of_ok fun state => ⟨none, state, rfl, rfl⟩
  · next handler hhandler =>
      obtain ⟨kind, rfl⟩ := exists_kind_of_handler hwriter hhandler
      have hrendered : FailsFor [] possible rendered := h.mono (fun _ => rfl) (List.Subset.refl _)
      have hpeek {state : State} (hstyle : state.style.Provides) :
          ∃ first, kind.handler.peek node state = .ok first :=
        (kind.exists_peek_eq_ok node hstyle).imp fun _ => mapError_eq_ok.mpr
      apply FailsFor.quietly (.ofState hpeek)
      intro first
      split
      · exact .of_ok fun state => ⟨_, state, rfl, rfl⟩
      · exact hrendered.andThen fun _ => .pure _

end defaults

/-! ## The recursion -/

mutual

/-- **A rendering fails for the custom nodes of the tree**, and for nothing else. -/
theorem failsFor_render (hwriter : writer.handlers = Handler.defaults) (node : Node)
    (parent : Option Node) (site : Site) :
    FailsFor node.customs node.customs (writer.render node parent site) :=
  match node with
  | .leaf content => by
      have hkind : (Node.leaf content).kind? = some content.kind := rfl
      rw [(laysOut_of_defaults hwriter _).render_eq_layout hkind, Node.customs]
      exact content.quiet_layout.fails.mono id (List.nil_subset _)
  | .branch content children => by
      rw [Node.customs]
      cases hkind : content.kind? with
      | none =>
          rw [render_custom_eq hwriter hkind]
          exact .throw
      | some kind =>
          have hnode : (Node.branch content children).kind? = some kind := hkind
          rw [(laysOut_of_defaults hwriter kind).render_eq_layout hnode]
          have hinlines (site : Site) :
              FailsFor (Node.customsOfAll children) (Node.customsOfAll children)
                (writer.inlines (.branch content children) site) :=
            .counting (failsFor_inlinesFrom hwriter _ site children 0 _)
          have hblocks (position : Position) :
              FailsFor (Node.customsOfAll children) (Node.customsOfAll children)
                (writer.blocks (.branch content children) position) :=
            .counting (failsFor_blocksFrom hwriter _ children 0 position)
          exact Container.failsFor_layout hinlines hblocks hkind children

/-- Blocks fail for the custom nodes in any of them. -/
theorem failsFor_blocksFrom (hwriter : writer.handlers = Handler.defaults) (parent : Node)
    (children : List Node) (index : Nat) (position : Position) :
    FailsFor (Node.customsOfAll children) (Node.customsOfAll children)
      (blocksFrom writer parent children index position) :=
  match children with
  | [] => by
      rw [blocksFrom]
      exact .pure _
  | child :: rest => by
      rw [blocksFrom, Node.customsOfAll]
      refine .quietly (.goTo _) fun _ => .bind (failsFor_render hwriter child _ _) fun value => ?_
      refine .quietly (failsFor_forgetBullet child) fun _ => ?_
      cases rest with
      | nil => exact .pure _
      | cons next rest =>
          exact .quietly (failsFor_between _ _ _) fun _ =>
            (failsFor_blocksFrom hwriter parent (next :: rest) _ _).andThen fun _ => .pure _

/-- Inline content fails for those too, be they met in their turn or by looking ahead. -/
theorem failsFor_inlinesFrom (hwriter : writer.handlers = Handler.defaults) (parent : Node)
    (site : Site) (children : List Node) (index : Nat) (progress : Progress) :
    FailsFor (Node.customsOfAll children) (Node.customsOfAll children)
      (inlinesFrom writer parent site children index progress) :=
  match children with
  | [] => by
      rw [inlinesFrom]
      exact .pure _
  | [child] => by
      rw [inlinesFrom, Node.customsOfAll]
      exact .quietly (.goTo _) fun _ => .bind (failsFor_render hwriter child _ _) fun _ =>
        failsFor_inlinesFrom hwriter parent site [] _ _
  | child :: next :: rest => by
      rw [inlinesFrom, Node.customsOfAll]
      have hahead :=
        failsFor_peek hwriter next (failsFor_render hwriter next (some parent) ⟨[], [],
          progress.position⟩)
      have hchild (site : Site) := failsFor_render hwriter child (some parent) site
      have hrest (progress : Progress) :=
        failsFor_inlinesFrom hwriter parent site (next :: rest) (index + 1) progress
      refine .quietly (.goTo _) fun _ =>
        (hahead.bind fun after => (hchild _).bind fun value => hrest _).mono id ?_
      -- What is come by in looking ahead is in the next child, and that is written in its turn.
      rw [Node.customsOfAll]
      intro custom hcustom
      simp only [List.mem_append] at hcustom ⊢
      tauto

end

/-- No handler of a known kind, whatever node it is given and wherever, refuses a style, and neither
does a node that is written, or whose first character is asked for. The first character that a kind
tells is never refused at all. -/
structure NeverRefuses (writer : Writer) (style : Style) : Prop where
  kindPeek : ∀ (kind : Kind) (node : Node) (state : State) (refused : RenderError),
    state.style = style → kind.handler.peek node state ≠ .error refused
  renderAs : ∀ (kind : Kind) (node : Node) (parent : Option Node) (site : Site)
    (state : State) refused, state.style = style →
      (writer.renderAs kind node parent site state).1 ≠ .error (.style refused)
  render : ∀ (node : Node) (parent : Option Node) (site : Site) (state : State) refused,
    state.style = style → (writer.render node parent site state).1 ≠ .error (.style refused)
  peekAt : ∀ (node : Node) (parent : Option Node) (site : Site) (state : State) refused,
    state.style = style → (writer.peekAt node parent site state).1 ≠ .error (.style refused)

/-- With the library's own handlers a style that is accepted as a whole is never refused later. -/
theorem neverRefuses (hwriter : writer.handlers = Handler.defaults) {style : Style}
    (hstyle : style.validate = .ok ()) : writer.NeverRefuses style where
  kindPeek := fun kind node state refused hstate hpeek => by
    subst hstate
    obtain ⟨first, hfirst⟩ := kind.exists_peek_eq_ok node (Style.provides_of_validate hstyle)
    rw [show kind.handler.peek node state = .ok first from mapError_eq_ok.mpr hfirst] at hpeek
    contradiction
  renderAs := fun kind node parent site state refused hstate => by
    subst hstate
    by_cases hkind : node.kind? = some kind
    · rw [← (laysOut_of_defaults hwriter kind).render_eq hkind]
      exact (failsFor_render hwriter node parent site).ne_style hstyle refused
    · unfold Writer.renderAs Plan.run
      rw [if_neg hkind]
      exact Except.error.inj.mt RenderError.noConfusion
  render := fun node parent site state refused hstate => by
    subst hstate
    exact (failsFor_render hwriter node parent site).ne_style hstyle refused
  peekAt := fun node parent site state refused hstate => by
    subst hstate
    exact (failsFor_peek hwriter node (failsFor_render hwriter node parent site)).ne_style hstyle
      refused

end Writer

/-! ## Options -/

namespace Options

/-- The style that options come to. -/
def style (options : Options) : Style :=
  (options.appliedTo {}).style

variable {options : Options} {externals : Externals}

/-- The style does not depend on what the options are laid over, as long as that leaves every choice
open. -/
theorem style_appliedTo {base : Layer} (h : base.style = {}) :
    (options.appliedTo base).style = options.style := by
  unfold style
  rw [appliedTo_eq_overlaid, appliedTo_eq_overlaid, Layer.style_overlaid, Layer.style_overlaid]
  unfold Layer.firstStyle Layer.firstChoice
  rw [h]

/-- A refused style is the first thing that is reported. -/
theorem writer_eq_error {refused : StyleError} (h : options.style.validate = .error refused) :
    options.writer externals = .error (.style refused) := by
  unfold writer
  dsimp only
  rw [style_appliedTo rfl, h]
  rfl

/-- With an accepted style, and without handlers and patterns of an extension, there is a writer
with the library's own handlers. -/
theorem exists_writer_eq_ok (hhandlers : ∀ layer ∈ options.layers, layer.handlers = [])
    (hpatterns : ∀ layer ∈ options.layers, layer.patterns = [])
    (h : options.style.validate = .ok ()) :
    ∃ writer, options.writer externals = .ok (writer, { style := options.style }) ∧
      writer.handlers = Handler.defaults := by
  have hlayers : options.layers.flatMap Layer.handlers = [] := List.flatMap_eq_nil_iff.mpr hhandlers
  have hnone : options.layers.reverse.flatMap Layer.patterns = [] :=
    List.flatMap_eq_nil_iff.mpr fun layer hlayer => hpatterns layer (List.mem_reverse.mp hlayer)
  unfold writer
  dsimp only
  rw [style_appliedTo rfl, h, appliedTo_eq_overlaid, Layer.handlers_overlaid,
    Layer.patterns_overlaid, hlayers, hnone]
  exact ⟨_, rfl, rfl⟩

/-- A style that is not accepted keeps every tree from being written. -/
theorem toMarkdown_eq_error {refused : StyleError} (h : options.style.validate = .error refused)
    (tree : Node) :
    toMarkdown options tree externals = .error (.style refused) := by
  unfold toMarkdown writeTree
  rw [writer_eq_error h]
  rfl

/-- What a rendering of the whole tree comes to is what is reported. -/
theorem toMarkdown_eq_of_run {writer : Writer} {state after : State} {tree : Node}
    {result : Except RenderError (List Char)}
    (hwriter : options.writer externals = .ok (writer, state))
    (hrun : writer.render tree none (Writer.blockSite {}) state = (result, after)) :
    toMarkdown options tree externals = result.map fun text => String.ofList (terminated text) := by
  unfold toMarkdown writeTree
  rw [hwriter]
  dsimp only [bind, Except.bind]
  rw [hrun]
  cases result <;> rfl

/-- With an accepted style a tree is written if there is no custom node in it, and else one of them
is reported. -/
theorem toMarkdown_of_validate {writer : Writer} (hdefaults : writer.handlers = Handler.defaults)
    (hwriter : options.writer externals = .ok (writer, { style := options.style }))
    (h : options.style.validate = .ok ()) (tree : Node) :
    (tree.customs = [] ∧ ∃ text, toMarkdown options tree externals = .ok text) ∨
      ∃ custom ∈ tree.customs, toMarkdown options tree externals = .error custom.fault := by
  have hfails := Writer.failsFor_render hdefaults tree none (Writer.blockSite {})
  rcases hrun : writer.render tree none (Writer.blockSite {}) { style := options.style } with
      ⟨error | text, after⟩
  · obtain ⟨custom, hcustom, rfl⟩ := hfails.error hrun h
    exact .inr ⟨custom, hcustom, toMarkdown_eq_of_run hwriter hrun⟩
  · exact .inl ⟨hfails.ok hrun h, _, toMarkdown_eq_of_run hwriter hrun⟩

/-- **When a tree cannot be written.** Where no layer of the options adds handlers or patterns, a
tree can be written exactly if the style is accepted and no node in the tree is a custom one. A
style that is not accepted is reported as such, and a custom node as one that has no handler, that
has no kind, or that is not of the kind it is called by; then no handler ever refuses the style. -/
theorem toMarkdown_outcome (hhandlers : ∀ layer ∈ options.layers, layer.handlers = [])
    (hpatterns : ∀ layer ∈ options.layers, layer.patterns = []) (tree : Node) :
    ((∃ text, toMarkdown options tree externals = .ok text) ↔
        options.style.validate = .ok () ∧ tree.customs = []) ∧
      (∀ refused, options.style.validate = .error refused →
        toMarkdown options tree externals = .error (.style refused)) ∧
      (options.style.validate = .ok () →
        (tree.customs ≠ [] →
          ∃ custom ∈ tree.customs, toMarkdown options tree externals = .error custom.fault) ∧
        ∃ writer, options.writer externals = .ok (writer, { style := options.style }) ∧
          writer.NeverRefuses options.style) := by
  refine ⟨⟨fun ⟨text, htext⟩ => ?_, fun ⟨hvalid, hnone⟩ => ?_⟩,
    fun refused h => toMarkdown_eq_error h tree, fun hvalid => ?_⟩
  · cases hvalid : options.style.validate with
    | error refused =>
        rw [toMarkdown_eq_error hvalid] at htext
        contradiction
    | ok checked =>
        obtain ⟨writer, hwriter, hdefaults⟩ := exists_writer_eq_ok hhandlers hpatterns hvalid
        rcases toMarkdown_of_validate hdefaults hwriter hvalid tree with ⟨hnone, -⟩ |
            ⟨custom, -, herror⟩
        · exact ⟨rfl, hnone⟩
        · rw [herror] at htext
          contradiction
  · obtain ⟨writer, hwriter, hdefaults⟩ := exists_writer_eq_ok hhandlers hpatterns hvalid
    rcases toMarkdown_of_validate hdefaults hwriter hvalid tree with ⟨-, htext⟩ |
        ⟨custom, hcustom, -⟩
    · exact htext
    · rw [hnone] at hcustom
      exact absurd hcustom List.not_mem_nil
  · obtain ⟨writer, hwriter, hdefaults⟩ := exists_writer_eq_ok hhandlers hpatterns hvalid
    refine ⟨fun hsome => ?_, writer, hwriter, Writer.neverRefuses hdefaults hvalid⟩
    rcases toMarkdown_of_validate hdefaults hwriter hvalid tree with ⟨hnone, -⟩ | herror
    · exact absurd hnone hsome
    · exact herror

/-- A custom node that is called like a known kind keeps the quote around it from being written. -/
theorem toMarkdown_borrowedKind :
    let options : Options := .node { style := { bullet := some '+' } }
      [.node { style := { bullet := some '?' } } []]
    let tree : Node :=
      .branch .blockquote [.branch .paragraph [.branch .emphasis [.leaf (.text "a")],
      .branch (.custom "strong" none) [.leaf (.text "b")]]]
    (∀ layer ∈ options.layers, layer.handlers = []) ∧
      (∀ layer ∈ options.layers, layer.patterns = []) ∧
      toMarkdown options tree = .error (.mismatchedNode .strong "strong") := by
  intro options tree
  have hhandlers : ∀ layer ∈ options.layers, layer.handlers = [] := by
    simp [options, layers, layersOfAll]
  have hpatterns : ∀ layer ∈ options.layers, layer.patterns = [] := by
    simp [options, layers, layersOfAll]
  refine ⟨hhandlers, hpatterns, ?_⟩
  obtain ⟨custom, hcustom, hfault⟩ :=
    ((toMarkdown_outcome hhandlers hpatterns tree).2.2 (by decide)).1 (List.cons_ne_nil _ _)
  obtain rfl := List.mem_singleton.mp hcustom
  exact hfault

end Options

end MarkdownWriter
