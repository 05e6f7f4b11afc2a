import MarkdownWriter.Proofs.Render.Frames

/-!
# Reported positions

A handler is told the position its text will land at before the margins of the containers around it
are written. In a tree of roots, block quotes, lists and list items whose leaves are left to
handlers, every text is where its handler was told it would be (`Writer.Fills.exists_reported`).

What handlers are asked is no part of a rendering: it is known from what the rendering depends on.
`Call` is a question with its answer, and a list of calls is all that is asked if every writer that
gives these answers writes the same (`Writer.AgreesOn`).
-/

namespace MarkdownWriter

open Render Text

/-! ## Calls -/

/-- What the handler of a node was asked, and the text it answered, with the state it left. -/
structure Call where
  node : Node
  parent : Option Node
  site : Site
  state : State
  text : List Char
  after : State

/-- The text of a call, at the position that was told. -/
def Call.placed (call : Call) : Placed :=
  ⟨call.site.position, call.text⟩

namespace Writer

/-- A writer whose handler gives the answer of a call. -/
def Answers (writer : Writer) (call : Call) : Prop :=
  ∃ handler, writer.handler call.node = .ok handler ∧
    writer.answer handler call.node call.parent call.site call.state = (.ok call.text, call.after)

/-- A writer that has the library's own handlers for roots, block quotes, lists and list items. -/
def LaysOutNests (writer : Writer) : Prop :=
  ∀ kind ∈ [Kind.root, .blockquote, .list, .listItem], writer.LaysOut kind

theorem LaysOutNests.list {writer : Writer} (h : writer.LaysOutNests) : writer.LaysOut .list :=
  h .list (by simp)

theorem LaysOutNests.listItem {writer : Writer} (h : writer.LaysOutNests) :
    writer.LaysOut .listItem :=
  h .listItem (by simp)

/-- A writer that separates blocks as another one does, and answers the same to some calls. -/
structure AgreesOn (other writer : Writer) (calls : List Call) : Prop where
  nests : other.LaysOutNests
  joins : other.joins = writer.joins
  answers : ∀ call ∈ calls, other.Answers call

/-- To agree on some calls and on others is to agree on all of them. -/
theorem agreesOn_append_iff {other writer : Writer} {calls calls' : List Call} :
    other.AgreesOn writer (calls ++ calls') ↔ other.AgreesOn writer calls ∧
      other.AgreesOn writer calls' := by
  constructor
  · rintro ⟨hnests, hjoins, hanswers⟩
    obtain ⟨hfirst, hothers⟩ := List.forall_mem_append.mp hanswers
    exact ⟨⟨hnests, hjoins, hfirst⟩, ⟨hnests, hjoins, hothers⟩⟩
  · rintro ⟨hfirst, hothers⟩
    exact ⟨hfirst.nests, hfirst.joins, List.forall_mem_append.mpr ⟨hfirst.answers, hothers.answers⟩⟩

end Writer

/-! ## Leaves -/

/-- A text that begins with a row that is not blank, and is cut into rows by `\n` only. -/
structure IsSolid (text : List Char) : Prop where
  ne_nil : text ≠ []
  head : text.head? ≠ some '\n'
  free : '\r' ∉ text

/-- A single line that is not empty is solid. -/
theorem IsSolid.of_free {text : List Char} (hne : text ≠ [])
    (h : ∀ c ∈ text, isLineBreak c = false) : IsSolid text :=
  ⟨hne, fun hhead => absurd (h _ (List.mem_of_mem_head? hhead)) (by decide),
    fun hcr => absurd (h _ hcr) (by decide)⟩

/-- The first row of a solid text is not empty. -/
theorem IsSolid.head?_rows {text : List Char} (h : IsSolid text) : (rows text).head? ≠ some [] := by
  cases text with
  | nil => exact absurd rfl h.ne_nil
  | cons c text =>
      have hc : ¬ isLineBreak c = true := by
        rw [isLineBreak_iff]
        rintro (rfl | rfl)
        · exact h.head rfl
        · exact h.free List.mem_cons_self
      obtain ⟨first, others, hrows⟩ := List.exists_cons_of_ne_nil (rows_ne_nil text)
      rw [rows_cons, if_neg hc, hrows]
      simp

mutual

/-- The nodes in a nest of blocks that are not part of the nest themselves, in order. -/
def Node.leaves : Node → List Node
  | .leaf content => [.leaf content]
  | .branch content children =>
      if content.nest?.isSome then Node.leavesOf children else [.branch content children]

/-- The leaves of several nodes. -/
def Node.leavesOf : List Node → List Node
  | [] => []
  | node :: nodes => node.leaves ++ Node.leavesOf nodes

end

/-- A nest of blocks down to custom nodes, for each of which the writer has a handler that answers
with a solid text wherever the node is written in an accepted style. -/
inductive Writer.Fills (writer : Writer) : Node → Prop
  | leaf {kind : String} {value : Option String} {children : List Node} {handler : Handler}
      (hhandler : writer.handler (.branch (.custom kind value) children) = .ok handler)
      (htext : ∀ parent state site, state.style.validate = .ok () → ∃ text after,
        writer.answer handler (.branch (.custom kind value) children) parent site state =
          (.ok text, after) ∧ IsSolid text) :
      writer.Fills (.branch (.custom kind value) children)
  | nest {content : Container} {children : List Node} (hcontent : content.nest?.isSome = true)
      (hchildren : ∀ child ∈ children, writer.Fills child) : writer.Fills (.branch content children)

/-- There is no inline content in a nest of blocks. -/
theorem Writer.Fills.isPhrasing_eq_false {writer : Writer} {node : Node} (h : writer.Fills node) :
    node.isPhrasing = false := by
  cases h with
  | leaf => rfl
  | @nest content children hcontent =>
      cases content with
      | root | blockquote | list _ | listItem _ => rfl
      | _ => contradiction

/-! ## Reports -/

/-- What an action of a writer comes to whose text begins at a position: the calls of the leaves in
order, and a value in which their texts stand. -/
structure Writer.Reports (writer : Writer) (action : Writer → Render (List Char))
    (position : Position) (state : State) (leaves : List Node) (calls : List Call)
    (value : List Char) (after : State) : Prop where
  run : ∀ other : Writer, other.AgreesOn writer calls → action other state = (.ok value, after)
  answers : ∀ call ∈ calls, writer.Answers call
  nodes : calls.map Call.node = leaves
  solid : ∀ call ∈ calls, IsSolid call.text
  free : '\r' ∉ value
  stands : Stands position.lineShift position.line position.column (rows value)
    (calls.map Call.placed)

namespace Writer

variable {writer : Writer}

/-- Wherever a node is written in a settled state, it can be written, and its leaves are reported.
-/
def IsReported (writer : Writer) (node : Node) : Prop :=
  ∀ parent position state, state.Settled → ∃ calls value after,
    writer.Reports (fun other => other.render node parent (blockSite position)) position state
      node.leaves calls value
      after

/-- The text between two blocks ends a line, and ends the one it begins in too if there is more of
it. -/
theorem exists_separator_eq (join : Join) :
    ∃ middle, join.separator = middle ++ ['\n'] ∧ '\r' ∉ middle ∧
      (middle = [] ∨ ∃ rest, middle = '\n' :: rest) := by
  cases join with
  | blankLines count =>
      refine ⟨List.replicate count '\n', List.replicate_succ', ?_, ?_⟩
      · intro hmem
        exact absurd (List.eq_of_mem_replicate hmem) (by decide)
      · cases count with
        | zero => exact .inl rfl
        | succ count => exact .inr ⟨_, rfl⟩
  | interrupt =>
      exact ⟨"\n\n<!---->\n".toList, rfl, by decide, .inr ⟨"\n<!---->\n".toList, rfl⟩⟩

/-- What is between blocks depends on the join rules alone. -/
theorem between_congr {other : Writer} (hjoins : other.joins = writer.joins)
    (left right parent : Node) :
    other.between left right parent = writer.between left right parent := by
  unfold between
  rw [hjoins]

/-- A handler that is told a position answers with a text that begins there. -/
theorem isReported_leaf {kind : String} {custom : Option String} {children : List Node}
    {handler : Handler}
    (hhandler : writer.handler (.branch (.custom kind custom) children) = .ok handler)
    (htext : ∀ parent state site, state.style.validate = .ok () → ∃ text after,
      writer.answer handler (.branch (.custom kind custom) children) parent site state =
        (.ok text, after) ∧ IsSolid text) :
    writer.IsReported (.branch (.custom kind custom) children) := by
  intro parent position state hstate
  obtain ⟨text, after, hanswer, hsolid⟩ := htext parent state (blockSite position) hstate.style
  refine ⟨[⟨.branch (.custom kind custom) children, parent, blockSite position, state, text,
    after⟩], text, after, ?_⟩
  constructor
  · intro other hother
    obtain ⟨found, hfound, hrun⟩ := hother.answers _ (List.mem_singleton_self _)
    rw [render_eq_answer hfound]
    exact hrun
  · intro call hcall
    obtain rfl := List.mem_singleton.mp hcall
    exact ⟨handler, hhandler, hanswer⟩
  · rfl
  · intro call hcall
    obtain rfl := List.mem_singleton.mp hcall
    exact hsolid
  · exact hsolid.free
  · exact .single position text

section children

variable {parent child next : Node} {others : List Node} {index : Nat} {position : Position}
  {state middle : State}
  {calls : List Call} {value : List Char}
variable (hchild : writer.Reports (fun other =>
  other.render child (some parent) (blockSite position)) position
  { state with indexes := state.indexes.modifyHead fun _ => index } child.leaves calls value middle)

include hchild

/-- The last block. -/
theorem Reports.singleton :
    writer.Reports (fun other => blocksFrom other parent [child] index position) position state
      (Node.leavesOf [child])
      calls value { middle with
        bulletLastUsed := if child.isList then middle.bulletLastUsed else none } := by
  refine ⟨fun other hother => ?_, hchild.answers, ?_, hchild.solid, hchild.free, hchild.stands⟩
  · rw [blocksFrom, bind_run_ok (goTo_run _ _), bind_run_ok (hchild.run other hother),
      bind_run_ok (forgetBullet_run _ _)]
    rfl
  · rw [Node.leavesOf, Node.leavesOf, List.append_nil, hchild.nodes]

/-- A block, and those behind it. -/
theorem Reports.cons {behind after : State} {between value' : List Char} {calls' : List Call}
    (hbetween : writer.between child next parent
      { middle with bulletLastUsed := if child.isList then middle.bulletLastUsed else none } =
        (.ok (between ++ ['\n']), behind))
    (hfree : '\r' ∉ between) (hfirst : between = [] ∨ ∃ rest, between = '\n' :: rest)
    (hothers : writer.Reports (fun other => blocksFrom other parent (next :: others) (index + 1)
      ((position.advance value).advance (between ++ ['\n'])))
        ((position.advance value).advance (between ++ ['\n']))
        behind (Node.leavesOf (next :: others)) calls' value' after) :
    writer.Reports (fun other => blocksFrom other parent (child :: next :: others) index position)
      position state
      (Node.leavesOf (child :: next :: others)) (calls ++ calls')
        (value ++ (between ++ ['\n']) ++ value') after where
  run := fun other hother => by
    obtain ⟨hown, hbehind⟩ := agreesOn_append_iff.mp hother
    rw [blocksFrom, bind_run_ok (goTo_run _ _), bind_run_ok (hchild.run other hown),
      bind_run_ok (forgetBullet_run _ _)]
    dsimp only [List.head?_cons]
    rw [between_congr hother.joins, bind_run_ok hbetween, bind_run_ok (hothers.run other hbehind)]
    rfl
  answers := List.forall_mem_append.mpr ⟨hchild.answers, hothers.answers⟩
  nodes := by
    rw [List.map_append, hchild.nodes, hothers.nodes]
    rfl
  solid := List.forall_mem_append.mpr ⟨hchild.solid, hothers.solid⟩
  free := by simp [hchild.free, hfree, hothers.free]
  stands := by
    have hstands := hothers.stands
    rw [Position.lineShift_advance, Position.lineShift_advance] at hstands
    rw [List.map_append]
    exact hchild.stands.separated hchild.free hfree hfirst hstands

end children

section blocks

variable {children : List Node} (hwriter : writer.LaysOutNests)
variable (hchildren : ∀ child ∈ children, writer.IsReported child)

include hwriter hchildren

/-- Blocks are written one after the other, each further down. -/
theorem exists_reports_blocksFrom (parent : Node) (index : Nat) (position : Position)
    {state : State} (hstate : state.Settled) :
    ∃ calls value after,
      writer.Reports (fun other => blocksFrom other parent children index position) position state
      (Node.leavesOf children) calls value after := by
  induction children generalizing index position state with
  | nil =>
      refine ⟨[], [], state, fun other _ => by rw [blocksFrom]; rfl, ?_, rfl, ?_, List.not_mem_nil,
        .nil⟩
      · exact fun _ hcall => absurd hcall List.not_mem_nil
      · exact fun _ hcall => absurd hcall List.not_mem_nil
  | cons child rest ih =>
      obtain ⟨hfirst, hrest⟩ := List.forall_mem_cons.mp hchildren
      have hstart :
          State.Settled { state with indexes := state.indexes.modifyHead fun _ => index } :=
        ⟨hstate.style, hstate.bullet⟩
      obtain ⟨calls, value, middle, hchild⟩ := hfirst (some parent) position _ hstart
      cases rest with
      | nil => exact ⟨calls, value, _, hchild.singleton⟩
      | cons next others =>
          have hmiddle := hstart.restored (restores_render writer child _ _).surroundings
            (hchild.run writer ⟨hwriter, rfl, hchild.answers⟩)
          have hforgotten :=
            hmiddle.restored (restores_forgetBullet child).surroundings (forgetBullet_run _ _)
          obtain ⟨behind, hbetween, -⟩ := writer.exists_between child next parent
            { middle with bulletLastUsed := if child.isList then middle.bulletLastUsed else none }
          have hbehind :=
            hforgotten.restored (restores_between writer child next parent).surroundings hbetween
          obtain ⟨between, hseparator, hfree, hopening⟩ :=
            exists_separator_eq (Join.decide writer.joins
            { middle with bulletLastUsed := if child.isList then middle.bulletLastUsed else none }
              child next parent)
          rw [hseparator] at hbetween
          obtain ⟨calls', value', after, hothers⟩ := ih hrest (index + 1)
            ((position.advance value).advance (between ++ ['\n'])) hbehind
          exact ⟨calls ++ calls', _, after, hchild.cons hbetween hfree hopening hothers⟩

/-- **A frame moves what its blocks report.** -/
theorem isReported_nest {content : Container} (hcontent : content.nest?.isSome = true)
    (hphrasing : children.any Node.isPhrasing = false) :
    writer.IsReported (.branch content children) := by
  intro parent position state hstate
  obtain ⟨width, line, start, finish, hline, hstart, hframe⟩ :=
    Container.isFrame_layout hcontent hphrasing hstate
    writer.references writer.rules parent (blockSite position)
      (writer.inlines (.branch content children))
  obtain ⟨calls, value, after, hblocks⟩ :=
    @exists_reports_blocksFrom writer children hwriter hchildren
    (.branch content children) 0 ⟨position.line, position.column + width,
      position.lineShift + width⟩
    { start with indexes := 0 :: start.indexes } ⟨hstart.style, hstart.bullet⟩
  obtain ⟨hrows, hfree⟩ := hline.rows_mapLines hblocks.free
  refine ⟨calls, mapLines line value, finish { after with indexes := after.indexes.tail },
    fun other hother => ?_, hblocks.answers, ?_, hblocks.solid, hfree, ?_⟩
  · obtain ⟨kind, hkind, hlaysOut⟩ : ∃ kind, (Node.branch content children).kind? = some kind ∧
        other.LaysOut kind := by
      cases content with
      | root | blockquote | list _ | listItem _ => exact ⟨_, rfl, hother.nests _ (by decide)⟩
      | _ => contradiction
    have hlayout : other.renderAs kind (.branch content children) parent (blockSite position) =
        content.layout other.references other.rules children parent (blockSite position)
          (other.blocks (.branch content children)) (other.inlines (.branch content children)) :=
            if_pos hkind
    rw [hlaysOut.render_eq hkind, hlayout,
      Container.layout_congr_of_nest hcontent hphrasing _ writer.references _ writer.rules]
    exact hframe _ _ _ (counting_eq_ok.mpr ⟨after, hblocks.run other hother, rfl⟩)
  · rw [Node.leaves, if_pos hcontent, hblocks.nodes]
  · rw [hrows]
    refine hblocks.stands.prefixed hline ?_
    rw [List.forall_mem_map]
    exact fun call hcall => (hblocks.solid call hcall).head?_rows

end blocks

/-- **Every node is reported where it is written.** -/
theorem Fills.isReported (hwriter : writer.LaysOutNests) {node : Node} (hnode : writer.Fills node) :
    writer.IsReported node := by
  induction hnode with
  | leaf hhandler htext => exact isReported_leaf hhandler htext
  | @nest content children hcontent hchildren ih =>
      have hphrasing : children.any Node.isPhrasing = false :=
        List.any_eq_false.mpr fun child hchild => by simp [(hchildren child
          hchild).isPhrasing_eq_false]
      exact isReported_nest hwriter ih hcontent hphrasing

end Writer

/-! ## Documents -/

/-- A rendering starts with an accepted style, and with nothing else in its state. -/
theorem Options.state_of_writer {options : Options} {externals : Externals} {writer : Writer}
    {state : State} (h : options.writer externals = .ok (writer, state)) :
    state.style.validate = .ok () ∧ state = { style := state.style } := by
  unfold Options.writer at h
  dsimp only at h
  split at h
  · contradiction
  · next hvalid =>
      simp only [bind, Except.bind] at h
      split at h
      · contradiction
      · obtain ⟨-, rfl⟩ := Prod.mk.inj (Except.ok.inj h)
        exact ⟨hvalid, rfl⟩

/-- A rendering starts in a settled state. -/
theorem Options.settled_of_writer {options : Options} {externals : Externals} {writer : Writer}
    {state : State} (h : options.writer externals = .ok (writer, state)) : state.Settled := by
  obtain ⟨hvalid, hstate⟩ := state_of_writer h
  refine ⟨hvalid, ?_⟩
  rw [hstate]
  exact fun bullet hbullet => nomatch hbullet

/-- A line ending behind a text moves nothing in it. -/
theorem Stands.terminated {left line column : Nat} {text : List Char} {placed : List Placed}
    (hfree : '\r' ∉ text) (h : Stands left line column (rows text) placed) :
    '\r' ∉ terminated text ∧ Stands left line column (rows (terminated text)) placed := by
  unfold MarkdownWriter.terminated
  split
  · exact ⟨hfree, h⟩
  · refine ⟨by simpa using hfree, ?_⟩
    have hstands := h.append (.inl (rows_ne_nil text)) (@Stands.nil _ _ _ [[]])
    rwa [List.append_nil, show [[]] = rows [] from rfl,
      ← rows_append_cons (show isLineBreak '\n' = true from rfl)]
      at hstands

/-- **Reported positions are the real ones.** Roots, block quotes, lists and list items around
custom nodes whose handlers answer with solid texts can be written with any accepted options. There
is one call for every leaf, in order, and nothing else is asked: whatever gives the same answers to
these calls writes the same. The texts stand in the document one after the other, each in the line
and at the column that its handler was told. -/
theorem Writer.Fills.exists_reported {options : Options} {externals : Externals}
    {writer : Writer} {state : State} {tree : Node}
    (hwriter : options.writer externals = .ok (writer, state))
    (hnests : writer.LaysOutNests) (htree : writer.Fills tree) :
    ∃ calls text, toMarkdown options tree externals = .ok (String.ofList text) ∧ '\r' ∉ text ∧
      calls.map Call.node = tree.leaves ∧ (∀ call ∈ calls, writer.Answers call) ∧
      (∀ other : Writer, other.AgreesOn writer calls →
        other.render tree none (blockSite {}) state =
          writer.render tree none (blockSite {}) state) ∧
      Stands 0 1 1 (rows text) (calls.map Call.placed) ∧
      ∀ call ∈ calls, ∃ above margin first below, rows text = above ++ (margin ++ first) :: below ∧
        (rows call.text).head? = some first ∧ call.site.position.line = above.length + 1 ∧
        call.site.position.column = margin.length + 1 := by
  obtain ⟨calls, value, after, hreports⟩ :=
    htree.isReported hnests none {} state (Options.settled_of_writer hwriter)
  have hrun := hreports.run writer ⟨hnests, rfl, hreports.answers⟩
  obtain ⟨hfree, hstands⟩ := hreports.stands.terminated hreports.free
  refine ⟨calls, terminated value, ?_, hfree, hreports.nodes, hreports.answers,
    fun other hother => ?_, hstands, ?_⟩
  · unfold toMarkdown writeTree
    rw [hwriter]
    dsimp only [bind, Except.bind]
    rw [hrun]
    rfl
  · exact (hreports.run other hother).trans hrun.symm
  · intro call hcall
    obtain ⟨above, margin, first, below, hrows, hfirst, hline, hcolumn⟩ :=
      hstands.exists_row rfl (List.mem_map_of_mem hcall)
    exact ⟨above, margin, first, below, hrows, hfirst, by rw [Nat.add_comm]; exact hline,
      by rw [Nat.add_comm, ← Nat.zero_add 1]; exact hcolumn⟩

/-- A handler that writes the position it is told. -/
def Handler.position : Handler where
  plan := fun _ _ _ site =>
    .text (decimal site.position.line ++ ':' :: decimal site.position.column)

/-- Options that add this handler for notes. -/
def Options.positions : Options :=
  .node { handlers := [("note", .position)] } []

/-- The writer for these options. -/
def Writer.positions : Writer :=
  { Writer.standard with handlers := ("note", .position) :: Handler.defaults }

/-- An item of a list in a block quote that holds two notes. -/
def Node.quotedNotes : Node :=
  .branch .blockquote [.branch (.list {}) [.branch (.listItem true)
    [.branch (.custom "note" none) [], .branch (.custom "note" none) []]]]

/-- Positions are solid texts, wherever they are written. -/
theorem Writer.positions_fills_quotedNotes : Writer.positions.Fills Node.quotedNotes := by
  have hnote : Writer.positions.Fills (.branch (.custom "note" none) []) := by
    refine @Writer.Fills.leaf _ _ _ _ Handler.position rfl fun parent state site _ =>
      ⟨_, _, rfl, ?_⟩
    have hfree : ∀ c ∈ decimal site.position.line ++ ':' :: decimal site.position.column,
        isLineBreak c = false := by
      rw [List.forall_mem_append, List.forall_mem_cons]
      exact ⟨fun _ => isLineBreak_eq_false_of_mem_decimal, rfl,
        fun _ => isLineBreak_eq_false_of_mem_decimal⟩
    exact .of_free (by simp) hfree
  have hitem : Writer.positions.Fills (.branch (.listItem true)
      [.branch (.custom "note" none) [], .branch (.custom "note" none) []]) :=
        .nest rfl (by simp [hnote])
  exact .nest rfl (List.forall_mem_singleton.mpr (.nest rfl (List.forall_mem_singleton.mpr hitem)))

/-- Notes in an item of a quoted list are written where they were told. -/
theorem exists_reported_quotedNotes :
    Options.positions.writer = .ok (Writer.positions, {}) ∧ Writer.positions.LaysOutNests ∧
      Writer.positions.Fills Node.quotedNotes ∧
      toMarkdown Options.positions Node.quotedNotes = .ok "> *   1:7\n>\n>     3:7\n" ∧
      ∃ (calls : List Call) (text : List Char),
        toMarkdown Options.positions Node.quotedNotes = .ok (String.ofList text) ∧
        calls.map Call.node = Node.quotedNotes.leaves ∧
        Stands 0 1 1 (rows text) (calls.map Call.placed) := by
  have hwriter : Options.positions.writer = .ok (Writer.positions, {}) := by
    unfold Options.writer
    rfl
  have hnests : Writer.positions.LaysOutNests := fun kind _ => by cases kind <;> rfl
  obtain ⟨calls, text, htext, -, hnodes, -, -, hstands, -⟩ :=
    Writer.positions_fills_quotedNotes.exists_reported hwriter hnests
  exact ⟨hwriter, hnests, Writer.positions_fills_quotedNotes, by decide +kernel, calls, text, htext,
    hnodes, hstands⟩

end MarkdownWriter
