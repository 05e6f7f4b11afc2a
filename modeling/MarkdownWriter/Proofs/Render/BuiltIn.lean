import MarkdownWriter.Proofs.Options.Layers
import MarkdownWriter.Proofs.Render.Restoring

/-!
# Writers without extensions

A writer is built in if no handlers and no join rules are added to the library's own
(`Writer.IsBuiltIn`); the style and the rules about unsafe characters may be any. Options that add
none give such a writer (`Options.isBuiltIn_of_writer`).

* **One kind at a time** (`Writer.LaysOut`). Where only the handler of one kind matters, or only the
  join rules (`Writer.HasDefaultJoins`), a writer may be extended in other ways: it writes the nodes
  of every kind that has kept its handler by the layout of the kind (`Writer.LaysOut.render_eq`,
  `Writer.LaysOut.render_eq_layout`).
* **By its handler** (`Writer.render_eq_answer`, `Writer.render_eq_throw`): any node is written as
  its handler answers, or refused if it has none. Handlers are found by name, and the kinds have
  different names (`lookup_defaults`, `kindName_of_kind`).
-/

namespace MarkdownWriter

/-! ## Built-in writers -/

/-- A writer with the library's own join rules. -/
def Writer.HasDefaultJoins (writer : Writer) : Prop :=
  writer.joins = [Join.defaultRule] ∨ writer.joins = [Join.tightDefinitions, Join.defaultRule]

/-- A writer with the library's own handlers and join rules. -/
structure Writer.IsBuiltIn (writer : Writer) : Prop where
  handlers : writer.handlers = Handler.defaults
  joins : writer.HasDefaultJoins

/-- A writer that has the library's own handler for the nodes of a kind. -/
def Writer.LaysOut (writer : Writer) (kind : Kind) : Prop :=
  writer.handlers.lookup kind.name = some kind.handler

/-- Options whose layers add neither handlers nor join rules give a built-in writer. -/
theorem Options.isBuiltIn_of_writer {options : Options} {externals : Externals} {writer : Writer}
    {state : State} (hhandlers : ∀ layer ∈ options.layers, layer.handlers = [])
    (hjoins : ∀ layer ∈ options.layers, layer.joins = [])
    (h : options.writer externals = .ok (writer, state)) : writer.IsBuiltIn := by
  have hlayers : options.layers.flatMap Layer.handlers = [] := List.flatMap_eq_nil_iff.mpr hhandlers
  have hrules : options.layers.reverse.flatMap Layer.joins = [] :=
    List.flatMap_eq_nil_iff.mpr fun layer hlayer => hjoins layer (List.mem_reverse.mp hlayer)
  unfold Options.writer at h
  simp only [handlers_appliedTo, joins_appliedTo, hlayers, hrules, List.nil_append,
    List.append_nil] at h
  split at h
  · contradiction
  · simp only [bind, Except.bind] at h
    split at h
    · contradiction
    · obtain ⟨rfl, -⟩ := Prod.mk.inj (Except.ok.inj h)
      refine ⟨rfl, ?_⟩
      unfold Writer.HasDefaultJoins
      dsimp only
      split
      · exact .inr rfl
      · exact .inl rfl

/-- Texts are the leaves with a literal text. -/
theorem Node.exists_of_isText {node : Node} (h : node.isText = true) :
    ∃ value, node = .leaf (.text value) := by
  unfold Node.isText at h
  split at h
  · exact ⟨_, rfl⟩
  · contradiction

/-- Raw HTML is a leaf with its text. -/
theorem Node.exists_of_isHtml {node : Node} (h : node.isHtml = true) :
    ∃ value, node = .leaf (.html value) := by
  unfold Node.isHtml at h
  split at h
  · exact ⟨_, rfl⟩
  · contradiction

namespace Writer

variable {writer : Writer} {node : Node} {kind : Kind}

/-- The handler of every kind is registered under its name. -/
theorem lookup_defaults (kind : Kind) : Handler.defaults.lookup kind.name = some kind.handler := by
  cases kind <;> rfl

/-- A node of a known kind is called by the name of that. -/
theorem kindName_of_kind (h : node.kind? = some kind) : node.kindName = kind.name := by
  cases node with
  | leaf content => exact congrArg Kind.name (Option.some.inj h)
  | branch content children =>
      cases content with
      | custom name value => contradiction
      | _ => obtain rfl := Option.some.inj h; rfl

/-- With the library's own handlers all kinds are laid out. -/
theorem laysOut_of_defaults (hwriter : writer.handlers = Handler.defaults) (kind : Kind) :
    writer.LaysOut kind := by
  unfold LaysOut
  rw [hwriter, lookup_defaults]

/-- A built-in writer lays out all kinds. -/
theorem IsBuiltIn.laysOut (hwriter : writer.IsBuiltIn) (kind : Kind) : writer.LaysOut kind :=
  laysOut_of_defaults hwriter.handlers kind

/-- The first handler for the name of its kind is the one of a node. -/
theorem handler_eq_of_lookup {handler : Handler} (hkind : node.kind? = some kind)
    (hlookup : writer.handlers.lookup kind.name = some handler) :
    writer.handler node = .ok handler := by
  have hname : kind.name.isEmpty = false := by cases kind <;> rfl
  unfold Writer.handler
  simp only [kindName_of_kind hkind, hlookup, hname]
  rfl

/-- What a handler writes for a node: what it wants done with it is done. -/
def answer (writer : Writer) (handler : Handler) (node : Node) (parent : Option Node)
    (site : Site) : Render (List Char) :=
  fun state =>
    (handler.plan node parent state site).run writer.references writer.rules node parent site
    (writer.blocks node) (writer.inlines node) state

/-- A node is written by its handler. -/
theorem render_eq_answer {handler : Handler} (hhandler : writer.handler node = .ok handler)
    (parent : Option Node) (site : Site) :
    writer.render node parent site = writer.answer handler node parent site := by
  have hplan : writer.plan node parent site = fun state =>
      (.ok (handler.plan node parent state site), state) := by
    unfold plan
    rw [hhandler]
    rfl
  cases node with
  | leaf content =>
      rw [render, hplan]
      rfl
  | branch content children =>
      rw [render, hplan]
      rfl

/-- A node without a handler is refused. -/
theorem render_eq_throw {error : RenderError} (hhandler : writer.handler node = .error error)
    (parent : Option Node) (site : Site) : writer.render node parent site = throw error := by
  have hplan : writer.plan node parent site = throw error := by
    unfold plan
    rw [hhandler]
    rfl
  cases node with
  | leaf content =>
      rw [render, hplan]
      rfl
  | branch content children =>
      rw [render, hplan]
      rfl

/-- A writer that lays a kind out has the own handler for its nodes. -/
theorem LaysOut.handler_eq (hwriter : writer.LaysOut kind) (hkind : node.kind? = some kind) :
    writer.handler node = .ok kind.handler :=
  handler_eq_of_lookup hkind hwriter

/-- **A node of a kind that has kept its handler is written by the layout of the kind.** -/
theorem LaysOut.render_eq (hwriter : writer.LaysOut kind) (hkind : node.kind? = some kind)
    (parent : Option Node) (site : Site) :
    writer.render node parent site = writer.renderAs kind node parent site :=
  render_eq_answer (hwriter.handler_eq hkind) parent site

/-- A node that is written as one of its own kind is written by its layout. -/
theorem renderAs_eq_layout (hkind : node.kind? = some kind) (parent : Option Node) (site : Site) :
    writer.renderAs kind node parent site =
      node.layout writer.references writer.rules parent site (writer.blocks node)
        (writer.inlines node) :=
  if_pos hkind

/-- Such a node is written as its layout, around its children. -/
theorem LaysOut.render_eq_layout (hwriter : writer.LaysOut kind) (hkind : node.kind? = some kind)
    (parent : Option Node) (site : Site) :
    writer.render node parent site =
      node.layout writer.references writer.rules parent site (writer.blocks node)
        (writer.inlines node) :=
  (hwriter.render_eq hkind parent site).trans (renderAs_eq_layout hkind parent site)

end Writer

end MarkdownWriter
