import MarkdownWriter.Options
import MarkdownWriter.Proofs.Render.Steps

/-!
# The precedence of layers

Options are applied by a recursion that visits the extensions of a layer from the last one to the
first and takes the layer itself last. What comes out is the same as if the layers, listed in the
order of their precedence, were laid over one another from the last one up
(`Options.appliedTo_eq_overlaid`), and so it can be told layer by layer:

* **Who decides** (`Options.resolves_appliedTo`): each choice of the style and each handler is that
  of the first layer in the list that has one, patterns and join rules add up from the last layer to
  the first, and of two layers the join rules of the earlier one are asked first.
* **Handlers** (`lookup_flatMap_handlers`) and **choices** (`style_overlaid`) are looked up from the
  front of a list, and **join rules** (`decide?_append`) from its end, so that those which are
  registered later are asked first.

The recursion is on the tree of extensions, with the base general: every extension is put on what
the ones behind it have come to. All that is said later is said about the list.
-/

namespace MarkdownWriter

/-! ## Layers over one another -/

namespace Layer

/-- Layers over a base, the first one uppermost. -/
def overlaid (layers : List Layer) (base : Layer) : Layer :=
  layers.foldr (fun layer below => below.overlay layer) base

@[simp] theorem overlaid_nil (base : Layer) : overlaid [] base = base := rfl

@[simp] theorem overlaid_cons (layer : Layer) (layers : List Layer) (base : Layer) :
    overlaid (layer :: layers) base = (overlaid layers base).overlay layer := rfl

/-- Layers may be put on in two steps. -/
theorem overlaid_append (layers layers' : List Layer) (base : Layer) :
    overlaid (layers ++ layers') base = overlaid layers (overlaid layers' base) :=
  List.foldr_append

variable {base : Layer}

/-- The handlers of the topmost layer come first. -/
theorem handlers_overlaid (layers : List Layer) :
    (overlaid layers base).handlers = layers.flatMap Layer.handlers ++ base.handlers := by
  induction layers with
  | nil => rfl
  | cons layer layers ih => rw [overlaid_cons, overlay, ih, List.flatMap_cons, List.append_assoc]

/-- The patterns of the topmost layer come last. -/
theorem patterns_overlaid (layers : List Layer) :
    (overlaid layers base).patterns = base.patterns ++ layers.reverse.flatMap Layer.patterns := by
  induction layers with
  | nil => simp
  | cons layer layers ih => simp [overlay, ih]

/-- So do its join rules. -/
theorem joins_overlaid (layers : List Layer) :
    (overlaid layers base).joins = base.joins ++ layers.reverse.flatMap Layer.joins := by
  induction layers with
  | nil => simp
  | cons layer layers ih => simp [overlay, ih]

/-- The choice of the first of several layers that makes one, or else that of the base. -/
def firstChoice {α : Type} (layers : List Layer) (base : Layer) (choice : Style → Option α) :
    Option α :=
  (layers.findSome? fun layer => choice layer.style).or (choice base.style)

/-- The choices of the first of several layers that make them, or else those of the base, one by
one. -/
def firstStyle (layers : List Layer) (base : Layer) : Style where
  bullet := firstChoice layers base Style.bullet
  bulletOther := firstChoice layers base Style.bulletOther
  bulletOrdered := firstChoice layers base Style.bulletOrdered
  bulletOrderedOther := firstChoice layers base Style.bulletOrderedOther
  emphasis := firstChoice layers base Style.emphasis
  strong := firstChoice layers base Style.strong
  fence := firstChoice layers base Style.fence
  fences := firstChoice layers base Style.fences
  quote := firstChoice layers base Style.quote
  rule := firstChoice layers base Style.rule
  ruleRepetition := firstChoice layers base Style.ruleRepetition
  ruleSpaces := firstChoice layers base Style.ruleSpaces
  closeAtx := firstChoice layers base Style.closeAtx
  setext := firstChoice layers base Style.setext
  listItemIndent := firstChoice layers base Style.listItemIndent
  incrementListMarker := firstChoice layers base Style.incrementListMarker
  resourceLink := firstChoice layers base Style.resourceLink
  tightDefinitions := firstChoice layers base Style.tightDefinitions

/-- A layer is asked first, and then the layers below it. -/
theorem firstChoice_cons {α : Type} (layer : Layer) (layers : List Layer)
    (choice : Style → Option α) :
    firstChoice (layer :: layers) base choice = (choice layer.style).or
      (firstChoice layers base choice) := by
  unfold firstChoice
  rw [List.findSome?_cons]
  cases choice layer.style <;> rfl

/-- **Every choice is made by the first layer that makes it.** -/
theorem style_overlaid (layers : List Layer) :
    (overlaid layers base).style = firstStyle layers base := by
  induction layers with
  | nil => rfl
  | cons layer layers ih =>
      rw [overlaid_cons, overlay, ih]
      simp only [Style.overlay, firstStyle, firstChoice_cons, Option.orElse_eq_orElse,
        Option.orElse_eq_or]

/-- The first layer that has a handler of a kind is the one that counts. -/
theorem lookup_flatMap_handlers (layers : List Layer) (kind : String) :
    (layers.flatMap Layer.handlers).lookup kind = layers.findSome? fun layer =>
      layer.handlers.lookup kind := by
  induction layers with
  | nil => rfl
  | cons layer layers ih =>
      rw [List.flatMap_cons, List.lookup_append, ih, List.findSome?_cons]
      cases layer.handlers.lookup kind <;> rfl

end Layer

/-! ## Join rules -/

namespace Join

/-- What a list of rules decides, if they do. -/
def decide? (rules : List JoinRule) (state : State) (left right parent : Node) : Option Join :=
  rules.reverse.findSome? fun rule => rule state left right parent

variable {state : State} {left right parent : Node}

/-- If no rule decides, one blank line is left. -/
theorem decide_eq (rules : List JoinRule) :
    decide rules state left right parent = (decide? rules state left right parent).getD
      (.blankLines 1) := rfl

/-- The rules that are registered later are asked first. -/
theorem decide?_append (rules rules' : List JoinRule) :
    decide? (rules ++ rules') state left right parent =
      (decide? rules' state left right parent).or (decide? rules state left right parent) := by
  unfold decide?
  rw [List.reverse_append, List.findSome?_append]

/-- The rules of the layers are asked from the first layer to the last. -/
theorem decide?_flatMap_joins (layers : List Layer) :
    decide? (layers.reverse.flatMap Layer.joins) state left right parent =
      layers.findSome? fun layer => decide? layer.joins state left right parent := by
  induction layers with
  | nil => rfl
  | cons layer layers ih =>
      rw [List.reverse_cons, List.flatMap_append, decide?_append, ih, List.flatMap_singleton,
        List.findSome?_cons]
      cases decide? layer.joins state left right parent <;> rfl

end Join

/-- What stands between two blocks is what the join rules decide. -/
theorem Writer.between_run (writer : Writer) (left right parent : Node) (state : State) :
    (writer.between left right parent state).1 =
      .ok (Join.decide writer.joins state left right parent).separator := by
  obtain ⟨after, hrun, -⟩ := writer.exists_between left right parent state
  rw [hrun]

/-! ## Options -/

namespace Options

mutual

/-- **Options are their layers laid over one another**, in the order of their precedence. -/
theorem appliedTo_eq_overlaid (base : Layer) (options : Options) :
    options.appliedTo base = Layer.overlaid options.layers base :=
  match options with
  | .node own extensions => by rw [appliedTo, layers, Layer.overlaid_cons, appliedAll_eq_overlaid]

/-- Several extensions are put on as their layers, one after the other. -/
theorem appliedAll_eq_overlaid (base : Layer) (extensions : List Options) :
    appliedAll base extensions = Layer.overlaid (layersOfAll extensions) base :=
  match extensions with
  | [] => rfl
  | extension :: extensions => by
      rw [appliedAll, layersOfAll, Layer.overlaid_append, appliedTo_eq_overlaid,
        appliedAll_eq_overlaid]

end

/-- The handlers of a layer come before those of the layers below it. -/
theorem handlers_appliedTo (base : Layer) (options : Options) :
    (options.appliedTo base).handlers = options.layers.flatMap Layer.handlers ++ base.handlers := by
  rw [appliedTo_eq_overlaid, Layer.handlers_overlaid]

/-- The join rules of a layer come behind those of the layers below it. -/
theorem joins_appliedTo (base : Layer) (options : Options) :
    (options.appliedTo base).joins = base.joins ++ options.layers.reverse.flatMap Layer.joins := by
  rw [appliedTo_eq_overlaid, Layer.joins_overlaid]

end Options

/-- What a layer holds that others, in the order of their precedence, come to over a base. -/
structure Layer.Resolves (layers : List Layer) (base resolved : Layer) : Prop where
  /-- Every choice is that of the first layer that makes it. -/
  style : resolved.style = firstStyle layers base
  /-- The handler of a kind is that of the first layer that registers one. -/
  handlers : ∀ kind, resolved.handlers.lookup kind =
    (layers.findSome? fun layer => layer.handlers.lookup kind).or (base.handlers.lookup kind)
  patterns : resolved.patterns = base.patterns ++ layers.reverse.flatMap Layer.patterns
  joins : resolved.joins = base.joins ++ layers.reverse.flatMap Layer.joins
  /-- The join rules of the first layer are asked first, those of the base after all others, and
  what decides if none of them does is the rules a writer has below them. -/
  between : ∀ (writer : Writer) (below : List JoinRule) (left right parent : Node) (state : State),
    (Writer.between { writer with joins := below ++ resolved.joins } left right parent state).1 =
      .ok ((((layers ++ [base]).findSome? fun layer =>
        Join.decide? layer.joins state left right parent).or
        (Join.decide? below state left right parent)).getD (.blankLines 1)).separator

/-- **Options are resolved by the order of their layers**: a layer before its extensions, and these
from left to right, each followed by its own. -/
theorem Options.resolves_appliedTo (base : Layer) (options : Options) :
    Layer.Resolves options.layers base (options.appliedTo base) where
  style := by rw [appliedTo_eq_overlaid, Layer.style_overlaid]
  handlers := fun kind => by rw [handlers_appliedTo, List.lookup_append,
    Layer.lookup_flatMap_handlers]
  patterns := by rw [appliedTo_eq_overlaid, Layer.patterns_overlaid]
  joins := joins_appliedTo base options
  between := fun writer below left right parent state => by
    rw [Writer.between_run, Join.decide_eq, joins_appliedTo, Join.decide?_append,
      Join.decide?_append, Join.decide?_flatMap_joins, List.findSome?_append,
      List.findSome?_singleton]

end MarkdownWriter
