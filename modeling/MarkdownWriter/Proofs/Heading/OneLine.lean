import MarkdownWriter.Proofs.Code.KeptEndings
import MarkdownWriter.Proofs.Heading.Atx
import MarkdownWriter.Proofs.Render.Definitions
import MarkdownWriter.Proofs.Render.Siblings

/-!
# Headings that have to stay on one line

A heading behind marks ends with its line. While it is written every line break in a literal text is
escaped (`isLineBreak_of_mem_escapeLiteral`) and a hard break is a space, whatever the texts stand
in. Two kinds of text are written in another way and may bring a line ending in (`Node.spansLines`):
code spans, which are not escaped, and the labels of references, which are escaped as if the heading
were not there.

* **Inline content.** `SpansAs` says of a text that it spans lines as a Boolean tells. It is carried
  through the layouts one after the other (`Leaf.spansAs_layout`, `Layout.spansAs_linkReference`),
  and through whole trees by `Writer.spansAs_render`.
* **Code spans** bring a line ending in exactly if the passes over the value keep one, which is told
  from the value (`keepsEnding`).
* **Which headings stay on one line** (`Writer.hasLineEnding_heading_iff`): those with neither a
  code span nor a label in them that brings a line ending in.
-/

namespace MarkdownWriter

open Text

/-! ## Line endings in a text -/

/-- A text spans lines only if `spans` says so; where `exact` holds it does exactly then. -/
structure SpansAs (exact : Prop) (text : List Char) (spans : Bool) : Prop where
  only : hasLineEnding text = true → spans = true
  whenever : exact → spans = true → hasLineEnding text = true

namespace SpansAs

variable {exact : Prop} {text more : List Char} {spans spans' : Bool}

/-- A text that spans lines as a Boolean says does so exactly. -/
theorem of_eq (h : hasLineEnding text = spans) : SpansAs exact text spans :=
  ⟨fun htext => h ▸ htext, fun _ hspans => h.trans hspans⟩

/-- Of two texts together one has to span lines. -/
theorem append (h : SpansAs exact text spans) (h' : SpansAs exact more spans') :
    SpansAs exact (text ++ more) (spans || spans') where
  only := by
    rw [hasLineEnding_append, Bool.or_eq_true, Bool.or_eq_true]
    exact Or.imp h.only h'.only
  whenever := by
    intro hexact
    rw [hasLineEnding_append, Bool.or_eq_true, Bool.or_eq_true]
    exact Or.imp (h.whenever hexact) (h'.whenever hexact)

/-- Texts with the same line endings span lines alike. -/
theorem congr (h : SpansAs exact text spans) (hmore : hasLineEnding more = hasLineEnding text) :
    SpansAs exact more spans := by
  refine ⟨?_, ?_⟩
  · rw [hmore]
    exact h.only
  · rw [hmore]
    exact h.whenever

end SpansAs

/-- Where nothing has to stay on one line a literal text spans lines as it does itself. -/
theorem spansAs_escapeLiteral {rules : List Rule} {stack : List Construct} {input : List Char}
    {around : Surroundings} (hstack : ∀ construct ∈ stack, construct ∉ Rule.singleLine) :
    SpansAs (rules = Rule.defaults) (escapeLiteral rules stack input around)
      (hasLineEnding input) where
  only := by
    intro h
    obtain ⟨b, hmem, hb⟩ := List.any_eq_true.mp h
    exact List.any_eq_true.mpr ⟨b, mem_of_mem_escapeLiteral hb hmem, hb⟩
  whenever := by
    rintro rfl h
    rw [hasLineEnding_escapeLiteral_defaults hstack, h]

/-! ## What spans lines -/

namespace Node

mutual

/-- Whether something in inline content brings a line ending into a heading behind marks: a code
span of a value that `keeps` one, or a reference with one in its label. -/
def spansLines (references : References) (keeps : List Char → Bool) : Node → Bool
  | .leaf (.inlineCode value) => keeps value.toList
  | .leaf (.imageReference association _ _) => hasLineEnding (association.text references)
  | .leaf _ => false
  | .branch (.linkReference association _) children =>
      hasLineEnding (association.text references) || anySpansLines references keeps children
  | .branch _ children => anySpansLines references keeps children

/-- Whether one of several nodes does. -/
def anySpansLines (references : References) (keeps : List Char → Bool) : List Node → Bool
  | [] => false
  | node :: nodes => node.spansLines references keeps || anySpansLines references keeps nodes

end

mutual

/-- Whether a node and all that is in it is inline content. -/
def isPhrasingTree : Node → Bool
  | .leaf content => (Node.leaf content).isPhrasing
  | .branch content children =>
      (Node.branch content children).isPhrasing && arePhrasingTrees children

/-- Whether several nodes and all that is in them is inline content. -/
def arePhrasingTrees : List Node → Bool
  | [] => true
  | node :: nodes => node.isPhrasingTree && arePhrasingTrees nodes

end

end Node

/-! ## Layouts -/

/-- An action that restores leaves the same constructs open, be there an error or not. -/
theorem Render.Restores.constructs_eq {α β : Type} {view : State → β} {action : Render α}
    {state after : State} {result : Except RenderError α} (h : Restores view action)
    (hrun : action state = (result, after)) : after.constructs = state.constructs := by
  have hconstructs := h.constructs state
  rwa [hrun] at hconstructs

/-- Inline content that spans lines as a Boolean tells, wherever a heading behind marks is open, and
puts back the constructs it opens. -/
structure InlineSpansAs (exact : Prop) (inline : Inline) (spans : Bool) : Prop where
  restores : ∀ site, Render.Restores State.place (inline site)
  spansAs : ∀ {site state value after}, .headingAtx ∈ state.constructs →
    inline site state = (.ok value, after) → SpansAs exact value spans

namespace Layout

open Render

variable {rules : List Rule} {exact : Prop} {state after : State} {site : Site} {inline : Inline}
  {value : List Char}
  {spans : Bool}

/-- A destination adds no line ending to what is written already: within a heading all of them are
escaped. -/
theorem hasLineEnding_destination (hrules : ∀ rule ∈ Rule.defaults, rule ∈ rules)
    (hstack : .headingAtx ∈ state.constructs) {enclosed : Bool} {behind url written : List Char}
    (h : destination rules enclosed behind url written state = (.ok value, after)) :
    hasLineEnding value = hasLineEnding written ∧ after = state := by
  rw [destination_run] at h
  obtain ⟨hvalue, rfl⟩ := outcome_eq_iff.mp h
  obtain rfl := Except.ok.inj hvalue
  have htext : hasLineEnding (destinationText rules state.constructs enclosed behind url written) =
      false := by
    unfold destinationText
    split
    · rw [hasLineEnding_append, hasLineEnding_cons,
        hasLineEnding_escapeLiteral hrules (List.mem_cons_of_mem _ hstack)]
      rfl
    · exact hasLineEnding_escapeLiteral hrules (List.mem_cons_of_mem _ hstack)
  rw [hasLineEnding_append, htext, Bool.or_false]
  exact ⟨rfl, rfl⟩

/-- Nor does a title, with quotes that are no line breaks. -/
theorem hasLineEnding_title (hrules : ∀ rule ∈ Rule.defaults, rule ∈ rules)
    (hstack : .headingAtx ∈ state.constructs) {quote : Char} (hquote : isLineBreak quote = false)
    {caption : Option String} {written : List Char}
    (h : title rules quote caption written state = (.ok value, after)) :
    hasLineEnding value = hasLineEnding written := by
  rw [title_run] at h
  obtain rfl := Except.ok.inj (outcome_eq_iff.mp h).1
  cases caption with
  | none => rw [Option.elim_none, List.append_nil]
  | some caption =>
      have htext : hasLineEnding (titleText rules state.constructs quote caption.toList written) =
          false :=
        hasLineEnding_escapeLiteral hrules (List.mem_cons_of_mem _ hstack)
      have hclose : hasLineEnding [quote] = false :=
        hasLineEnding_eq_false_iff.mpr (List.forall_mem_singleton.mpr hquote)
      have hopen : hasLineEnding [' ', quote] = false := hclose
      rw [Option.elim_some, hasLineEnding_append, hasLineEnding_append, hasLineEnding_append, htext,
        hopen, hclose]
      simp only [Bool.or_false]

/-- A resource brings no line endings in. -/
theorem hasLineEnding_resource (hrules : ∀ rule ∈ Rule.defaults, rule ∈ rules)
    (hstack : .headingAtx ∈ state.constructs) {quote : Char} (hquote : isLineBreak quote = false)
    {target : Resource} {written : List Char}
    (h : resource rules quote target written state = (.ok value, after)) :
    hasLineEnding value = hasLineEnding written := by
  obtain ⟨middle, _, hdestination, htitle⟩ := bind_eq_ok.mp h
  obtain ⟨hwritten, rfl⟩ := hasLineEnding_destination hrules hstack hdestination
  rw [hasLineEnding_title hrules hstack hquote htitle, hwritten]

/-- A marker that a style may choose is no line break. -/
theorem isLineBreak_of_accepted {choice : Option Char} {otherwise : Char} {allowed : List Char}
    {refuse : Char → StyleError} {marker : Char} (hallowed : allowed.all (!isLineBreak ·) = true)
    (h : Style.accepted choice otherwise allowed refuse = .ok marker) :
    isLineBreak marker = false := by
  simpa using List.all_eq_true.mp hallowed marker (Style.mem_of_accepted h)

/-- Between delimiters inline content spans lines as it does without them. -/
theorem spansAs_delimited {construct : Construct} {marker : List Char}
    (hmarker : hasLineEnding marker = false) (hinline : InlineSpansAs exact inline spans)
    (hstack : .headingAtx ∈ state.constructs)
    (h : delimited construct marker site inline state = (.ok value, after)) :
    SpansAs exact value spans := by
  obtain ⟨_, h, -⟩ := entering_eq_ok.mp h
  obtain ⟨content, _, hcontent, h⟩ := bind_eq_ok.mp h
  obtain ⟨rfl, -⟩ := pure_eq_ok.mp h
  refine (hinline.spansAs (List.mem_cons_of_mem _ hstack) hcontent).congr ?_
  rw [hasLineEnding_append, hasLineEnding_append, hmarker, Bool.or_false, Bool.false_or]

/-- Emphasis spans lines as what it emphasises. -/
theorem spansAs_emphasis (hinline : InlineSpansAs exact inline spans)
    (hstack : .headingAtx ∈ state.constructs)
    (h : emphasis site inline state = (.ok value, after)) :
    SpansAs exact value spans := by
  obtain ⟨marker, _, hstyle, h⟩ := bind_eq_ok.mp h
  obtain ⟨hmarker, rfl⟩ := ofStyle_eq_ok.mp hstyle
  have hbreak := isLineBreak_of_accepted (by decide) hmarker
  exact spansAs_delimited (by simp [hasLineEnding, hbreak]) hinline hstack h

/-- So does strong emphasis. -/
theorem spansAs_strong (hinline : InlineSpansAs exact inline spans)
    (hstack : .headingAtx ∈ state.constructs) (h : strong site inline state = (.ok value, after)) :
    SpansAs exact value spans := by
  obtain ⟨marker, _, hstyle, h⟩ := bind_eq_ok.mp h
  obtain ⟨hmarker, rfl⟩ := ofStyle_eq_ok.mp hstyle
  have hbreak := isLineBreak_of_accepted (by decide) hmarker
  exact spansAs_delimited (by simp [hasLineEnding, hbreak]) hinline hstack h

/-- A hard break is a space or nothing. -/
theorem hasLineEnding_hardBreak (hrules : ∀ rule ∈ Rule.defaults, rule ∈ rules)
    (hstack : .headingAtx ∈ state.constructs)
    (h : hardBreak rules site state = (.ok value, after)) :
    hasLineEnding value = false := by
  have hunsafe : (rules.any fun rule => rule.character == '\n' && rule.applies state.constructs) =
      true := by
    have hmem : Rule.anywhereIn Rule.singleLine '\n' ∈ Rule.defaults := by
      simp [Rule.defaults, Rule.whitespaceRules, Rule.punctuationRules]
    refine List.any_eq_true.mpr ⟨_, hrules _ hmem, ?_⟩
    exact Bool.and_eq_true_iff.mpr ⟨rfl, Rule.applies_make (by decide) hstack '\n' false none none⟩
  unfold hardBreak at h
  rw [bind_run_ok (get_run _), hunsafe, if_neg (by decide)] at h
  split at h
  · obtain ⟨rfl, -⟩ := pure_eq_ok.mp h
    rfl
  · obtain ⟨rfl, -⟩ := pure_eq_ok.mp h
    rfl

/-- An image brings no line endings in. -/
theorem hasLineEnding_image (hrules : ∀ rule ∈ Rule.defaults, rule ∈ rules)
    (hstack : .headingAtx ∈ state.constructs) {target : Resource} {alt : List Char}
    (h : image rules target alt state = (.ok value, after)) :
    hasLineEnding value = false := by
  obtain ⟨quote, _, hstyle, h⟩ := bind_eq_ok.mp h
  obtain ⟨hquote, rfl⟩ := ofStyle_eq_ok.mp hstyle
  obtain ⟨_, h, -⟩ := entering_eq_ok.mp h
  rw [bind_run_ok (entering_literal_run _ _ _)] at h
  obtain ⟨written, _, hwritten, h⟩ := bind_eq_ok.mp h
  obtain ⟨rfl, -⟩ := pure_eq_ok.mp h
  have hresource := hasLineEnding_resource hrules (List.mem_cons_of_mem _ hstack)
    (isLineBreak_of_accepted (by decide) hquote) hwritten
  rw [hasLineEnding_append, hresource, hasLineEnding_append, hasLineEnding_append,
    hasLineEnding_escapeLiteral hrules
    (List.mem_cons_of_mem _ (List.mem_cons_of_mem _ hstack))]
  rfl

/-- A link spans lines as its text does; that of an autolink is written as if the heading were not
there. -/
theorem spansAs_link (hrules : ∀ rule ∈ Rule.defaults, rule ∈ rules) {target : Resource}
    {children : List Node} (hinline : InlineSpansAs exact inline spans)
    (hautolink : target.isAutolink state.style children = true → ∀ {site state value after},
      inline site state = (.ok value, after) → SpansAs exact value spans)
    (hstack : .headingAtx ∈ state.constructs)
    (h : link rules target children site inline state = (.ok value, after)) :
    SpansAs exact value spans := by
  obtain ⟨quote, _, hstyle, h⟩ := bind_eq_ok.mp h
  obtain ⟨hquote, rfl⟩ := ofStyle_eq_ok.mp hstyle
  rw [bind_run_ok (get_run _)] at h
  split at h
  · next hform =>
      obtain ⟨_, h, -⟩ := isolated_eq_ok.mp h
      obtain ⟨_, h, -⟩ := entering_eq_ok.mp h
      obtain ⟨content, _, hcontent, h⟩ := bind_eq_ok.mp h
      obtain ⟨rfl, -⟩ := pure_eq_ok.mp h
      refine (hautolink hform hcontent).congr ?_
      rw [hasLineEnding_append, hasLineEnding_cons]
      exact (Bool.or_false _).trans (Bool.false_or _)
  · obtain ⟨_, h, -⟩ := entering_eq_ok.mp h
    obtain ⟨content, middle, hlabel, h⟩ := bind_eq_ok.mp h
    obtain ⟨written, _, hwritten, h⟩ := bind_eq_ok.mp h
    obtain ⟨rfl, -⟩ := pure_eq_ok.mp h
    obtain ⟨_, hcontent, -⟩ := entering_eq_ok.mp hlabel
    have hmiddle : middle.constructs = .link :: state.constructs :=
      (Restores.entering (hinline.restores _)).constructs_eq hlabel
    have hresource := hasLineEnding_resource hrules (hmiddle ▸ List.mem_cons_of_mem _ hstack)
      (isLineBreak_of_accepted (by decide) hquote) hwritten
    refine (hinline.spansAs (List.mem_cons_of_mem _ (List.mem_cons_of_mem _ hstack)) hcontent).congr
      ?_
    rw [hasLineEnding_append, hresource, hasLineEnding_append, hasLineEnding_cons]
    exact (Bool.or_false _).trans ((Bool.or_false _).trans (Bool.false_or _))

/-- A reference spans lines if its text or its label does. If the label is left out, the text is the
label. -/
theorem spansAs_closeReference {form : ReferenceForm} {text label : List Char} (opening : List Char)
    (hopening : hasLineEnding opening = false) (htext : SpansAs (rules = Rule.defaults) text spans)
    (h : closeReference rules form text label (opening ++ text ++ [']', '[']) state =
      (.ok value, after)) :
    SpansAs (rules = Rule.defaults) value (hasLineEnding label || spans) := by
  obtain ⟨escaped, _, hescaped, h⟩ := bind_eq_ok.mp h
  obtain ⟨_, hescaped, -⟩ := isolated_eq_ok.mp hescaped
  obtain ⟨_, hescaped, -⟩ := entering_eq_ok.mp hescaped
  obtain ⟨hescaped, -⟩ := literal_eq_ok.mp hescaped
  have hlabel : SpansAs (rules = Rule.defaults) escaped (hasLineEnding label) := by
    rw [← hescaped]
    exact spansAs_escapeLiteral (List.forall_mem_singleton.mpr (by decide))
  have hboth := hlabel.append htext
  have hclose : hasLineEnding [']'] = false := rfl
  have hbrackets : hasLineEnding [']', '['] = false := rfl
  have hwritten : hasLineEnding (opening ++ text ++ [']', '[']) = hasLineEnding text := by
    rw [hasLineEnding_append, hasLineEnding_append, hopening, hbrackets, Bool.or_false,
      Bool.false_or]
  split at h
  · obtain ⟨rfl, -⟩ := pure_eq_ok.mp h
    refine hboth.congr ?_
    rw [hasLineEnding_append, hasLineEnding_append, hwritten, hclose, Bool.or_false,
      hasLineEnding_append, Bool.or_comm]
  · next hshort =>
      simp only [Bool.or_eq_true, bne_iff_ne, ne_eq, not_or, Classical.not_not] at hshort
      obtain ⟨-, rfl⟩ := hshort
      split at h
      · obtain ⟨rfl, -⟩ := pure_eq_ok.mp h
        refine hboth.congr ?_
        have hdrop : (opening ++ text ++ [']', '[']).dropLast = opening ++ text ++ [']'] :=
          List.dropLast_append_of_ne_nil (List.cons_ne_nil ']' ['['])
        rw [hdrop, hasLineEnding_append, hasLineEnding_append, hopening, hclose, Bool.or_false,
          Bool.false_or, hasLineEnding_append, Bool.or_self]
      · obtain ⟨rfl, -⟩ := pure_eq_ok.mp h
        refine hboth.congr ?_
        rw [hasLineEnding_append, hwritten, hclose, Bool.or_false, hasLineEnding_append,
          Bool.or_self]

/-- A link reference spans lines if its text does, or its label, which is escaped as if the heading
were not there. -/
theorem spansAs_linkReference {label : List Char} {form : ReferenceForm}
    (hinline : InlineSpansAs (rules = Rule.defaults) inline spans)
    (hstack : .headingAtx ∈ state.constructs)
    (h : linkReference rules label form site inline state = (.ok value, after)) :
    SpansAs (rules = Rule.defaults) value (hasLineEnding label || spans) := by
  obtain ⟨_, h, -⟩ := entering_eq_ok.mp h
  obtain ⟨content, _, hlabel, h⟩ := bind_eq_ok.mp h
  obtain ⟨_, hcontent, -⟩ := entering_eq_ok.mp hlabel
  have hspans := hinline.spansAs (List.mem_cons_of_mem _ (List.mem_cons_of_mem _ hstack)) hcontent
  exact spansAs_closeReference ['['] rfl hspans h

/-- An image reference has a text that is escaped in the heading, and a label that is not. -/
theorem spansAs_imageReference (hrules : ∀ rule ∈ Rule.defaults, rule ∈ rules) {label : List Char}
    {form : ReferenceForm} {alt : List Char} (hstack : .headingAtx ∈ state.constructs)
    (h : imageReference rules label form alt state = (.ok value, after)) :
    SpansAs (rules = Rule.defaults) value (hasLineEnding label) := by
  obtain ⟨_, h, -⟩ := entering_eq_ok.mp h
  rw [bind_run_ok (entering_literal_run _ _ _)] at h
  have hmarks :=
    List.mem_cons_of_mem Construct.label (List.mem_cons_of_mem Construct.imageReference hstack)
  have hspans :=
    spansAs_closeReference ['!', '['] rfl (.of_eq (hasLineEnding_escapeLiteral hrules hmarks)) h
  rwa [Bool.or_false] at hspans

end Layout

/-- The text of an autolink holds no line endings, as its url does not. -/
theorem Resource.exists_text_of_isAutolink {target : Resource} {style : Style}
    {children : List Node} (h : target.isAutolink style children = true) :
    ∃ value : String, children = [.leaf (.text value)] ∧ hasLineEnding value.toList = false := by
  unfold isAutolink at h
  split at h
  · next value =>
      simp only [Bool.and_eq_true, Bool.or_eq_true, Bool.not_eq_true', beq_iff_eq] at h
      obtain ⟨⟨⟨-, hurl⟩, -⟩, hvisible⟩ := h
      refine ⟨value, rfl, hasLineEnding_eq_false_iff.mpr fun c hc => ?_⟩
      have hmem : c ∈ target.url.toList := by
        rcases hurl with hurl | hurl
        · exact hurl ▸ hc
        · exact hurl ▸ List.mem_append_right _ hc
      have hplain := List.any_eq_false.mp hvisible c hmem
      rw [← Bool.not_eq_true]
      intro hbreak
      refine hplain ?_
      rcases isLineBreak_iff.mp hbreak with rfl | rfl <;> rfl
  · contradiction

/-! ## Trees -/

/-- No raw HTML is among inline content as it is meant here. -/
theorem Node.isHtml_of_isPhrasingTree {node : Node} (h : node.isPhrasingTree = true) :
    node.isHtml = false := by
  cases node with
  | leaf content => cases content <;> first | rfl | contradiction
  | branch content children => rfl

/-- Leaves of inline content. -/
theorem Leaf.spansAs_layout {references : References} {rules : List Rule}
    (hrules : ∀ rule ∈ Rule.defaults, rule ∈ rules) {content : Leaf}
    (hleaf : (Node.leaf content).isPhrasing = true) {site : Site} {state after : State}
    {text : List Char} (hstack : .headingAtx ∈ state.constructs)
    (h : content.layout references rules site state = (.ok text, after)) :
    SpansAs (rules = Rule.defaults) text
      ((Node.leaf content).spansLines references fun value =>
        hasLineEnding (Layout.codeSpan rules value)) := by
  cases content with
  | text value =>
      obtain ⟨rfl, -⟩ := Render.literal_eq_ok.mp h
      exact .of_eq (hasLineEnding_escapeLiteral hrules hstack)
  | inlineCode value =>
      obtain ⟨rfl, -⟩ := Render.pure_eq_ok.mp h
      exact .of_eq rfl
  | hardBreak => exact .of_eq (Layout.hasLineEnding_hardBreak hrules hstack h)
  | image target alt => exact .of_eq (Layout.hasLineEnding_image hrules hstack h)
  | imageReference association form alt => exact Layout.spansAs_imageReference hrules hstack h
  | _ => contradiction

section trees

open Writer

variable {writer : Writer}

/-- Whether a code span keeps a line ending of a value. -/
def Writer.keepsLineEnding (writer : Writer) (value : List Char) : Bool :=
  hasLineEnding (Layout.codeSpan writer.rules value)

/-- Children that span lines as a Boolean tells where they are written as inline content in a
heading behind marks. -/
structure Writer.ChildrenSpanAs (writer : Writer) (children : List Node) (spans : Bool) : Prop where
  spansAs : ∀ {parent site i index progress state after outer value}, state.IsWithin i outer →
    .headingAtx ∈ outer.constructs →
    inlinesFrom writer parent site children index progress state = (.ok value, after) →
      ∃ shown, value = progress.text ++ shown ∧ SpansAs (writer.rules = Rule.defaults) shown spans

/-- What holds behind any progress holds of the children from the beginning. -/
theorem Writer.ChildrenSpanAs.inlineSpansAs {children : List Node} {spans : Bool}
    (h : writer.ChildrenSpanAs children spans) (content : Container) :
    InlineSpansAs (writer.rules = Rule.defaults)
      (writer.inlines (.branch content children)) spans := by
  refine ⟨restores_inlines writer _, ?_⟩
  intro site state value after hstack hrun
  obtain ⟨_, hinlines, -⟩ := Render.counting_eq_ok.mp hrun
  have hwithin : State.IsWithin { state with indexes := 0 :: state.indexes } 0 state :=
    ⟨rfl, rfl, rfl, rfl⟩
  obtain ⟨shown, rfl, hshown⟩ := h.spansAs hwithin hstack hinlines
  exact hshown

/-- An autolink does not span lines, although its text is written as if the heading were not there.
-/
theorem Writer.spansAs_inlines_of_isAutolink (hwriter : writer.LaysOut .text) {target : Resource}
    {children : List Node} {style : Style} (hautolink : target.isAutolink style children = true)
    {site : Site} {state after : State} {value : List Char}
    (h : writer.inlines (.branch (.link target) children) site state = (.ok value, after)) :
    SpansAs (writer.rules = Rule.defaults) value
      (Node.anySpansLines writer.references writer.keepsLineEnding children) := by
  obtain ⟨literal, rfl, hliteral⟩ := Resource.exists_text_of_isAutolink hautolink
  rw [hwriter.inlines_text rfl] at h
  obtain rfl := Except.ok.inj (Render.outcome_eq_iff.mp h).1
  refine .of_eq (hasLineEnding_eq_false_iff.mpr fun c hc => ?_)
  rw [← Bool.not_eq_true]
  intro hbreak
  have hplain := hasLineEnding_eq_false_iff.mp hliteral c (mem_of_mem_escapeLiteral hbreak hc)
  exact Bool.false_ne_true (hplain.symm.trans hbreak)

mutual

/-- **Inline content in a heading behind marks** spans lines only if there is a code span in it that
keeps a line ending or a reference with one in its label, and with Markdown's own rules it does
exactly then. -/
theorem Writer.spansAs_render (hwriter : ∀ kind, writer.LaysOut kind)
    (hrules : ∀ rule ∈ Rule.defaults, rule ∈ writer.rules) (node : Node)
    (hnode : node.isPhrasingTree = true) (parent : Option Node) (site : Site) {state after : State}
    {text : List Char} (hstack : .headingAtx ∈ state.constructs)
    (h : writer.render node parent site state = (.ok text, after)) :
    SpansAs (writer.rules = Rule.defaults) text
      (node.spansLines writer.references writer.keepsLineEnding) :=
  match node with
  | .leaf content => by
      rw [(hwriter content.kind).render_eq_layout rfl] at h
      exact content.spansAs_layout hrules hnode hstack h
  | .branch content children => by
      obtain ⟨hphrasing, hchildren⟩ := Bool.and_eq_true_iff.mp hnode
      have hinline :=
        (Writer.childrenSpanAs hwriter hrules children hchildren).inlineSpansAs content
      cases content with
      | emphasis =>
          rw [(hwriter .emphasis).render_eq_layout rfl] at h
          exact Layout.spansAs_emphasis hinline hstack h
      | strong =>
          rw [(hwriter .strong).render_eq_layout rfl] at h
          exact Layout.spansAs_strong hinline hstack h
      | link target =>
          rw [(hwriter .link).render_eq_layout rfl] at h
          exact Layout.spansAs_link hrules hinline
            (fun hautolink => spansAs_inlines_of_isAutolink (hwriter .text) hautolink) hstack h
      | linkReference association form =>
          rw [(hwriter .linkReference).render_eq_layout rfl] at h
          exact Layout.spansAs_linkReference hinline hstack h
      | _ => contradiction

/-- The same of children, one after the other. -/
theorem Writer.childrenSpanAs (hwriter : ∀ kind, writer.LaysOut kind)
    (hrules : ∀ rule ∈ Rule.defaults, rule ∈ writer.rules) (children : List Node)
    (hchildren : Node.arePhrasingTrees children = true) :
    writer.ChildrenSpanAs children (Node.anySpansLines writer.references writer.keepsLineEnding
      children) :=
  match children with
  | [] => by
      refine ⟨fun _ _ h => ?_⟩
      rw [inlinesFrom] at h
      obtain ⟨rfl, -⟩ := Render.pure_eq_ok.mp h
      exact ⟨[], (List.append_nil _).symm, .of_eq rfl⟩
  | child :: rest => by
      refine ⟨fun {parent _ _ _ _ _ _ _ _} hstate hstack h => ?_⟩
      obtain ⟨hchild, hrest⟩ := Bool.and_eq_true_iff.mp hchildren
      obtain ⟨place, start, text, behind, hstart, -, hrender, hbehind, hfollowing⟩ :=
        inlinesFrom_cons_eq_ok hstate h
      have hmarks : .headingAtx ∈ start.constructs := hstart.constructs ▸ hstack
      have htext :=
        Writer.spansAs_render hwriter hrules child hchild (some parent) place hmarks hrender
      obtain ⟨shown, rfl, hshown⟩ :=
        (Writer.childrenSpanAs hwriter hrules rest hrest).spansAs hbehind hstack hfollowing
      refine ⟨text ++ shown, ?_, htext.append hshown⟩
      rw [Progress.prepare_of_not_html (Node.isHtml_of_isPhrasingTree hchild)]
      simp [Progress.push, Progress.text]

end

end trees

/-! ## Headings -/

namespace Layout

/-- A leading space that is escaped is no line ending, escaped or not. -/
theorem hasLineEnding_keepLeadingSpace (text : List Char) :
    hasLineEnding (keepLeadingSpace text) = hasLineEnding text := by
  rcases keepLeadingSpace_cases text with ⟨-, hkept⟩ | ⟨c, rest, rfl, hc, hkept⟩
  · rw [hkept]
  · rw [hkept, hasLineEnding_append, hasLineEnding_cons, isLineBreak_of_isSpacing hc,
      hasLineEnding_eq_false_iff.mpr (isLineBreak_of_mem_characterReference c)]

/-- Marks and spaces add no line ending to a heading. -/
theorem hasLineEnding_atxText (rank : Nat) (closes : Bool) (content : List Char) :
    hasLineEnding (atxText rank closes content) = hasLineEnding content := by
  have hmarks : hasLineEnding (List.replicate rank '#') = false :=
    hasLineEnding_eq_false_iff.mpr (isLineBreak_of_mem_replicate rfl rank)
  have hspace (text : List Char) : hasLineEnding (' ' :: text) = hasLineEnding text := rfl
  have hopened : hasLineEnding (if content.isEmpty then List.replicate rank '#' else
      List.replicate rank '#' ++ ' ' :: content) = hasLineEnding content := by
    cases content with
    | nil => exact hmarks
    | cons c rest =>
        rw [List.isEmpty_cons, if_neg Bool.false_ne_true, hasLineEnding_append, hmarks, hspace,
          Bool.false_or]
  unfold atxText
  cases closes with
  | false => exact hopened
  | true => rw [if_pos rfl, hasLineEnding_append, hopened, hspace, hmarks, Bool.or_false]

end Layout

section heading

variable {writer : Writer} {depth : Nat} {children : List Node} {parent : Option Node} {site : Site}
  {state after : State} {text : List Char}

/-- A heading that is not to be underlined is written behind marks. -/
theorem Writer.LaysOut.exists_atxText (hwriter : writer.LaysOut .heading)
    (hatx : Node.isSetext state.style (.branch (.heading depth) children) = false)
    (h : writer.render (.branch (.heading depth) children) parent site state = (.ok text, after)) :
    ∃ place content inner closes, writer.inlines (.branch (.heading depth) children) place
        { state with constructs := .phrasing :: .headingAtx :: state.constructs } =
          (.ok content, inner) ∧
      text = Layout.atxText (headingRank depth) closes (Layout.keepLeadingSpace content) := by
  rw [hwriter.render_eq_layout rfl] at h
  have hlayout : Layout.heading (.branch (.heading depth) children) depth site
      (writer.inlines (.branch (.heading depth) children)) state = (.ok text, after) := h
  unfold Layout.heading Layout.atxHeading at hlayout
  rw [Render.bind_run_ok (Render.get_run state), if_neg (by simp [hatx])] at hlayout
  obtain ⟨content, middle, hcontent, htext⟩ := Render.bind_eq_ok.mp hlayout
  obtain ⟨_, hcontent, -⟩ := Render.entering_eq_ok.mp hcontent
  obtain ⟨inner, hcontent, -⟩ := Render.entering_eq_ok.mp hcontent
  rw [Render.bind_run_ok (Render.get_run middle)] at htext
  obtain ⟨rfl, -⟩ := Render.pure_eq_ok.mp htext
  exact ⟨_, content, inner, middle.style.closesAtx, hcontent, rfl⟩

/-- **Which headings behind marks stay on one line.** A heading of inline content that is not
underlined holds a line ending only if there is a code span in it that keeps one, or a reference
with one in its label. With Markdown's own rules it does exactly then, and which code spans keep one
is told by their values (`keepsEnding`). -/
theorem Writer.hasLineEnding_heading_iff (hwriter : ∀ kind, writer.LaysOut kind)
    (hrules : ∀ rule ∈ Rule.defaults, rule ∈ writer.rules)
    (hchildren : Node.arePhrasingTrees children = true)
    (hatx : Node.isSetext state.style (.branch (.heading depth) children) = false)
    (h : writer.render (.branch (.heading depth) children) parent site state = (.ok text, after)) :
    (hasLineEnding text = true →
      Node.anySpansLines writer.references writer.keepsLineEnding children = true) ∧
      (writer.rules = Rule.defaults →
        (hasLineEnding text = true ↔
          Node.anySpansLines writer.references keepsEnding children = true)) := by
  obtain ⟨place, content, inner, closes, hcontent, rfl⟩ := (hwriter .heading).exists_atxText hatx h
  have hinline :=
    (Writer.childrenSpanAs hwriter hrules children hchildren).inlineSpansAs (.heading depth)
  have hspans := hinline.spansAs (List.mem_cons_of_mem _ List.mem_cons_self) hcontent
  rw [Layout.hasLineEnding_atxText, Layout.hasLineEnding_keepLeadingSpace]
  refine ⟨hspans.only, fun hexact => ?_⟩
  have hkeeps : writer.keepsLineEnding = keepsEnding := by
    funext value
    rw [Writer.keepsLineEnding, hexact, hasLineEnding_codeSpan_defaults]
  exact hkeeps ▸ ⟨hspans.only, hspans.whenever hexact⟩

end heading

/-- A heading of rank 3 with line endings in all that it holds. -/
def brokenHeading : Node :=
  .branch (.heading 3) [.leaf (.text "a\nb"), .leaf .hardBreak,
    .branch (.link ⟨"c\nd", some "e\nf"⟩) [.leaf (.image ⟨"", none⟩ "g\nh")],
    .leaf (.inlineCode "i\nj")]

/-- All line endings but that of the code span are escaped, or become a space. -/
theorem hasLineEnding_brokenHeading :
    (∀ kind, Writer.standard.LaysOut kind) ∧ Node.isSetext {} brokenHeading = false ∧
      Writer.standard.render brokenHeading none (Writer.blockSite {}) {} =
        (.ok "### a&#xA;b [![g&#xA;h]()](<c&#xA;d> \"e&#xA;f\")\x60i\nj\x60".toList, {}) ∧
      hasLineEnding "### a&#xA;b [![g&#xA;h]()](<c&#xA;d> \"e&#xA;f\")\x60i\nj\x60".toList =
        true := by
  have hwriter : ∀ kind, Writer.standard.LaysOut kind := Writer.laysOut_of_defaults rfl
  have hatx : Node.isSetext {} brokenHeading = false := by decide
  have hrun : Writer.standard.render brokenHeading none (Writer.blockSite {}) {} =
      (.ok "### a&#xA;b [![g&#xA;h]()](<c&#xA;d> \"e&#xA;f\")\x60i\nj\x60".toList, {}) := by
    change @Eq (Except RenderError (List Char) × State) _ _
    decide +kernel
  have hiff := (Writer.hasLineEnding_heading_iff hwriter (fun _ => id) (by decide) hatx hrun).2 rfl
  exact ⟨hwriter, hatx, hrun, hiff.mpr (by decide +kernel)⟩

/-- **Headings of more than one line.** A code span keeps its line ending in a heading of a rank
that cannot be underlined, and so does the label of a reference, whatever the rank. -/
theorem not_forall_oneLine :
    (¬ ∀ (depth : Nat) (children : List Node) (text : List Char) (after : State),
      Node.arePhrasingTrees children = true →
      Node.isSetext {} (.branch (.heading depth) children) = false →
      Writer.standard.render (.branch (.heading depth) children) none (Writer.blockSite {}) {} =
        (.ok text, after) →
      hasLineEnding text = false) ∧
      toMarkdown (.node {} []) (.branch (.heading 3) [.leaf (.inlineCode "a\nb")]) =
        .ok "### \x60a\nb\x60\n" ∧
      toMarkdown (.node {} []) (.branch (.heading 1)
          [.branch (.linkReference ⟨"b c", some "b\nc"⟩ .full) [.leaf (.text "a")]]) =
        .ok "# [a][b\nc]\n" := by
  refine ⟨fun hclaim => ?_, by decide +kernel, by decide +kernel⟩
  have hrun : Writer.standard.render (.branch (.heading 3) [.leaf (.inlineCode "a\nb")])
      none (Writer.blockSite {}) {} = (.ok "### \x60a\nb\x60".toList, {}) := by
    change @Eq (Except RenderError (List Char) × State) _ _
    decide +kernel
  exact absurd (hclaim 3 _ _ _ (by decide) (by decide) hrun) (by decide)

end MarkdownWriter
