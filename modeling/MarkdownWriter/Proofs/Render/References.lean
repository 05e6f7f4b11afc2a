import MarkdownWriter.Proofs.Link.LookedUp
import MarkdownWriter.Proofs.Render.Nests
import MarkdownWriter.Proofs.Render.Paragraph

/-!
# References and their definitions

A definition and the references to it have to show the same label, or Markdown does not find the one
for the other. The label of a definition is escaped in the blocks around it, behind nothing but a
bracket; that of a reference is escaped as if nothing were open, behind all that is written of the
reference. Both come to the same text (`Writer.exists_isLabel`), and a reference that leaves its
label out has that very text between its first brackets.

* **Which text is the label** (`Association.Shows`): the label of the source, if there is one that
  is not empty, or the identifier with its escapes and references resolved.
* **How a reference is written** (`IsReference`, `Closes`): what is written of the text, and what
  stands behind it in each of the three forms.
* **What is looked up** (`LooksUp`): the label, if it can be one, whatever follows the reference
  (`IsReference.looksUp`), and else the text of the reference (`IsReference.lookedUp_text`).
* **Where definitions stand**: in a document of nested blocks all of them are in places where no
  inline construct is open (`Writer.IsBuiltIn.exists_run_of_nests`), so their labels are escaped
  alike.
-/

namespace MarkdownWriter

/-! ## What is looked up -/

/-- What stands behind the text of a reference of a given form. Text that is not the label, or no
text at all, is never left to stand for the label. -/
inductive Closes (label text : List Char) : ReferenceForm → List Char → Prop where
  /-- The label is in brackets of its own. -/
  | full {form : ReferenceForm} (h : form = .full ∨ text = [] ∨ text ≠ label) :
      Closes label text form ('[' :: label ++ [']'])
  /-- The text is the label, and the brackets behind it are empty. -/
  | collapsed (hne : text ≠ []) (h : text = label) : Closes label text .collapsed ['[', ']']
  /-- The text is the label, and there are no further brackets. -/
  | shortcut (hne : text ≠ []) (h : text = label) : Closes label text .shortcut []

/-- What a reference of a given form is written as, if it begins with `opening` and its label is
`label`. -/
def IsReference (label opening : List Char) (form : ReferenceForm) (value : List Char) : Prop :=
  ∃ text behind, value = opening ++ text ++ ']' :: behind ∧ Closes label text form behind

/-- A reference that is written this way and for which `label` is looked up, whatever follows it.
Where only the text is in brackets, what follows is no opening bracket or parenthesis. -/
def LooksUp (label opening : List Char) (form : ReferenceForm) (value : List Char) : Prop :=
  ∃ text behind, value = opening ++ text ++ ']' :: behind ∧ Closes label text form behind ∧
    ∀ more : List Char, (behind = [] → more.head? ≠ some '[' ∧ more.head? ≠ some '(') →
      lookedUp text (behind ++ more) = some label

/-- The text that is to be the label of an association: the label of the source, if there is one
that is not empty, and else the identifier, in which escapes and character references are resolved.
-/
inductive Association.Shows (references : Text.References) (association : Association) :
    List Char → Prop where
  | label {source : String} (h : association.label = some source) (hne : source ≠ "") :
      Shows references association source.toList
  | identifier (h : ∀ source, association.label = some source → source = "") :
      Shows references association (Text.decodeWith references association.identifier.toList)

/-- A text is the label of an association wherever that is written: definitions in a nest of blocks
begin with it, and it has to what references are written as the relation `refers`. -/
structure Writer.IsLabel (writer : Writer)
    (refers : List Char → List Char → ReferenceForm → List Char → Prop)
    (association : Association) (label : List Char) : Prop where
  definition : ∀ {target parent site state value after}, IsNest state.constructs →
    writer.renderAs .definition (.leaf (.definition association target)) parent site state =
      (.ok value, after) → '[' :: label ++ [']', ':', ' '] <+: value
  linkReference : ∀ {form children parent site state value after},
    writer.renderAs .linkReference (.branch (.linkReference association form) children) parent site
      state = (.ok value, after) → refers label ['['] form value
  imageReference : ∀ {form alt parent site state value after},
    writer.renderAs .imageReference (.leaf (.imageReference association form alt)) parent site
      state = (.ok value, after) → refers label ['!', '['] form value
  /-- In a document of nested blocks every definition is written, and begins with the label. -/
  nested : writer.IsBuiltIn → ∀ {target document parent site state value after},
    IsNest state.constructs → (Node.leaf (.definition association target)).Nests document →
    writer.render document parent site state = (.ok value, after) →
    ∃ parent site state text after,
      writer.render (.leaf (.definition association target)) parent site state = (.ok text, after) ∧
        '[' :: label ++ [']', ':', ' '] <+: text

/-- The label that can be written for an association is that of the source, or the identifier read
as Markdown. -/
theorem Association.shows_text (references : Text.References) (association : Association) :
    association.Shows references (association.text references) := by
  obtain ⟨identifier, label⟩ := association
  cases label with
  | none => exact .identifier nofun
  | some source =>
      unfold text
      dsimp only
      split
      · next hempty =>
          refine .identifier fun other hother => ?_
          rw [← Option.some.inj hother]
          exact String.isEmpty_iff.mp hempty
      · next hempty => exact .label rfl (mt String.isEmpty_iff.mpr hempty)

section reading

variable {label text behind more : List Char} {form : ReferenceForm}

/-- What is looked up for a reference: its label, if what is written for that is read as a label,
and else its text. -/
theorem Closes.lookedUp_eq (h : Closes label text form behind)
    (hread : ∀ more,
      readLabel ('[' :: label ++ ']' :: more) = if IsLinkLabel label then some label else none)
    (hmore : behind = [] → more.head? ≠ some '[') :
    lookedUp text (behind ++ more) =
      if IsLinkLabel label then some label else if IsLinkLabel text then some text else none := by
  unfold lookedUp
  cases h with
  | full =>
      rw [List.append_assoc, List.singleton_append, hread]
      by_cases hlabel : IsLinkLabel label
      · rw [if_pos hlabel, if_pos hlabel]
      · rw [if_neg hlabel, if_neg hlabel]
  | collapsed hne h =>
      rw [List.cons_append, List.singleton_append, readLabel_nothing, h]
      dsimp only
      split <;> rfl
  | shortcut hne h =>
      rw [List.nil_append, readLabel_of_head? (hmore rfl), h]
      dsimp only
      split <;> rfl

end reading

/-! ## Layouts -/

section layouts

variable {rules : List Rule} {state after : State} {value : List Char}

theorem Render.literal_eq_ok {text : List Char} {around : Surroundings} :
    Render.literal rules text around state = (.ok value, after) ↔
      escapeLiteral rules state.constructs text around = value ∧ state = after :=
  pure_eq_ok

/-- A literal text in one more construct. -/
theorem Render.entering_literal_run (construct : Construct) (text : List Char)
    (around : Surroundings) :
    Render.entering construct (Render.literal rules text around) state =
      (.ok (escapeLiteral rules (construct :: state.constructs) text around), state) :=
  rfl

namespace Layout

open Render

/-- A destination is written behind what is there. -/
theorem prefix_of_destination {enclosed : Bool} {behind url written : List Char}
    (h : destination rules enclosed behind url written state = (.ok value, after)) :
    written <+: value := by
  unfold destination at h
  split at h
  · obtain ⟨_, h, -⟩ := entering_eq_ok.mp h
    obtain ⟨escaped, _, -, h⟩ := bind_eq_ok.mp h
    obtain ⟨rfl, -⟩ := pure_eq_ok.mp h
    exact ⟨'<' :: escaped ++ ['>'], by simp⟩
  · obtain ⟨_, h, -⟩ := entering_eq_ok.mp h
    obtain ⟨escaped, _, -, h⟩ := bind_eq_ok.mp h
    obtain ⟨rfl, -⟩ := pure_eq_ok.mp h
    exact List.prefix_append written escaped

/-- A title is written behind what is there. -/
theorem prefix_of_title {quote : Char} {caption : Option String} {written : List Char}
    (h : title rules quote caption written state = (.ok value, after)) : written <+: value := by
  unfold title at h
  split at h
  · obtain ⟨rfl, -⟩ := pure_eq_ok.mp h
    exact List.prefix_rfl
  · obtain ⟨_, h, -⟩ := entering_eq_ok.mp h
    obtain ⟨escaped, _, -, h⟩ := bind_eq_ok.mp h
    obtain ⟨rfl, -⟩ := pure_eq_ok.mp h
    exact ⟨' ' :: quote :: escaped ++ [quote], by simp⟩

/-- A definition begins with its label, escaped among the constructs that are open. -/
theorem prefix_of_definition {label : List Char} {target : Resource}
    (h : definition rules label target state = (.ok value, after)) :
    '[' :: escapeLiteral rules (.label :: .definition :: state.constructs) label
      (labelSite []) ++ [']', ':', ' '] <+: value := by
  obtain ⟨quote, _, hquote, h⟩ := bind_eq_ok.mp h
  obtain ⟨-, rfl⟩ := ofStyle_eq_ok.mp hquote
  obtain ⟨_, h, -⟩ := entering_eq_ok.mp h
  obtain ⟨escaped, _, hlabel, h⟩ := bind_eq_ok.mp h
  obtain ⟨_, hlabel, -⟩ := entering_eq_ok.mp hlabel
  obtain ⟨rfl, -⟩ := literal_eq_ok.mp hlabel
  obtain ⟨written, _, hwritten, h⟩ := bind_eq_ok.mp h
  exact (prefix_of_destination hwritten).trans (prefix_of_title h)

/-- A reference is finished with its label, escaped as if nothing were open, or without it if its
text is the label. -/
theorem isReference_of_closeReference {form : ReferenceForm} {opening text label : List Char}
    (h : closeReference rules form text label (opening ++ text ++ [']', '[']) state =
      (.ok value, after)) :
    IsReference (escapeLiteral rules [.reference] label (labelSite (opening ++ text ++ [']'])))
      opening form value := by
  obtain ⟨escaped, _, hescaped, h⟩ := bind_eq_ok.mp h
  obtain ⟨_, hescaped, -⟩ := isolated_eq_ok.mp hescaped
  obtain ⟨_, hescaped, -⟩ := entering_eq_ok.mp hescaped
  obtain ⟨hescaped, -⟩ := literal_eq_ok.mp hescaped
  have hsite : opening ++ text ++ [']', '['] = opening ++ text ++ [']'] ++ ['['] := by simp
  have hescaped : escapeLiteral rules [.reference] label (labelSite (opening ++ text ++ [']'])) =
      escaped := by
    rw [← hescaped, hsite]
    rfl
  rw [hescaped]
  split at h
  · next hlong =>
      obtain ⟨rfl, -⟩ := pure_eq_ok.mp h
      simp only [Bool.or_eq_true, beq_iff_eq, List.isEmpty_iff, bne_iff_ne, or_assoc] at hlong
      exact ⟨text, _, by simp, .full hlong⟩
  · next hshort =>
      simp only [Bool.or_eq_true, beq_iff_eq, List.isEmpty_iff, bne_iff_ne, ne_eq, not_or,
        not_not] at hshort
      obtain ⟨⟨hform, htext⟩, hlabel⟩ := hshort
      cases form with
      | full => contradiction
      | collapsed =>
          obtain ⟨rfl, -⟩ := pure_eq_ok.mp h
          exact ⟨text, _, by simp, .collapsed htext hlabel⟩
      | shortcut =>
          obtain ⟨rfl, -⟩ := pure_eq_ok.mp h
          rw [hsite, List.dropLast_concat]
          exact ⟨text, _, rfl, .shortcut htext hlabel⟩

/-- A link reference. -/
theorem isReference_of_linkReference {label : List Char} {form : ReferenceForm} {site : Site}
    {inline : Inline} (h : linkReference rules label form site inline state = (.ok value, after)) :
    ∃ context, IsReference (escapeLiteral rules [.reference] label (labelSite context))
      ['['] form value := by
  obtain ⟨_, h, -⟩ := entering_eq_ok.mp h
  obtain ⟨content, _, -, h⟩ := bind_eq_ok.mp h
  exact ⟨_, isReference_of_closeReference h⟩

/-- An image reference. -/
theorem isReference_of_imageReference {label : List Char} {form : ReferenceForm} {alt : List Char}
    (h : imageReference rules label form alt state = (.ok value, after)) :
    ∃ context, IsReference (escapeLiteral rules [.reference] label (labelSite context))
      ['!', '['] form value := by
  obtain ⟨_, h, -⟩ := entering_eq_ok.mp h
  obtain ⟨escaped, _, -, h⟩ := bind_eq_ok.mp h
  exact ⟨_, isReference_of_closeReference h⟩

end Layout

end layouts

/-! ## Labels -/

/-- The label of an association, as it is written where nothing is open. -/
def Writer.labelText (writer : Writer) (association : Association) : List Char :=
  escapeLiteral Rule.defaults [.reference] (association.text writer.references) (labelSite [])

section labels

variable {writer : Writer} (hrules : writer.rules = Rule.defaults) {association : Association}
  {parent : Option Node} {site : Site} {state after : State} {value : List Char}

/-- The label is read as such, unless it cannot be one. -/
theorem readLabel_labelText (association : Association) (more : List Char) :
    readLabel ('[' :: writer.labelText association ++ ']' :: more) =
      if IsLinkLabel (writer.labelText association) then some (writer.labelText association)
        else none := by
  unfold Writer.labelText
  rw [readLabel_escapeLiteral isLabelStack_reference]
  refine if_congr ?_ rfl rfl
  rw [isLinkLabel_escapeLiteral_iff isLabelStack_reference, List.any_eq_true]

include hrules

/-- A definition in a nest of blocks begins with the label. -/
theorem prefix_of_definition_of_isNest {target : Resource} (hnest : IsNest state.constructs)
    (h : writer.renderAs .definition (.leaf (.definition association target)) parent site state =
      (.ok value, after)) :
    '[' :: writer.labelText association ++ [']', ':', ' '] <+: value := by
  have hprefix := Layout.prefix_of_definition h
  rwa [hrules,
    escapeLiteral_label_eq (isLabelStack_definition hnest) isLabelStack_reference [] []] at hprefix

/-- A link reference is one to the label. -/
theorem isReference_labelText_of_linkReference {form : ReferenceForm} {children : List Node}
    (h : writer.renderAs .linkReference (.branch (.linkReference association form) children) parent
      site state = (.ok value, after)) : IsReference (writer.labelText association)
        ['['] form value := by
  have hlayout : Layout.linkReference writer.rules (association.text writer.references) form site
      (writer.inlines (.branch (.linkReference association form) children)) state =
        (.ok value, after) := h
  obtain ⟨context, hreference⟩ := Layout.isReference_of_linkReference hlayout
  rwa [hrules,
    escapeLiteral_label_eq isLabelStack_reference isLabelStack_reference context []] at hreference

/-- An image reference is one to the label. -/
theorem isReference_labelText_of_imageReference {form : ReferenceForm} {alt : String}
    (h : writer.renderAs .imageReference (.leaf (.imageReference association form alt)) parent site
      state = (.ok value, after)) : IsReference (writer.labelText association)
        ['!', '['] form value := by
  obtain ⟨context, hreference⟩ := Layout.isReference_of_imageReference h
  rwa [hrules,
    escapeLiteral_label_eq isLabelStack_reference isLabelStack_reference context []] at hreference

omit hrules in
/-- A label that can be one is looked up for the references to it. -/
theorem IsReference.looksUp {opening : List Char} {form : ReferenceForm}
    (h : IsReference (writer.labelText association) opening form value)
    (hlabel : IsLinkLabel (writer.labelText association)) :
    LooksUp (writer.labelText association) opening form value := by
  obtain ⟨text, behind, hvalue, hcloses⟩ := h
  refine ⟨text, behind, hvalue, hcloses, fun more hmore => ?_⟩
  rw [hcloses.lookedUp_eq (readLabel_labelText association) fun hbehind => (hmore hbehind).1,
    if_pos hlabel]

omit hrules in
/-- If it cannot be one, the text of a reference is looked up, not the label. -/
theorem IsReference.lookedUp_text {opening : List Char} {form : ReferenceForm}
    (h : IsReference (writer.labelText association) opening form value)
    (hlabel : ¬ IsLinkLabel (writer.labelText association)) :
    ∃ text behind, value = opening ++ text ++ ']' :: behind ∧
      ∀ more : List Char, (behind = [] → more.head? ≠ some '[') →
        lookedUp text (behind ++ more) = if IsLinkLabel text then some text else none := by
  obtain ⟨text, behind, hvalue, hcloses⟩ := h
  refine ⟨text, behind, hvalue, fun more hmore => ?_⟩
  rw [hcloses.lookedUp_eq (readLabel_labelText association) hmore, if_neg hlabel]

/-- The label is shown wherever the association is written, with all that follows from that for
references. -/
theorem isLabel_labelText {refers : List Char → List Char → ReferenceForm → List Char → Prop}
    (hrefers : ∀ {opening form value},
      IsReference (writer.labelText association) opening form value →
      refers (writer.labelText association) opening form value) :
    writer.IsLabel refers association (writer.labelText association) where
  definition := prefix_of_definition_of_isNest hrules
  linkReference := fun h => hrefers (isReference_labelText_of_linkReference hrules h)
  imageReference := fun h => hrefers (isReference_labelText_of_imageReference hrules h)
  nested := by
    intro hwriter target document parent site state value after hstate hnests h
    obtain ⟨parent, site, state, text, after, hnest, hrun⟩ :=
      hwriter.exists_run_of_nests hnests hstate h
    refine ⟨parent, site, state, text, after, hrun, ?_⟩
    rw [(hwriter.laysOut .definition).render_eq rfl] at hrun
    exact prefix_of_definition_of_isNest hrules hnest hrun

end labels

/-- **References show the label of their definition.** For every association there is one text, its
label with what is unsafe in labels escaped. Definitions in any nest of blocks begin with it, and it
is in the brackets of references of every form that stand for their label, with any text and
whatever constructs are open. If CommonMark reads it as a label, it is looked up for all of them. It
is read as a label unless it is too long or nothing in it shows. -/
theorem Writer.exists_isLabel {writer : Writer} (hrules : writer.rules = Rule.defaults)
    (association : Association) :
    ∃ shown label, association.Shows writer.references shown ∧
      label = escapeLiteral Rule.defaults [.reference] shown (labelSite []) ∧
      writer.IsLabel IsReference association label ∧
      (IsLinkLabel label → writer.IsLabel LooksUp association label) ∧
      (IsLinkLabel label ↔ (∃ c ∈ shown, isVisible c = true) ∧ label.length ≤ 999) :=
  ⟨_, writer.labelText association, association.shows_text writer.references, rfl,
    isLabel_labelText hrules id, fun hlabel => isLabel_labelText hrules (·.looksUp hlabel),
    isLinkLabel_escapeLiteral_iff isLabelStack_reference _ _⟩

/-- The label of an identifier with a reference, a bracket, list markers and a backslash is escaped
in the same way in an item of a list in a block quote and in an image of a paragraph, where it is
left out as the image shows it. -/
theorem isLabel_brackets :
    (Writer.standard.renderAs .definition
        (.leaf (.definition ⟨"a&amp;\\]\n+\n+\\", none⟩ ⟨"b", none⟩)) none
        ⟨[], [], {}⟩ { constructs := [.listItem, .list, .blockquote] }).1 =
      .ok "[a&\\]\n\\+\n+\\\\]: b".toList ∧
      (Writer.standard.renderAs .imageReference
          (.leaf (.imageReference ⟨"a&amp;\\]\n+\n+\\", none⟩ .collapsed "a&]\n+\n+\\")) none
          ⟨[], [], {}⟩ { constructs := [.phrasing, .paragraph] }).1 =
        .ok "![a&\\]\n\\+\n+\\\\][]".toList ∧
      Writer.standard.IsLabel LooksUp ⟨"a&amp;\\]\n+\n+\\", none⟩ "a&\\]\n\\+\n+\\\\".toList := by
  refine ⟨by decide +kernel, by decide +kernel, ?_⟩
  obtain ⟨shown, label, hshown, hlabel, -, hisLabel, -⟩ :=
    @Writer.exists_isLabel Writer.standard rfl ⟨"a&amp;\\]\n+\n+\\", none⟩
  cases hshown with
  | label h => contradiction
  | identifier =>
      have hlabel_eq : label = "a&\\]\n\\+\n+\\\\".toList := by
        rw [hlabel]
        decide +kernel
      rw [hlabel_eq] at hisLabel
      exact hisLabel (by decide +kernel)

/-- An association without a text has no label. Its definition is written as one of nothing, but for
a reference to it that shows `x` that `x` is looked up. -/
theorem not_forall_isLabel :
    ¬ ∀ association : Association, ∃ label, Writer.standard.IsLabel LooksUp association label := by
  intro h
  obtain ⟨label, hlabel⟩ := h {}
  have hdefinition :
      (Writer.standard.renderAs .definition (.leaf (.definition {} ⟨"u", none⟩)) none ⟨[], [], {}⟩
        {}).1 = .ok "[]: u".toList := by decide +kernel
  have hreference :
      (Writer.standard.renderAs .linkReference
        (.branch (.linkReference {} .full) [.leaf (.text "x")])
      none ⟨[], [], {}⟩ {}).1 = .ok "[x][]".toList := by decide +kernel
  have hnest : IsNest [] := by decide
  have hprefix := hlabel.definition hnest (Prod.ext hdefinition rfl)
  obtain ⟨text, behind, hvalue, hcloses, hlookedUp⟩ :=
    hlabel.linkReference (Prod.ext hreference rfl)
  obtain rfl : label = [] := by
    have hlength := hprefix.length_le
    rw [List.length_append, List.length_cons, show "[]: u".toList.length = 5 by decide,
      show [']', ':', ' '].length = 3 by decide] at hlength
    rcases label with _ | ⟨c, _ | ⟨d, rest⟩⟩
    · rfl
    · obtain ⟨more, hmore⟩ := hprefix
      have hcolon := (List.cons.inj (List.cons.inj (List.cons.inj hmore).2).2).1
      exact absurd hcolon (by decide)
    · rw [List.length_cons, List.length_cons] at hlength
      omega
  cases hcloses
  have htext : text ++ "][]".toList = ['x'] ++ "][]".toList := (List.cons.inj hvalue).2.symm
  obtain rfl := List.append_cancel_right htext
  exact absurd (hlookedUp [] nofun) (by decide)

end MarkdownWriter
