import MarkdownWriter.Proofs.Heading.Atx
import MarkdownWriter.Proofs.Render.Siblings
import MarkdownWriter.Proofs.Text.EdgeLines

/-!
# Underlined headings

A heading that spans lines is underlined. The underline is made as long as the last line of the
content, and has to stand below a line that is not blank to be one (`IsUnderlined`).

* **When a heading is underlined** (`isUnderlined_setextText_iff`): exactly if the last line of its
  content is not blank. If the content ends in a line ending that line is empty, and so is the
  underline.
* **Which headings end in a line ending.** Inline content other than text and hard breaks ends in a
  visible character, and so does text that does not end in a line ending itself, as spaces are
  escaped there (`Writer.exists_getLast?_of_isPhrasing`). So it is decided by the last child
  (`Writer.LaysOut.isUnderlined_iff`).
-/

namespace MarkdownWriter

open Text

/-! ## Underlines -/

/-- A text whose last line is an underline: a run of the mark, directly below a line that is not
blank. -/
def IsUnderlined (mark : Char) (text : List Char) : Prop :=
  ∃ above line width,
    (Lines.ofText text).contents = above ++ [line, List.replicate (width + 1) mark] ∧
    ∃ c ∈ line, isSpacing c = false

namespace Layout

/-- A content above an underline that is as long as the last line of the content. -/
def setextText (mark : Char) (content : List Char) : List Char :=
  content ++ '\n' :: List.replicate (Lines.ofText content).last.length mark

end Layout

section underline

variable {mark : Char} {content : List Char}

/-- The lines of an underlined content, if the line ending behind it is not half of one. -/
theorem contents_setextText (hmark : isLineBreak mark = false) (h : content.getLast? ≠ some '\r') :
    ∃ above, (Lines.ofText (Layout.setextText mark content)).contents =
      above ++ [(Lines.ofText content).last,
        List.replicate (Lines.ofText content).last.length mark] := by
  obtain ⟨above, habove⟩ := (Lines.ofText content).exists_contents_eq_append_last
  refine ⟨above, ?_⟩
  rw [Layout.setextText, Lines.contents_append_lineFeed h, habove,
    Lines.contents_of_free (isLineBreak_of_mem_replicate hmark _), List.append_assoc]
  rfl

/-- **When an underline is one**: exactly if the last line of the content is not blank. -/
theorem isUnderlined_setextText_iff (hmark : isLineBreak mark = false) :
    IsUnderlined mark (Layout.setextText mark content) ↔
      ∃ c ∈ (Lines.ofText content).last, isSpacing c = false := by
  by_cases hlast : content.getLast? = some '\r'
  · -- The last line is empty, and the line feed behind the content completes the ending above it.
    have hnil := Lines.last_eq_nil_of_getLast? rfl hlast
    have htext : (Lines.ofText (Layout.setextText mark content)).last = [] :=
      Lines.last_eq_nil_of_getLast? (b := '\n') rfl (by simp [Layout.setextText, hnil])
    rw [hnil]
    refine iff_of_false ?_ (by simp)
    rintro ⟨above, line, width, hcontents, -⟩
    obtain ⟨others, hothers⟩ :=
      (Lines.ofText (Layout.setextText mark content)).exists_contents_eq_append_last
    rw [hcontents, htext, List.append_cons] at hothers
    have := (List.append_inj' hothers rfl).2
    simp [List.replicate_succ] at this
  · obtain ⟨above, habove⟩ := contents_setextText hmark hlast
    constructor
    · rintro ⟨others, line, width, hcontents, hline⟩
      obtain ⟨-, hpair⟩ := List.append_inj' (habove.symm.trans hcontents) rfl
      rw [(List.cons.inj hpair).1]
      exact hline
    · rintro ⟨c, hc, hspacing⟩
      obtain ⟨width, hwidth⟩ := Nat.exists_eq_succ_of_ne_zero (List.length_pos_of_mem hc).ne'
      exact ⟨above, _, width, by rw [habove, hwidth], c, hc, hspacing⟩

end underline

/-! ## The last child -/

/-- What is written for the last child is the end of the whole, and it is followed by what follows
the whole. -/
theorem Writer.exists_last_of_inlinesFrom {writer : Writer} {parent child : Node} {site : Site}
    {front : List Node} {i index : Nat} {progress : Progress} {state after outer : State}
    {value : List Char} (hstate : state.IsWithin i outer)
    (h : inlinesFrom writer parent site (front ++ [child]) index progress state =
      (.ok value, after)) :
    ∃ written text place start behind, value = written ++ text ∧ place.after = site.after ∧
      start.constructs = outer.constructs ∧
      writer.render child (some parent) place start = (.ok text, behind) := by
  induction front generalizing i index progress state with
  | nil =>
      rw [List.nil_append, inlinesFrom_cons, Render.bind_run_ok (Render.goTo_run _ _)] at h
      obtain ⟨told, middle, htold, h⟩ := Render.bind_eq_ok.mp h
      obtain ⟨rfl, rfl⟩ := Render.pure_eq_ok.mp htold
      obtain ⟨text, behind, hrender, hrest⟩ := Render.bind_eq_ok.mp h
      rw [inlinesFrom] at hrest
      obtain ⟨rfl, -⟩ := Render.pure_eq_ok.mp hrest
      refine ⟨(progress.prepare child site.position).text, text, _, _, behind, ?_, ?_, ?_, hrender⟩
      · simp [Progress.push, Progress.text]
      · rfl
      · exact (hstate.goTo index).constructs
  | cons first front ih =>
      obtain ⟨_, _, _, _, -, -, -, hbehind, hrest⟩ := inlinesFrom_cons_eq_ok hstate h
      exact ih hbehind hrest

section lastChild

open Render

namespace Layout

variable {rules : List Rule} {state after : State} {site : Site} {inline : Inline}
  {value : List Char}

/-- A link ends with a bracket. -/
theorem getLast?_link {target : Resource} {children : List Node}
    (h : link rules target children site inline state = (.ok value, after)) :
    value.getLast? = some (if target.isAutolink state.style children then '>' else ')') := by
  obtain ⟨quote, _, hquote, h⟩ := bind_eq_ok.mp h
  obtain ⟨-, rfl⟩ := ofStyle_eq_ok.mp hquote
  rw [bind_run_ok (get_run _)] at h
  split at h
  · next hautolink =>
      obtain ⟨_, h, -⟩ := isolated_eq_ok.mp h
      obtain ⟨_, h, -⟩ := entering_eq_ok.mp h
      obtain ⟨content, _, -, h⟩ := bind_eq_ok.mp h
      obtain ⟨rfl, -⟩ := pure_eq_ok.mp h
      rw [if_pos hautolink]
      exact List.getLast?_concat
  · next hresource =>
      obtain ⟨_, h, -⟩ := entering_eq_ok.mp h
      obtain ⟨content, _, -, h⟩ := bind_eq_ok.mp h
      obtain ⟨written, _, -, h⟩ := bind_eq_ok.mp h
      obtain ⟨rfl, -⟩ := pure_eq_ok.mp h
      rw [if_neg hresource]
      exact List.getLast?_concat

/-- An image ends with its resource. -/
theorem getLast?_image {target : Resource} {alt : List Char}
    (h : image rules target alt state = (.ok value, after)) : value.getLast? = some ')' := by
  obtain ⟨quote, _, -, h⟩ := bind_eq_ok.mp h
  obtain ⟨_, h, -⟩ := entering_eq_ok.mp h
  obtain ⟨escaped, _, -, h⟩ := bind_eq_ok.mp h
  obtain ⟨written, _, -, h⟩ := bind_eq_ok.mp h
  obtain ⟨rfl, -⟩ := pure_eq_ok.mp h
  exact List.getLast?_concat

/-- Where line endings are safe, a hard break is one. -/
theorem hardBreak_run
    (h : (rules.any fun rule => rule.character == '\n' && rule.applies state.constructs) = false) :
    hardBreak rules site state = (.ok ['\\', '\n'], state) := by
  unfold hardBreak
  rw [bind_run_ok (get_run _), h]
  rfl

end Layout

namespace Node

/-- Whether a node is one that ends in a line ending as it is written: a hard break, or text that
does. -/
def endsLine : Node → Bool
  | .leaf .hardBreak => true
  | .leaf (.text value) => value.toList.getLast?.any isLineBreak
  | _ => false

end Node

variable {writer : Writer} {node : Node} {parent : Option Node} {site : Site} {state after : State}
  {text : List Char}

/-- The characters that inline content other than text and hard breaks ends with. -/
def closers : List Char :=
  ['*', '_', '\x60', '>', ')', ']']

/-- Inline content other than text and hard breaks is closed by a character of its own. -/
theorem Writer.exists_closer_of_isPhrasing (hwriter : ∀ kind ∈ node.kind?, writer.LaysOut kind)
    (hnode : node.isPhrasing = true) (htext : node.isText = false)
    (hbreak : node ≠ .leaf .hardBreak)
    (h : writer.render node parent site state = (.ok text, after)) :
    node.endsLine = false ∧ ∃ c ∈ closers, text.getLast? = some c := by
  by_cases hdelimited : node.isDelimited = true
  · obtain ⟨c, hc, -, inner, rfl⟩ := writer.exists_delimits hwriter hdelimited h
    have hends : node.endsLine = false := by
      rcases Node.cases_of_isDelimited hdelimited with ⟨_, rfl⟩ | ⟨_, rfl⟩ | ⟨_, rfl⟩ <;> rfl
    refine ⟨hends, c, List.mem_append_left ['>', ')', ']'] hc, ?_⟩
    rw [← List.append_assoc, List.getLast?_append, List.getLast?_replicate,
      if_neg node.delimiterLength_ne_zero, Option.some_or]
  by_cases hreference : node.isReference = true
  · have hends : node.endsLine = false := by
      unfold Node.isReference at hreference
      split at hreference <;> first | rfl | contradiction
    exact ⟨hends, ']', by decide, writer.getLast?_of_isReference hwriter hreference h⟩
  cases node with
  | leaf content =>
      cases content with
      | image target alt =>
          rw [(hwriter _ rfl).render_eq_layout rfl] at h
          exact ⟨rfl, ')', by decide, Layout.getLast?_image h⟩
      | imageReference => exact absurd rfl hreference
      | inlineCode => exact absurd rfl hdelimited
      | hardBreak => exact absurd rfl hbreak
      | _ => contradiction
  | branch content children =>
      cases content with
      | emphasis | strong => exact absurd rfl hdelimited
      | link target =>
          rw [(hwriter _ rfl).render_eq_layout rfl] at h
          refine ⟨rfl, _, ?_, Layout.getLast?_link h⟩
          split <;> decide
      | linkReference => exact absurd rfl hreference
      | _ => contradiction

theorem isSpacing_of_mem_closers {c : Char} (hc : c ∈ closers) :
    isSpacing c = false ∧ isLineBreak c = false := by
  have hkinds : ∀ c ∈ closers, isSpacing c = false ∧ isLineBreak c = false := by
    simp [closers, isSpacing, isLineBreak]
  exact hkinds c hc

/-- Where line endings may stand: no rule about them applies. -/
def Writer.AllowsLineEndings (writer : Writer) (stack : List Construct) : Prop :=
  (writer.rules.any fun rule => rule.character == '\n' && rule.applies stack) = false

/-- Of Markdown's own rules none does where nothing has to stay on one line. -/
theorem Writer.allowsLineEndings_of_defaults {stack : List Construct}
    (hrules : writer.rules = Rule.defaults)
    (hstack : ∀ construct ∈ stack, construct ∉ Rule.singleLine) :
    writer.AllowsLineEndings stack := by
  unfold AllowsLineEndings
  rw [hrules, List.any_eq_false]
  intro rule hmem hflagged
  obtain ⟨hcharacter, happlies⟩ := Bool.and_eq_true_iff.mp hflagged
  have hbreak : isLineBreak rule.character = true := by
    rw [beq_iff_eq.mp hcharacter]
    rfl
  rw [Rule.applies_of_isLineBreak hstack rule hmem hbreak] at happlies
  contradiction

/-- A hard break is a line ending behind a backslash where line endings may stand. -/
theorem Writer.LaysOut.render_hardBreak (hwriter : writer.LaysOut .hardBreak)
    (hlines : writer.AllowsLineEndings state.constructs)
    (h : writer.render (.leaf .hardBreak) parent site state = (.ok text, after)) :
    text = ['\\', '\n'] := by
  rw [hwriter.render_eq_layout rfl] at h
  have hrun : Layout.hardBreak writer.rules site state = (.ok text, after) := h
  rw [Layout.hardBreak_run hlines] at hrun
  obtain ⟨hvalue, -⟩ := outcome_eq_iff.mp hrun
  exact (Except.ok.inj hvalue).symm

/-- **How inline content ends** in front of a line ending: with a line ending if it is a hard break
or text that ends in one, and otherwise with a character that is visible. -/
theorem Writer.exists_getLast?_of_isPhrasing (hwriter : ∀ kind ∈ node.kind?, writer.LaysOut kind)
    (hrules : writer.rules = Rule.defaults) (hphrasing : .phrasing ∈ state.constructs)
    (hstack : ∀ construct ∈ state.constructs, construct ∉ Rule.singleLine)
    (hafter : site.after = ['\n']) (hnode : node.isPhrasing = true) (hne : node ≠ .leaf (.text ""))
    (h : writer.render node parent site state = (.ok text, after)) :
    ∃ c, text.getLast? = some c ∧ isSpacing c = false ∧
      (isLineBreak c = true ↔ node.endsLine = true) := by
  by_cases hbreak : node = .leaf .hardBreak
  · obtain rfl := hbreak
    obtain rfl :=
      (hwriter _ rfl).render_hardBreak (Writer.allowsLineEndings_of_defaults hrules hstack) h
    exact ⟨'\n', rfl, rfl, iff_of_true rfl rfl⟩
  cases htext : node.isText with
  | false =>
      obtain ⟨hends, c, hc, hlast⟩ :=
        writer.exists_closer_of_isPhrasing hwriter hnode htext hbreak h
      obtain ⟨hspacing, hline⟩ := isSpacing_of_mem_closers hc
      exact ⟨c, hlast, hspacing, by rw [hline, hends]⟩
  | true =>
      obtain ⟨value, rfl⟩ := Node.exists_of_isText htext
      rw [(hwriter _ rfl).render_eq_layout rfl] at h
      obtain ⟨rfl, -⟩ := literal_eq_ok.mp h
      have hvalue : value.toList ≠ [] := by
        intro hnil
        exact hne (by rw [String.toList_eq_nil_iff.mp hnil])
      rw [hrules]
      exact exists_getLast?_escapeLiteral hphrasing hstack hafter hvalue

/-- The last line of inline content in front of a line ending is blank exactly if the last child
ends in one. -/
theorem Writer.exists_mem_last_iff {content : Container} {front : List Node} {last : Node}
    {value : List Char} (hwriter : ∀ kind ∈ last.kind?, writer.LaysOut kind)
    (hrules : writer.rules = Rule.defaults) (hphrasing : .phrasing ∈ state.constructs)
    (hstack : ∀ construct ∈ state.constructs, construct ∉ Rule.singleLine)
    (hafter : site.after = ['\n']) (hlast : last.isPhrasing = true) (hne : last ≠ .leaf (.text ""))
    (h : writer.inlines (.branch content (front ++ [last])) site state = (.ok value, after)) :
    (∃ c ∈ (Lines.ofText value).last, isSpacing c = false) ↔ last.endsLine = false := by
  obtain ⟨_, hinlines, -⟩ := counting_eq_ok.mp h
  have hwithin : State.IsWithin { state with indexes := 0 :: state.indexes } 0 state :=
    ⟨rfl, rfl, rfl, rfl⟩
  obtain ⟨written, text, place, start, behind, rfl, hplace, hstart, hrender⟩ :=
    Writer.exists_last_of_inlinesFrom hwithin hinlines
  rw [← hstart] at hphrasing hstack
  obtain ⟨c, hc, hspacing, hends⟩ :=
    writer.exists_getLast?_of_isPhrasing hwriter hrules hphrasing hstack
      (hplace.trans hafter) hlast hne hrender
  have hwhole : (written ++ text).getLast? = some c := by
    rw [List.getLast?_append, hc, Option.some_or]
  cases hbreak : isLineBreak c with
  | true =>
      rw [Lines.last_eq_nil_of_getLast? hbreak hwhole, hends.mp hbreak]
      simp
  | false =>
      have hnot : last.endsLine = false := by
        rw [← Bool.not_eq_true, ← hends, hbreak]
        exact Bool.false_ne_true
      exact iff_of_true ⟨c, Lines.mem_last_of_getLast? hbreak hwhole, hspacing⟩ hnot

end lastChild

/-! ## Rendering -/

/-- The mark of an underline. -/
def underlineMark (depth : Nat) : Char :=
  if headingRank depth = 1 then '=' else '-'

theorem isLineBreak_underlineMark (depth : Nat) : isLineBreak (underlineMark depth) = false := by
  unfold underlineMark
  split <;> rfl

section written

variable {writer : Writer} {depth : Nat} {children : List Node} {parent : Option Node} {site : Site}
  {state after : State} {text : List Char}

/-- A heading that is to be underlined is written as its content above an underline. -/
theorem Writer.LaysOut.exists_setextText (hwriter : writer.LaysOut .heading)
    (hsetext : Node.isSetext state.style (.branch (.heading depth) children) = true)
    (h : writer.render (.branch (.heading depth) children) parent site state = (.ok text, after)) :
    ∃ content inner,
      writer.inlines (.branch (.heading depth) children) ⟨['\n'], ['\n'], site.position⟩
        { state with constructs := .phrasing :: .headingSetext :: state.constructs } =
          (.ok content, inner) ∧
      text = Layout.setextText (underlineMark depth) content := by
  rw [hwriter.render_eq_layout rfl] at h
  have hlayout : Layout.heading (.branch (.heading depth) children) depth site
      (writer.inlines (.branch (.heading depth) children)) state = (.ok text, after) := h
  unfold Layout.heading Layout.setextHeading at hlayout
  rw [Render.bind_run_ok (Render.get_run state), if_pos hsetext] at hlayout
  obtain ⟨content, _, hcontent, htext⟩ := Render.bind_eq_ok.mp hlayout
  obtain ⟨_, hcontent, -⟩ := Render.entering_eq_ok.mp hcontent
  obtain ⟨inner, hcontent, -⟩ := Render.entering_eq_ok.mp hcontent
  obtain ⟨rfl, -⟩ := Render.pure_eq_ok.mp htext
  exact ⟨content, inner, hcontent, by simp [Layout.setextText, underlineMark]⟩

/-- **When a heading is underlined.** What is written for a heading that is to be underlined is its
content above an underline as long as the last line of the content, and that is read as one exactly
if this line is not blank. With Markdown's own rules, and where nothing around the heading has to
stay on one line, a heading whose last child is inline content, and not an empty text, is underlined
exactly if that child is neither a hard break nor text that ends in a line ending. -/
theorem Writer.LaysOut.isUnderlined_iff (hwriter : writer.LaysOut .heading)
    (hsetext : Node.isSetext state.style (.branch (.heading depth) children) = true)
    (h : writer.render (.branch (.heading depth) children) parent site state = (.ok text, after)) :
    ∃ content inner,
      writer.inlines (.branch (.heading depth) children) ⟨['\n'], ['\n'], site.position⟩
        { state with constructs := .phrasing :: .headingSetext :: state.constructs } =
          (.ok content, inner) ∧
      text = Layout.setextText (underlineMark depth) content ∧
      (IsUnderlined (underlineMark depth) text ↔
        ∃ c ∈ (Lines.ofText content).last, isSpacing c = false) ∧
      (writer.rules = Rule.defaults →
        (∀ construct ∈ state.constructs, construct ∉ Rule.singleLine) →
        ∀ front last, children = front ++ [last] → (∀ kind ∈ last.kind?, writer.LaysOut kind) →
          last.isPhrasing = true → last ≠ .leaf (.text "") →
            (IsUnderlined (underlineMark depth) text ↔ last.endsLine = false)) := by
  obtain ⟨content, inner, hcontent, rfl⟩ := hwriter.exists_setextText hsetext h
  have hiff := @isUnderlined_setextText_iff _ content (isLineBreak_underlineMark depth)
  refine ⟨content, inner, hcontent, rfl, hiff, ?_⟩
  rintro hrules hstack front last rfl hlaysOut hphrasing hne
  rw [hiff]
  refine Writer.exists_mem_last_iff hlaysOut hrules List.mem_cons_self ?_ rfl hphrasing hne hcontent
  exact List.forall_mem_cons.mpr ⟨by decide, List.forall_mem_cons.mpr ⟨by decide, hstack⟩⟩

end written

/-- A heading of three lines, with a hard break and emphasis at its end. -/
def linedHeading : Node :=
  .branch (.heading 2) [.leaf (.text "a\nb"), .leaf .hardBreak,
    .branch .emphasis [.leaf (.text "c")]]

/-- Text on two lines with a break between them is underlined as far as the last of them goes. -/
theorem isUnderlined_linedHeading :
    Writer.standard.LaysOut .heading ∧ Node.isSetext {} linedHeading = true ∧
      Writer.standard.render linedHeading none (Writer.blockSite {}) {} =
        (.ok "a\nb\\\n*c*\n---".toList, {}) ∧
      IsUnderlined '-' "a\nb\\\n*c*\n---".toList := by
  have hwriter : ∀ kind, Writer.standard.LaysOut kind := Writer.laysOut_of_defaults rfl
  have hsetext : Node.isSetext {} linedHeading = true := by decide
  have hrun : Writer.standard.render linedHeading none (Writer.blockSite {}) {} =
      (.ok "a\nb\\\n*c*\n---".toList, {}) := by
    change @Eq (Except RenderError (List Char) × State) _ _
    decide +kernel
  obtain ⟨content, inner, -, -, -, hlast⟩ :=
    @Writer.LaysOut.isUnderlined_iff _ _ _ _ _ _ _ _ (hwriter .heading) hsetext hrun
  have hends :=
    hlast rfl (fun _ h => absurd h List.not_mem_nil) [.leaf (.text "a\nb"), .leaf .hardBreak]
    (.branch .emphasis [.leaf (.text "c")]) rfl (fun kind _ => hwriter kind) rfl Node.noConfusion
  exact ⟨hwriter .heading, hsetext, hrun, hends.mpr rfl⟩

/-- **Headings that are not underlined.** A text that ends in a line ending leaves no last line for
the underline to be as long as, and so does a hard break at the end. -/
theorem not_forall_isUnderlined :
    (¬ ∀ (children : List Node) (text : List Char) (after : State),
      Node.isSetext {} (.branch (.heading 1) children) = true →
      Writer.standard.render (.branch (.heading 1) children) none (Writer.blockSite {}) {} =
        (.ok text, after) →
      IsUnderlined '=' text) ∧
      toMarkdown (.node {} []) (.branch (.heading 1) [.leaf (.text "a\n")]) = .ok "a\n\n" ∧
      toMarkdown (.node {} []) (.branch (.heading 1) [.leaf (.text "a"), .leaf .hardBreak]) =
        .ok "a\\\n\n" := by
  refine ⟨fun hclaim => ?_, by decide +kernel, by decide +kernel⟩
  have hrun : Writer.standard.render (.branch (.heading 1) [.leaf (.text "a\n")])
      none (Writer.blockSite {}) {} = (.ok (Layout.setextText '=' "a\n".toList), {}) := by
    change @Eq (Except RenderError (List Char) × State) _ _
    decide +kernel
  have hunderlined := hclaim [.leaf (.text "a\n")] _ _ (by decide) hrun
  rw [isUnderlined_setextText_iff rfl] at hunderlined
  obtain ⟨c, hc, -⟩ := hunderlined
  exact List.not_mem_nil hc

end MarkdownWriter
