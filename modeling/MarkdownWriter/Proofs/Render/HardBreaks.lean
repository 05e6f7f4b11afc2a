import MarkdownWriter.Proofs.Heading.Underline

/-!
# Hard breaks and raw HTML

Raw HTML that starts a line could start a block, so a line ending at the end of the child in front
of it is written as a space (`shownBefore`). Inline content is the texts of the children one behind
the other, each of them with that change (`Writer.exists_shown`).

* **Which line endings become spaces.** That is decided by the text in front alone. So the line
  ending may be one of a text, as intended, but also the one of a hard break or one that raw HTML
  itself ends with.
* **Which hard breaks are left** (`Writer.LaysOut.exists_hardBreaks`): all that raw HTML does not
  follow. In front of raw HTML only the backslash of a hard break is left, which is then a backslash
  of the text.
-/

namespace MarkdownWriter

open Text

/-! ## What is shown of a child -/

/-- What is shown of a child with the given text in front of the next one. -/
def shownBefore (next : Option Node) (text : List Char) : List Char :=
  if next.any Node.isHtml = true ∧ text.getLast?.any isLineBreak = true then
    dropFinalLineEnding text ++ [' ']
  else text

/-- What is shown of children with the given texts. -/
def shownAll : List Node → List (List Char) → List (List Char)
  | _ :: rest, text :: texts => shownBefore rest.head? text :: shownAll rest texts
  | _, _ => []

/-- A text is changed exactly if it ends in a line break that raw HTML follows. -/
theorem shownBefore_eq_iff {next : Option Node} {text : List Char} :
    shownBefore next text = text ↔
      ¬ (next.any Node.isHtml = true ∧ text.getLast?.any isLineBreak = true) := by
  unfold shownBefore
  split
  · next h =>
      refine iff_of_false (fun heq => ?_) (not_not_intro h)
      have hlast := h.2
      rw [← heq, List.getLast?_concat] at hlast
      contradiction
  · next h => exact iff_of_true rfl h

theorem getElem?_shownAll {children : List Node} {texts : List (List Char)}
    (h : texts.length = children.length)
    (k : Nat) : (shownAll children texts)[k]? = texts[k]?.map (shownBefore children[k + 1]?) := by
  induction children generalizing texts k with
  | nil =>
      obtain rfl := List.eq_nil_of_length_eq_zero h
      rfl
  | cons child rest ih =>
      cases texts with
      | nil => contradiction
      | cons text texts =>
          cases k with
          | zero => simp [shownAll, List.head?_eq_getElem?]
          | succ k => exact ih (Nat.succ.inj h) k

namespace Writer

/-- Behind a child the text is what is shown of it in front of the next one. -/
theorem Progress.text_prepare_push (progress : Progress) (text : List Char) (next : Node)
    (start : Position) :
    ((progress.push text).prepare next start).text = progress.text ++ shownBefore
      (some next) text := by
  have hjoin : ((progress.push text).before == ['\n'] || (progress.push text).before == ['\r']) =
      text.getLast?.any isLineBreak := by
    cases hlast : text.getLast? with
    | none => simp [push, hlast]
    | some c => simp [push, hlast, isLineBreak, Bool.beq_eq_decide_eq]
  unfold prepare shownBefore
  cases hhtml : next.isHtml with
  | false => simp [push, Progress.text, hhtml]
  | true =>
      unfold joinLines
      rw [hjoin]
      cases text.getLast?.any isLineBreak <;> simp [push, Progress.text, hhtml]

section shown

variable {writer : Writer} {parent : Node} {site : Site} {i index : Nat} {progress : Progress}
  {state after outer : State} {value : List Char}

/-- What is written so far, prepared for what follows. -/
def Progress.ahead (progress : Progress) (start : Position) : Option Node → Progress
  | some next => progress.prepare next start
  | none => progress

/-- From a child on the text goes on with every child as it is shown, behind what is written so far.
-/
theorem exists_shown_of_inlinesFrom {children : List Node} (hstate : state.IsWithin i outer)
    (h : inlinesFrom writer parent site children index progress state = (.ok value, after)) :
    ∃ texts, texts.length = children.length ∧
      value = (progress.ahead site.position children.head?).text ++
        (shownAll children texts).flatten ∧ ∀ k child text, children[k]? = some child →
          texts[k]? = some text → ∃ place start behind, start.IsWithin (index + k) outer ∧
        writer.render child (some parent) place start = (.ok text, behind) := by
  induction children generalizing i index progress state with
  | nil =>
      rw [inlinesFrom] at h
      obtain ⟨rfl, -⟩ := Render.pure_eq_ok.mp h
      exact ⟨[], rfl, (List.append_nil _).symm, by simp⟩
  | cons child rest ih =>
      obtain ⟨place, start, text, behind, hstart, -, hrender, hbehind, hrest⟩ :=
        inlinesFrom_cons_eq_ok hstate h
      obtain ⟨texts, hlength, hvalue, htexts⟩ := ih hbehind hrest
      refine ⟨text :: texts, congrArg Nat.succ hlength, ?_, fun k other text' hchild htext => ?_⟩
      · have hahead :
            (((progress.prepare child site.position).push text).ahead site.position
              rest.head?).text = (progress.prepare child site.position).text ++ shownBefore
                rest.head? text := by
          cases rest with
          | nil => simp [Progress.ahead, Progress.push, Progress.text, shownBefore]
          | cons next rest => exact Progress.text_prepare_push _ _ _ _
        rw [hvalue, hahead, List.append_assoc]
        rfl
      · cases k with
        | zero =>
            obtain rfl := Option.some.inj hchild
            obtain rfl := Option.some.inj htext
            exact ⟨place, start, behind, hstart, hrender⟩
        | succ k =>
            obtain ⟨place, start, behind, hstart, hrender⟩ := htexts k other text' hchild htext
            rw [show index + 1 + k = index + (k + 1) by omega] at hstart
            exact ⟨place, start, behind, hstart, hrender⟩

/-- **Inline content is what is shown of its children.** -/
theorem exists_shown (h : writer.inlines parent site state = (.ok value, after)) :
    ∃ texts, texts.length = parent.children.length ∧
      value = (shownAll parent.children texts).flatten ∧
      ∀ k child text, parent.children[k]? = some child → texts[k]? = some text →
      ∃ place start behind, start.IsWithin k state ∧
      writer.render child (some parent) place start = (.ok text, behind) := by
  obtain ⟨middle, hinlines, -⟩ := Render.counting_eq_ok.mp h
  have hwithin : State.IsWithin { state with indexes := 0 :: state.indexes } 0 state :=
    ⟨rfl, rfl, rfl, rfl⟩
  obtain ⟨texts, hlength, hvalue, htexts⟩ := exists_shown_of_inlinesFrom hwithin hinlines
  refine ⟨texts, hlength, ?_, fun k child text hchild htext => ?_⟩
  · have hnothing :
        (Progress.ahead ⟨[], site.before, site.position⟩ site.position parent.children.head?).text =
          [] := by
      unfold Progress.ahead Progress.prepare
      split
      · split <;> rfl
      · rfl
    rw [hvalue, hnothing, List.nil_append]
  · obtain ⟨place, start, behind, hstart, hrender⟩ := htexts k child text hchild htext
    rw [Nat.zero_add] at hstart
    exact ⟨place, start, behind, hstart, hrender⟩

end shown

end Writer

/-! ## Line endings in front of raw HTML -/

/-- Whether a node ends in a line ending as it is written: a hard break, or text or raw HTML that
does. -/
def Node.endsInLineEnding (node : Node) : Prop :=
  node = .leaf .hardBreak ∨ ∃ value :
    String, (node = .leaf (.text value) ∨ node = .leaf (.html value)) ∧
    value.toList.getLast?.any isLineBreak = true

section lines

variable {writer : Writer} {node : Node} {parent : Option Node} {site : Site} {state after : State}
  {text : List Char}

/-- **Which children end in a line ending.** -/
theorem Writer.isLineBreak_getLast?_iff (hwriter : ∀ kind ∈ node.kind?, writer.LaysOut kind)
    (hrules : writer.rules = Rule.defaults)
    (hstack : ∀ construct ∈ state.constructs, construct ∉ Rule.singleLine)
    (hnode : node.isPhrasing = true ∨ node.isHtml = true)
    (h : writer.render node parent site state = (.ok text, after)) :
    text.getLast?.any isLineBreak = true ↔ node.endsInLineEnding := by
  by_cases hbreak : node = .leaf .hardBreak
  · obtain rfl := hbreak
    obtain rfl :=
      (hwriter _ rfl).render_hardBreak (Writer.allowsLineEndings_of_defaults hrules hstack) h
    exact iff_of_true rfl (.inl rfl)
  by_cases htext : ∃ value, node = .leaf (.text value)
  · obtain ⟨value, rfl⟩ := htext
    rw [(hwriter _ rfl).render_eq_layout rfl] at h
    obtain ⟨rfl, -⟩ := Render.literal_eq_ok.mp h
    rw [hrules, isLineBreak_getLast?_escapeLiteral_iff hstack]
    simp [Node.endsInLineEnding]
  by_cases hhtml : ∃ value, node = .leaf (.html value)
  · obtain ⟨value, rfl⟩ := hhtml
    rw [(hwriter _ rfl).render_eq_layout rfl] at h
    obtain ⟨rfl, -⟩ := Render.pure_eq_ok.mp h
    simp [Node.endsInLineEnding]
  -- what is left is closed by a character of its own
  have hphrasing : node.isPhrasing = true := hnode.resolve_right fun h =>
    hhtml (Node.exists_of_isHtml h)
  have hplain : node.isText = false := Bool.eq_false_iff.mpr fun h =>
    htext (Node.exists_of_isText h)
  obtain ⟨-, c, hc, hlast⟩ := writer.exists_closer_of_isPhrasing hwriter hphrasing hplain hbreak h
  refine iff_of_false ?_ ?_
  · rw [hlast, Option.any_some, (isSpacing_of_mem_closers hc).2]
    exact Bool.false_ne_true
  · rintro (heq | ⟨value, heq | heq, -⟩)
    · exact hbreak heq
    · exact htext ⟨value, heq⟩
    · exact hhtml ⟨value, heq⟩

end lines

/-! ## Hard breaks -/

/-- **Which hard breaks are left.** Where line endings may stand, inline content is what is shown of
its children, and a hard break is shown as a line ending behind a backslash exactly if raw HTML does
not follow it. With Markdown's own rules and handlers, a line ending becomes a space exactly where
raw HTML follows a child that ends in one, be it a text, raw HTML or a hard break. -/
theorem Writer.LaysOut.exists_hardBreaks {writer : Writer} (hwriter : writer.LaysOut .hardBreak)
    {parent : Node} {site : Site} {state after : State} {value : List Char}
    (hlines : writer.AllowsLineEndings state.constructs)
    (h : writer.inlines parent site state = (.ok value, after)) :
    ∃ texts, texts.length = parent.children.length ∧
      value = (shownAll parent.children texts).flatten ∧
      (∀ k child text, parent.children[k]? = some child → texts[k]? = some text →
        ∃ place start behind, start.IsWithin k state ∧
          writer.render child (some parent) place start = (.ok text, behind)) ∧
      (∀ k shown, parent.children[k]? = some (.leaf .hardBreak) →
        (shownAll parent.children texts)[k]? = some shown →
        shown = if parent.children[k + 1]?.any Node.isHtml = true then ['\\', ' ']
          else ['\\', '\n']) ∧
      ((∀ kind, writer.LaysOut kind) → writer.rules = Rule.defaults →
        (∀ construct ∈ state.constructs, construct ∉ Rule.singleLine) →
          ∀ k child text shown, parent.children[k]? = some child → texts[k]? = some text →
            (shownAll parent.children texts)[k]? = some shown →
            (child.isPhrasing = true ∨ child.isHtml = true) →
              (shown ≠ text ↔
                parent.children[k + 1]?.any Node.isHtml = true ∧ child.endsInLineEnding) ∧
              (shown ≠ text → shown = dropFinalLineEnding text ++ [' '])) := by
  obtain ⟨texts, hlength, hvalue, htexts⟩ := writer.exists_shown h
  have hshown : ∀ k shown, (shownAll parent.children texts)[k]? = some shown →
      ∃ text, texts[k]? = some text ∧ shownBefore parent.children[k + 1]? text = shown := by
    intro k shown hk
    rw [getElem?_shownAll hlength] at hk
    exact Option.map_eq_some_iff.mp hk
  refine ⟨texts, hlength, hvalue, htexts, ?_, ?_⟩
  · intro k shown hchild hk
    obtain ⟨text, htext, rfl⟩ := hshown k shown hk
    obtain ⟨place, start, behind, hstart, hrender⟩ := htexts k _ text hchild htext
    rw [← hstart.constructs] at hlines
    obtain rfl := hwriter.render_hardBreak hlines hrender
    unfold shownBefore
    cases parent.children[k + 1]?.any Node.isHtml <;> rfl
  · intro hkinds hrules hstack k child text shown hchild htext hk hnode
    obtain ⟨text', htext', rfl⟩ := hshown k shown hk
    obtain rfl := Option.some.inj (htext.symm.trans htext')
    obtain ⟨place, start, behind, hstart, hrender⟩ := htexts k child text hchild htext
    rw [← hstart.constructs] at hstack
    have hends :=
      Writer.isLineBreak_getLast?_iff (fun kind _ => hkinds kind) hrules hstack hnode hrender
    constructor
    · rw [ne_eq, shownBefore_eq_iff, not_not, hends]
    · intro hne
      exact if_pos (not_not.mp fun hnot => hne (shownBefore_eq_iff.mpr hnot))

/-- The state of the contents of a paragraph. -/
def brokenState : State :=
  { constructs := [.phrasing, .paragraph] }

/-- A paragraph with two hard breaks, one of them in front of raw HTML. -/
def brokenLines : Node :=
  .branch .paragraph [.leaf (.text "a"), .leaf .hardBreak, .leaf (.text "b"), .leaf .hardBreak,
    .leaf (.html "<c>")]

/-- The first hard break is left, and of the second one only its backslash is. -/
theorem exists_hardBreaks_brokenLines :
    Writer.standard.LaysOut .hardBreak ∧ Writer.standard.AllowsLineEndings brokenState.constructs ∧
      Writer.standard.inlines brokenLines (Writer.blockSite {}) brokenState =
        (.ok ['a', '\\', '\n', 'b', '\\', ' ', '<', 'c', '>'], brokenState) ∧
      ∃ texts, texts.length = 5 ∧ (shownAll brokenLines.children texts)[1]? = some ['\\', '\n'] ∧
        (shownAll brokenLines.children texts)[3]? = some ['\\', ' '] := by
  have hwriter : Writer.standard.LaysOut .hardBreak := rfl
  have hlines : Writer.standard.AllowsLineEndings brokenState.constructs := by
    unfold Writer.AllowsLineEndings
    decide
  have hrun : Writer.standard.inlines brokenLines (Writer.blockSite {}) brokenState =
      (.ok ['a', '\\', '\n', 'b', '\\', ' ', '<', 'c', '>'], brokenState) := by
    change @Eq (Except RenderError (List Char) × State) _ _
    decide +kernel
  obtain ⟨texts, hlength, -, -, hbreaks, -⟩ := hwriter.exists_hardBreaks hlines hrun
  have hshown : ∀ k < 5, (shownAll brokenLines.children texts)[k]?.isSome = true := by
    intro k hk
    rw [getElem?_shownAll hlength, Option.isSome_map,
      List.getElem?_eq_getElem (by rw [hlength]; exact hk)]
    rfl
  obtain ⟨first, hfirst⟩ := Option.isSome_iff_exists.mp (hshown 1 (by decide))
  obtain ⟨second, hsecond⟩ := Option.isSome_iff_exists.mp (hshown 3 (by decide))
  obtain rfl := hbreaks 1 first rfl hfirst
  obtain rfl := hbreaks 3 second rfl hsecond
  exact ⟨hwriter, hlines, hrun, texts, hlength, hfirst, hsecond⟩

/-- **Not every hard break is left.** In front of raw HTML no backslash stands before a line ending
any more. -/
theorem toMarkdown_breakBeforeHtml :
    toMarkdown (.node {} [])
          (.branch .paragraph [.leaf (.text "a"), .leaf .hardBreak, .leaf (.html "<b>")]) =
        .ok "a\\ <b>\n" ∧
      ¬ ['\\', '\n'] <:+: "a\\ <b>\n".toList := by
  decide +kernel

end MarkdownWriter
