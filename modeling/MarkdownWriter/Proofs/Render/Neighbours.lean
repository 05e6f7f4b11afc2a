import MarkdownWriter.Proofs.Render.Paragraph
import MarkdownWriter.Proofs.Render.Pieces
import MarkdownWriter.Proofs.Render.Silence

/-!
# What inline content is told of its neighbours

Children that are written as inline content are told what stands before them and after them, so that
they can be escaped against it. `Writer.spans` keeps the texts of the children apart and has the
site of each one with it (`Writer.inlines_eq`). What is told is seen from the neighbours alone:
before a child stands the last character of the child in front of it, and after it what is seen by
looking ahead to the next one.

* **When a neighbour hides the others** (`Writer.exists_told`): a neighbour without a text is told
  of as if nothing stood there, though something may stand beyond it.
-/

namespace MarkdownWriter

/-! ## Spans -/

/-- A child that is written as inline content: the site it is written at, and its text. -/
structure Span where
  site : Site
  text : List Char
  deriving DecidableEq, Repr

/-- The texts of spans one behind the other. -/
def Span.flatten (spans : List Span) : List Char :=
  spans.flatMap Span.text

/-- The last character of a text, or what stands before it if it is empty. -/
def lastWritten (before text : List Char) : List Char :=
  if text = [] then before else text.getLast?.toList

namespace Writer

/-- What is told to stand after a child in front of the given ones. -/
def ahead (writer : Writer) (parent : Node) (site : Site) (rest : List Node) (position : Position) :
    Render (List Char) :=
  match rest.head? with
  | none => pure site.after
  | some next => Option.toList <$> writer.peekAt next (some parent) ⟨[], [], position⟩

/-- The spans of the children of `parent` from the one with the given index on. -/
def spansFrom (writer : Writer) (parent : Node) (site : Site) :
    List Node → Nat → List Char → Position → Render (List Span)
  | [], _, _, _ => pure []
  | child :: rest, index, before, position => do
      Render.goTo index
      let after ← writer.ahead parent site rest position
      let text ← writer.render child (some parent) ⟨before, after, position⟩
      let following ← spansFrom writer parent site rest (index + 1) text.getLast?.toList
        (position.advance text)
      return ⟨⟨before, after, position⟩, text⟩ :: following

/-- The spans of the children of a node. -/
def spans (writer : Writer) (node : Node) (site : Site) : Render (List Span) :=
  Render.counting (spansFrom writer node site node.children 0 site.before site.position)

variable {writer : Writer}

/-- **The first step.** Once what is written so far is prepared for it, the first child is written,
between the last character of that and what is ahead. -/
theorem inlinesFrom_cons (parent : Node) (site : Site) (child : Node) (rest : List Node)
    (index : Nat) (progress : Progress) :
    inlinesFrom writer parent site (child :: rest) index progress = (do
      Render.goTo index
      let after ← writer.ahead parent site rest progress.position
      let progress := progress.prepare child site.position
      let value ← writer.render child (some parent) ⟨progress.before, after, progress.position⟩
      inlinesFrom writer parent site rest (index + 1) (progress.push value)) := by
  cases rest with
  | nil =>
      rw [inlinesFrom]
      simp only [ahead, List.head?_nil, pure_bind]
  | cons next rest =>
      rw [inlinesFrom]
      simp only [ahead, List.head?_cons, bind_map_left]
      rfl

/-- A child that is no raw HTML leaves what is written already as it is. -/
theorem Progress.prepare_of_not_html {child : Node} (hchild : child.isHtml = false)
    (progress : Progress) (start : Position) : progress.prepare child start = progress := by
  unfold prepare
  rw [hchild]
  rfl

/-- Without raw HTML among them, the children are their spans one behind the other. -/
theorem inlinesFrom_eq (parent : Node) (site : Site) {children : List Node}
    (hchildren : ∀ child ∈ children, child.isHtml = false) (index : Nat) (progress : Progress) :
    inlinesFrom writer parent site children index progress =
      (fun spans => progress.written.reverse.flatten ++ Span.flatten spans) <$>
        spansFrom writer parent site children index progress.before progress.position := by
  induction children generalizing index progress with
  | nil => rw [inlinesFrom, spansFrom, map_pure, Span.flatten, List.flatMap_nil, List.append_nil]
  | cons child rest ih =>
      obtain ⟨hchild, hrest⟩ := List.forall_mem_cons.mp hchildren
      rw [inlinesFrom_cons, spansFrom]
      simp only [Progress.prepare_of_not_html hchild, ih hrest, map_bind, map_pure]
      congr! 6 with _ after value
      simp [Progress.push, Span.flatten, bind_pure_comp]

theorem inlines_eq {node : Node} (hchildren : ∀ child ∈ node.children, child.isHtml = false)
    (site : Site) : writer.inlines node site = Span.flatten <$> writer.spans node site := by
  unfold inlines spans Render.counting
  rw [inlinesFrom_eq node site hchildren]
  simp only [map_bind, bind_map_left, map_pure]
  rfl

/-! ## Child by child -/

/-- Looking ahead restores the place. -/
theorem restores_ahead (writer : Writer) (parent : Node) (site : Site) (rest : List Node)
    (position : Position) :
    Render.Restores State.place (writer.ahead parent site rest position) := by
  unfold ahead
  split
  · exact .pure _
  · rw [map_eq_pure_bind]
    exact .bind (restores_peek writer (restores_render writer _ _ _)) fun _ => .pure _

/-- **The first step.** What is ahead is looked at, the first child is written, and then the others
are, each of them in the container. -/
theorem spansFrom_cons_eq_ok {parent child : Node} {site : Site} {rest : List Node} {i index : Nat}
    {before : List Char} {position : Position} {state after outer : State} {spans : List Span}
    (hstate : state.IsWithin i outer)
    (h : writer.spansFrom parent site (child :: rest) index before position state =
      (.ok spans, after)) :
    ∃ start told middle text behind following, start.IsWithin index outer ∧
      writer.ahead parent site rest position start = (.ok told, middle) ∧
      middle.IsWithin index outer ∧
      writer.render child (some parent) ⟨before, told, position⟩ middle = (.ok text, behind) ∧
      behind.IsWithin index outer ∧
      writer.spansFrom parent site rest (index + 1) text.getLast?.toList
        (position.advance text) behind = (.ok following, after) ∧
      spans = ⟨⟨before, told, position⟩, text⟩ :: following := by
  rw [spansFrom, Render.bind_run_ok (Render.goTo_run _ _)] at h
  have hstart := hstate.goTo index
  obtain ⟨told, middle, hahead, h⟩ := Render.bind_eq_ok.mp h
  have hmiddle := hstart.restored (restores_ahead writer _ _ _ _) hahead
  obtain ⟨text, behind, hrender, h⟩ := Render.bind_eq_ok.mp h
  have hbehind := hmiddle.restored (restores_render writer _ _ _) hrender
  obtain ⟨following, last, hfollowing, hreturn⟩ := Render.bind_eq_ok.mp h
  obtain ⟨rfl, rfl⟩ := Render.pure_eq_ok.mp hreturn
  exact ⟨_, told, middle, text, behind, following, hstart, hahead, hmiddle, hrender, hbehind,
    hfollowing, rfl⟩

/-- There is one span for every child. -/
theorem length_spansFrom {parent : Node} {site : Site} {children : List Node} {i index : Nat}
    {before : List Char} {position : Position} {state after outer : State} {spans : List Span}
    (hstate : state.IsWithin i outer)
    (h : writer.spansFrom parent site children index before position state = (.ok spans, after)) :
    spans.length = children.length := by
  induction children generalizing i index before position state spans with
  | nil =>
      rw [spansFrom] at h
      obtain ⟨rfl, -⟩ := Render.pure_eq_ok.mp h
      rfl
  | cons child rest ih =>
      obtain ⟨_, _, _, _, _, following, -, -, -, -, hbehind, hfollowing, rfl⟩ :=
        spansFrom_cons_eq_ok hstate h
      rw [List.length_cons, List.length_cons, ih hbehind hfollowing]

/-- Every span is what its child is written as, between the last character of the child in front of
it and what is ahead. -/
theorem exists_run_of_spansFrom {parent child : Node} {site : Site} {children : List Node}
    {i index n : Nat} {before : List Char} {position : Position} {state after outer : State}
    {spans : List Span} {span : Span} (hstate : state.IsWithin i outer)
    (h : writer.spansFrom parent site children index before position state = (.ok spans, after))
    (hchild : children[n]? = some child) (hspan : spans[n]? = some span) :
    ∃ start middle behind, start.IsWithin (index + n) outer ∧
      writer.ahead parent site (children.drop (n + 1)) span.site.position start =
        (.ok span.site.after, middle) ∧ middle.IsWithin (index + n) outer ∧
      writer.render child (some parent) span.site middle = (.ok span.text, behind) ∧
      span.site.before = ((spans.take n).getLast?.map fun previous =>
        previous.text.getLast?.toList).getD before := by
  induction children generalizing i index before position state spans n with
  | nil => simp at hchild
  | cons first rest ih =>
      obtain ⟨start, told, middle, text, behind, following, hstart, hahead, hmiddle, hrender,
          hbehind, hfollowing, rfl⟩ := spansFrom_cons_eq_ok hstate h
      cases n with
      | zero =>
          obtain rfl : first = child := by simpa using hchild
          obtain rfl : (⟨⟨before, told, position⟩, text⟩ : Span) = span := by simpa using hspan
          exact ⟨start, middle, behind, hstart, hahead, hmiddle, hrender, rfl⟩
      | succ n =>
          rw [List.getElem?_cons_succ] at hchild hspan
          obtain ⟨start, middle, behind, hstart, hahead, hmiddle, hrender, hbefore⟩ :=
            ih hbehind hfollowing hchild hspan
          rw [show index + 1 + n = index + (n + 1) by omega] at hstart hmiddle
          refine ⟨start, middle, behind, hstart, hahead, hmiddle, hrender, hbefore.trans ?_⟩
          rw [List.take_succ_cons, List.getLast?_cons]
          cases (following.take n).getLast? <;> rfl

/-! ## What is told -/

/-- What the child with index `k` of a container that is written at `site` is told of its
neighbours. -/
structure Told (writer : Writer) (parent : Node) (site : Site) (outer : State) (spans : List Span)
    (k : Nat) (child : Node) (span : Span) : Prop where
  /-- The child is written at the site of its span. -/
  run : ∃ start behind, start.IsWithin k outer ∧
    writer.render child (some parent) span.site start = (.ok span.text, behind)
  /-- Told to stand before it is the last character that is written so far, or else what stands
  before the container, except that a child without a text right in front of it hides both. -/
  before_iff : span.site.before = lastWritten site.before (Span.flatten (spans.take k)) ↔
    ∀ previous ∈ (spans.take k).getLast?, previous.text = [] →
      Span.flatten (spans.take k) = [] ∧ site.before = []
  /-- Told to stand after the last child is what stands after the container. -/
  after_last : parent.children[k + 1]? = none → span.site.after = site.after
  /-- Told to stand after any other child is what is seen by looking ahead to the next one. -/
  after_next : ∀ next, parent.children[k + 1]? = some next →
    ∃ first start middle, start.IsWithin k outer ∧
      writer.peekAt next (some parent) ⟨[], [], span.site.position⟩ start = (.ok first, middle) ∧
      span.site.after = first.toList
  /-- With the library's own handlers: that nothing is told to stand after a child means that
  nothing does, except that a silent child right behind it hides all that is beyond. -/
  after_iff : writer.handlers = Handler.defaults →
    ((span.site.after = [] → Span.flatten (spans.drop (k + 1)) = [] ∧ site.after = []) ↔
      ∀ next, parent.children[k + 1]? = some next → next.isSilent = true →
        Span.flatten (spans.drop (k + 1)) = [] ∧ site.after = [])

/-- The last character of the last of several texts is the last one of them all, unless that text is
empty. -/
theorem lastWritten_eq_iff (before : List Char) (spans : List Span) :
    (spans.getLast?.map fun previous => previous.text.getLast?.toList).getD before =
        lastWritten before (Span.flatten spans) ↔
      ∀ previous ∈ spans.getLast?, previous.text = [] → Span.flatten spans = [] ∧ before = [] := by
  rcases List.eq_nil_or_concat spans with rfl | ⟨earlier, previous, rfl⟩
  · simp [lastWritten, Span.flatten]
  · have hflatten :
        Span.flatten (earlier ++ [previous]) = Span.flatten earlier ++ previous.text := by
      simp [Span.flatten]
    rw [List.concat_eq_append, List.getLast?_concat, hflatten]
    simp only [Option.map_some, Option.getD_some, Option.mem_def, Option.some.injEq, forall_eq']
    by_cases hprevious : previous.text = []
    · rw [hprevious, List.append_nil]
      by_cases hearlier : Span.flatten earlier = []
      · simp [lastWritten, hearlier, eq_comm]
      · have hlast := List.getLast?_isSome.mpr hearlier
        simp [lastWritten, hearlier, Option.toList_eq_nil_iff]
    · have hne : Span.flatten earlier ++ previous.text ≠ [] :=
        List.append_ne_nil_of_right_ne_nil _ hprevious
      rw [lastWritten, if_neg hne, List.getLast?_append_of_ne_nil _ hprevious]
      simp [hprevious]

/-- Looking ahead is looking at the next child, if there is one. -/
theorem ahead_eq_ok {parent : Node} {site : Site} {rest : List Node} {position : Position}
    {state after : State} {told : List Char}
    (h : writer.ahead parent site rest position state = (.ok told, after)) :
    (rest.head? = none → told = site.after) ∧
      ∀ next, rest.head? = some next →
        ∃ first, writer.peekAt next (some parent) ⟨[], [], position⟩ state = (.ok first, after) ∧
          told = first.toList := by
  unfold ahead at h
  cases hhead : rest.head? with
  | none =>
      rw [hhead] at h
      exact ⟨fun _ => (Render.pure_eq_ok.mp h).1.symm, fun next hnext => nomatch hnext⟩
  | some next =>
      rw [hhead] at h
      dsimp only at h
      rw [map_eq_pure_bind] at h
      obtain ⟨first, middle, hpeek, hreturn⟩ := Render.bind_eq_ok.mp h
      obtain ⟨rfl, rfl⟩ := Render.pure_eq_ok.mp hreturn
      refine ⟨fun hnone => (nomatch hnone), fun other hother => ?_⟩
      obtain rfl := Option.some.inj hother
      exact ⟨first, hpeek, rfl⟩

/-- With the library's own handlers a child that another one follows is told that nothing does
exactly if that other one is silent. -/
theorem after_eq_nil_iff_of_spansFrom (hwriter : writer.handlers = Handler.defaults)
    {parent next : Node} {site : Site} {children : List Node} {i index n : Nat} {before : List Char}
    {position : Position} {state after outer : State} {spans : List Span} {span : Span}
    (hstate : state.IsWithin i outer)
    (h : writer.spansFrom parent site children index before position state = (.ok spans, after))
    (hnext : children[n + 1]? = some next) (hhtml : next.isHtml = false)
    (hspan : spans[n]? = some span) :
    span.site.after = [] ↔ next.isSilent = true := by
  have hlength := length_spansFrom hstate h
  have hlt := (List.getElem?_eq_some_iff.mp hnext).1
  obtain ⟨child, hchild⟩ : ∃ child, children[n]? = some child :=
    ⟨_, List.getElem?_eq_getElem (Nat.lt_of_succ_lt hlt)⟩
  obtain ⟨following, hfollowing⟩ : ∃ following, spans[n + 1]? = some following :=
    ⟨_, List.getElem?_eq_getElem (hlength ▸ hlt)⟩
  -- The next child is written in its turn, so it is not a custom one.
  obtain ⟨_, _, _, -, -, -, hrender, -⟩ := exists_run_of_spansFrom hstate h hnext hfollowing
  obtain ⟨kind, hkind⟩ := exists_kind_of_render hwriter hrender
  obtain ⟨_, _, _, -, hahead, -, -, -⟩ := exists_run_of_spansFrom hstate h hchild hspan
  obtain ⟨first, hpeek, hfirst⟩ := (ahead_eq_ok hahead).2 next (List.head?_drop.trans hnext)
  rw [hfirst, Option.toList_eq_nil_iff]
  exact peekAt_eq_none_iff hwriter hkind hhtml _ (fun c hc => absurd hc List.not_mem_nil) hpeek

/-- **What children are told of their neighbours.** When a container without raw HTML is written as
inline content, every child is told of the child in front of it and of the one behind it alone, and
that is wrong exactly where one of these has no text and something stands beyond it. -/
theorem exists_told {parent : Node} {site : Site} {state after : State} {value : List Char}
    (hchildren : ∀ child ∈ parent.children, child.isHtml = false)
    (h : writer.inlines parent site state = (.ok value, after)) :
    ∃ spans, writer.spans parent site state = (.ok spans, after) ∧
      spans.length = parent.children.length ∧ value = Span.flatten spans ∧
      ∀ k child span, parent.children[k]? = some child → spans[k]? = some span →
        writer.Told parent site state spans k child span := by
  rw [inlines_eq hchildren, map_eq_pure_bind] at h
  obtain ⟨spans, middle, hspans, hreturn⟩ := Render.bind_eq_ok.mp h
  obtain ⟨rfl, rfl⟩ := Render.pure_eq_ok.mp hreturn
  obtain ⟨last, hfrom, -⟩ := Render.counting_eq_ok.mp hspans
  have hwithin : State.IsWithin { state with indexes := 0 :: state.indexes } 0 state :=
    ⟨rfl, rfl, rfl, rfl⟩
  have hlength := length_spansFrom hwithin hfrom
  refine ⟨spans, hspans, hlength, rfl, fun k child span hchild hspan => ?_⟩
  obtain ⟨start, middle, behind, hstart, hahead, hmiddle, hrender, hbefore⟩ :=
    exists_run_of_spansFrom hwithin hfrom hchild hspan
  rw [Nat.zero_add] at hstart hmiddle
  obtain ⟨hlast, hnext⟩ := ahead_eq_ok hahead
  rw [List.head?_drop] at hlast hnext
  refine ⟨⟨middle, behind, hmiddle, hrender⟩, ?_, hlast, fun next hsome => ?_, fun hdefaults => ?_⟩
  · rw [hbefore]
    exact lastWritten_eq_iff _ _
  · obtain ⟨first, hpeek, hfirst⟩ := hnext next hsome
    exact ⟨first, start, middle, hstart, hpeek, hfirst⟩
  · cases hsome : parent.children[k + 1]? with
    | none =>
        -- Behind the last child there is nothing but what stands after the container.
        have hdrop : spans.drop (k + 1) = [] :=
          List.drop_eq_nil_of_le (hlength ▸ List.getElem?_eq_none_iff.mp hsome)
        rw [hdrop, hlast hsome]
        exact iff_of_true (fun hnil => ⟨rfl, hnil⟩) fun next hnext => nomatch hnext
    | some next =>
        rw [after_eq_nil_iff_of_spansFrom hdefaults hwithin hfrom hsome
          (hchildren next (List.mem_of_getElem? hsome))
          hspan]
        exact ⟨fun hclaim other hother => Option.some.inj hother ▸ hclaim,
          fun hclaim => hclaim next rfl⟩

end Writer

/-! ## Hidden neighbours -/

/-- A paragraph in which what would start a heading stands behind an empty text. -/
def hiddenStart : Node :=
  .branch .paragraph [.leaf (.text ""), .leaf (.text "# b")]

/-- A paragraph in which an exclamation mark and a link have an empty text between them. -/
def hiddenLink : Node :=
  .branch .paragraph [.leaf (.text "!"), .leaf (.text ""),
    .branch (.link { url := "b" }) [.leaf (.text "c")]]

/-- The state and the site of the contents of a paragraph at the start of a document. -/
def paragraphState : State :=
  { constructs := [.phrasing, .paragraph] }

/-- The second text is told of nothing in front of it, and not of the line break that is there. -/
theorem spans_hiddenStart :
    Writer.standard.spans hiddenStart (Writer.blockSite {}) paragraphState =
      (.ok [⟨⟨['\n'], ['#'], {}⟩, []⟩, ⟨⟨[], ['\n'], {}⟩, ['#', ' ', 'b']⟩], paragraphState) := by
  change @Eq (Except RenderError (List Span) × State) _ _
  decide +kernel

/-- The children of the first paragraph are told of their neighbours; the second one is told of the
empty text in front of it. -/
theorem exists_told_hiddenStart :
    ∃ value after, (∀ child ∈ hiddenStart.children, child.isHtml = false) ∧
      Writer.standard.inlines hiddenStart (Writer.blockSite {}) paragraphState =
        (.ok value, after) ∧
      ∃ spans,
        Writer.standard.spans hiddenStart (Writer.blockSite {}) paragraphState =
          (.ok spans, after) ∧
        spans.length = 2 ∧ value = Span.flatten spans ∧
        ∀ k child span, hiddenStart.children[k]? = some child → spans[k]? = some span →
          Writer.standard.Told hiddenStart (Writer.blockSite {}) paragraphState spans k
            child span := by
  have hchildren : ∀ child ∈ hiddenStart.children, child.isHtml = false := by
    simp [hiddenStart, Node.children, Node.isHtml]
  have hrun : Writer.standard.inlines hiddenStart (Writer.blockSite {}) paragraphState =
      (.ok ['#', ' ', 'b'], paragraphState) := by
    change @Eq (Except RenderError (List Char) × State) _ _
    decide +kernel
  exact ⟨_, _, hchildren, hrun, Writer.exists_told hchildren hrun⟩

/-- **An empty text hides what is beyond it.** Not every child is told of the last character before
it: what would start a heading and stands behind an empty text, and an exclamation mark with an
empty text between it and a link, are written as they are, and read as a heading and an image. -/
theorem not_forall_told :
    (¬ ∀ (parent : Node) (site : Site) (state after : State) (spans : List Span),
      (∀ child ∈ parent.children, child.isHtml = false) →
        Writer.standard.spans parent site state = (.ok spans, after) →
          ∀ k span, spans[k]? = some span →
            span.site.before = lastWritten site.before (Span.flatten (spans.take k)) ∧
              (span.site.after = [] → Span.flatten (spans.drop (k + 1)) = [] ∧ site.after = [])) ∧
      toMarkdown (.node {} []) hiddenStart = .ok "# b\n" ∧
        toMarkdown (.node {} []) hiddenLink = .ok "![c](b)\n" := by
  refine ⟨fun hclaim => ?_, by decide +kernel, by decide +kernel⟩
  have hchildren : ∀ child ∈ hiddenStart.children, child.isHtml = false := by
    simp [hiddenStart, Node.children, Node.isHtml]
  have hbefore := (hclaim _ _ _ _ _ hchildren spans_hiddenStart 1 _ rfl).1
  revert hbefore
  decide

end MarkdownWriter
