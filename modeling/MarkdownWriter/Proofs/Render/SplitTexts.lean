import MarkdownWriter.Proofs.Escape.SplitText
import MarkdownWriter.Proofs.Render.Neighbours

/-!
# Paragraphs of several texts

A text of a paragraph is written against the last character that was written before it and the first
one that is seen by looking ahead (`textsBetween`). A text that is empty hides its neighbours from
each other.

* **How they are written** (`toMarkdown_texts`): one by one, each of them told of its neighbours
  (`ahead_texts`).
* **When a paragraph of texts is written as that of one text** (`toMarkdown_texts_iff`): exactly if
  no character is where it matters how the text is cut. Texts that are empty are left out, where
  they change nothing about their neighbours (`Unhidden`); in texts that are not empty there is
  nothing to hide (`unhidden_of_ne_empty`). This is not about a list marker below a row that holds
  nothing but the same marker.
* **When it is not** (`toMarkdown_splitNumber`): `1` and `. a` are not seen to begin an item of a
  list.
-/

namespace MarkdownWriter

open Text

/-! ## Rendering -/

/-- Looking ahead to a text, its first character is seen as it is written with nothing around it. -/
theorem peekAt_text (value : String) (parent : Option Node) (position : Position) (state : State) :
    Writer.standard.peekAt (.leaf (.text value)) parent ⟨[], [], position⟩ state =
      (.ok (escapeLiteral Rule.defaults state.constructs value.toList {}).head?, state) := by
  unfold Writer.peekAt
  rw [render_text]
  rfl

/-- A paragraph of texts. -/
def textParagraph (values : List String) : Node :=
  .branch .paragraph (values.map fun value => .leaf (.text value))

/-- What is seen behind a text in front of others: the first character of the next one, or nothing
if that is empty. -/
def seenAhead : List (List Char) → List Char
  | [] :: _ => []
  | behind => [toldAhead behind]

/-- What is written for several texts one by one, the first one behind what is told before it. -/
def textsBetween (told : List Char) : List (List Char) → List (List Char)
  | [] => []
  | piece :: behind =>
      let text := escapeLiteral Rule.defaults paragraphStack piece
        { before := told, after := seenAhead behind }
      text :: textsBetween text.getLast?.toList behind

/-- What is told to stand behind a text in front of others. -/
theorem ahead_texts {parent : Node} {site : Site} (hsite : site.after = ['\n'])
    (values : List String) (position : Position) {state : State}
    (hstate : state.constructs = paragraphStack) :
    Writer.standard.ahead parent site (values.map fun value => .leaf (.text value)) position state =
      (.ok (seenAhead (values.map String.toList)), state) := by
  unfold Writer.ahead
  cases values with
  | nil =>
      rw [hsite]
      rfl
  | cons value rest =>
      rw [List.map_cons, List.map_cons, List.head?_cons]
      dsimp only
      rw [map_eq_pure_bind, Render.bind_run_ok (peekAt_text value _ position state), hstate]
      cases htext : value.toList with
      | nil => rfl
      | cons c text =>
          rw [head?_escapeLiteral_alone]
          rfl

/-- Texts are written one by one. -/
theorem inlinesFrom_texts {parent : Node} {site : Site} (hsite : site.after = ['\n'])
    (values : List String) (index : Nat) (progress : Writer.Progress) {state : State}
    (hstate : state.constructs = paragraphStack) :
    ∃ after, Writer.inlinesFrom Writer.standard parent site
      (values.map fun value => .leaf (.text value)) index progress
        state =
      (.ok (progress.written.reverse.flatten ++
        (textsBetween progress.before (values.map String.toList)).flatten),
        after) := by
  induction values generalizing index progress state with
  | nil =>
      rw [List.map_nil, Writer.inlinesFrom, List.map_nil, textsBetween, List.flatten_nil,
        List.append_nil]
      exact ⟨state, rfl⟩
  | cons value rest ih =>
      obtain ⟨middle, hgoTo, hmiddle⟩ :
          ∃ middle, Render.goTo index state = (.ok (), middle) ∧
            middle.constructs = paragraphStack := ⟨_, rfl, hstate⟩
      obtain ⟨text, htext⟩ : ∃ text, escapeLiteral Rule.defaults paragraphStack value.toList
          { before := progress.before, after := seenAhead (rest.map String.toList) } = text :=
            ⟨_, rfl⟩
      have hrender : Writer.standard.render (.leaf (.text value)) (some parent)
          ⟨progress.before, seenAhead (rest.map String.toList), progress.position⟩ middle =
            (.ok text, middle) := by
        rw [render_text]
        change (Except.ok (escapeLiteral _ middle.constructs _ _), middle) = _
        rw [hmiddle, htext]
      obtain ⟨after, hafter⟩ := ih (index + 1) (progress.push text) hmiddle
      refine ⟨after, ?_⟩
      rw [List.map_cons, Writer.inlinesFrom_cons, Render.bind_run_ok hgoTo,
        Render.bind_run_ok (ahead_texts hsite rest progress.position hmiddle),
        Writer.Progress.prepare_of_not_html rfl, Render.bind_run_ok hrender, hafter, List.map_cons,
        textsBetween, htext]
      simp [Writer.Progress.push]

/-- A paragraph is written as its inline content. -/
theorem render_paragraph (children : List Node) (parent : Option Node) (site : Site) :
    Writer.standard.render (.branch .paragraph children) parent site =
      Render.entering .paragraph
        (Render.entering .phrasing (Writer.standard.inlines (.branch .paragraph children)
          site)) := by
  rw [Writer.render]
  rfl

/-- A document of one paragraph of texts. -/
theorem toMarkdown_texts (values : List String) :
    toMarkdown (.node {} []) (textParagraph values) =
      .ok (String.ofList (terminated (textsBetween ['\n']
        (values.map String.toList)).flatten)) := by
  obtain ⟨after, hinlines⟩ :=
    @inlinesFrom_texts (textParagraph values) (Writer.blockSite {}) rfl values 0
    ⟨[], ['\n'], {}⟩ { constructs := paragraphStack, indexes := [0] } rfl
  have hrender : ∃ after, Writer.standard.render (textParagraph values) none (Writer.blockSite {})
      {} = (.ok (textsBetween ['\n'] (values.map String.toList)).flatten, after) := by
    exact ⟨_, (congrFun (render_paragraph _ _ _) _).trans
      (Render.entering_eq_ok.mpr ⟨_, Render.entering_eq_ok.mpr
      ⟨_, Render.counting_eq_ok.mpr ⟨after, hinlines, rfl⟩, rfl⟩, rfl⟩)⟩
  obtain ⟨last, hrender⟩ := hrender
  unfold toMarkdown writeTree
  rw [writer_default]
  dsimp only [bind, Except.bind]
  rw [hrender]
  rfl

/-! ## Empty texts -/

/-- No text is written in another way because it has an empty one beside it. -/
def Unhidden (values : List String) : Prop :=
  (textsBetween ['\n'] (values.map String.toList)).filter (· ≠ []) =
    textsFrom '\n' ((values.filter (· ≠ "")).map String.toList)

/-- What is written for texts that are not empty, each of them told of its neighbours. -/
theorem textsBetween_eq_textsFrom {pieces : List (List Char)}
    (hpieces : ∀ piece ∈ pieces, piece ≠ []) (told : Char) :
    textsBetween [told] pieces = textsFrom told pieces := by
  induction pieces generalizing told with
  | nil => rfl
  | cons piece behind ih =>
      obtain ⟨hpiece, hbehind⟩ := List.forall_mem_cons.mp hpieces
      have hseen : seenAhead behind = [toldAhead behind] := by
        cases behind with
        | nil => rfl
        | cons next behind =>
            obtain ⟨hnext, -⟩ := List.forall_mem_cons.mp hbehind
            cases next with
            | nil => contradiction
            | cons => rfl
      obtain ⟨text, htext⟩ :
          ∃ text, escapeLiteral Rule.defaults paragraphStack piece (toldSite told behind) = text :=
        ⟨_, rfl⟩
      have hne : text ≠ [] := htext ▸ mt escapeLiteral_eq_nil_iff.mp hpiece
      obtain ⟨last, hlast⟩ := Option.isSome_iff_exists.mp (List.getLast?_isSome.mpr hne)
      have hbetween :
          textsBetween [told] (piece :: behind) = text :: textsBetween text.getLast?.toList
            behind := by
        rw [textsBetween, hseen, ← htext]
        rfl
      rw [hbetween, textsFrom, htext, hlast, Option.getD_some, Option.toList_some, ih hbehind]

/-- If no text is empty there is nothing to hide. -/
theorem unhidden_of_ne_empty {values : List String} (hvalues : ∀ value ∈ values, value ≠ "") :
    Unhidden values := by
  have hpieces : ∀ piece ∈ values.map String.toList, piece ≠ [] := by
    intro piece hpiece
    obtain ⟨value, hmem, rfl⟩ := List.mem_map.mp hpiece
    exact mt String.toList_eq_nil_iff.mp (hvalues value hmem)
  have hwritten : ∀ told : Char, ∀ {pieces : List (List Char)}, (∀ piece ∈ pieces, piece ≠ []) →
      ∀ text ∈ textsFrom told pieces, text ≠ [] := by
    intro told pieces
    induction pieces generalizing told with
    | nil => exact fun _ _ hmem => absurd hmem List.not_mem_nil
    | cons piece behind ih =>
        intro hpieces
        obtain ⟨hpiece, hbehind⟩ := List.forall_mem_cons.mp hpieces
        exact List.forall_mem_cons.mpr ⟨mt escapeLiteral_eq_nil_iff.mp hpiece, ih _ hbehind⟩
  rw [Unhidden, textsBetween_eq_textsFrom hpieces, List.filter_eq_self.mpr, List.filter_eq_self.mpr]
  · exact fun value hmem => decide_eq_true (hvalues value hmem)
  · exact fun text hmem => decide_eq_true (hwritten '\n' hpieces text hmem)

/-! ## Where the cuts matter -/

/-- A line ending behind a text tells no texts apart that end alike. -/
theorem terminated_eq_iff {text text' : List Char} (hnil : text = [] ↔ text' = [])
    (hbreak : text.getLast?.any isLineBreak = true ↔ text'.getLast?.any isLineBreak = true) :
    terminated text = terminated text' ↔ text = text' := by
  have hsame :
      (text.getLast?.map isLineBreak).getD true = (text'.getLast?.map isLineBreak).getD true := by
    rw [← List.getLast?_eq_none_iff, ← List.getLast?_eq_none_iff] at hnil
    cases hlast : text.getLast? with
    | none => rw [hnil.mp hlast]
    | some c =>
        cases hlast' : text'.getLast? with
        | none =>
            rw [hnil.mpr hlast'] at hlast
            contradiction
        | some c' =>
            rw [hlast, hlast'] at hbreak
            exact Bool.eq_iff_iff.mpr hbreak
  unfold terminated
  rw [hsame]
  split
  · rfl
  · exact List.append_left_inj ['\n']

theorem toList_join (values : List String) :
    (String.join values).toList = (values.map String.toList).flatten := by
  rw [String.toList_join, List.flatMap_def]

/-- Texts that are empty add nothing. -/
theorem toList_join_filter (values : List String) :
    (String.join values).toList = ((values.filter (· ≠ "")).map String.toList).flatten := by
  rw [toList_join]
  induction values with
  | nil => rfl
  | cons value rest ih =>
      by_cases hvalue : value = ""
      · rw [List.filter_cons_of_neg (by simpa using hvalue), List.map_cons, List.flatten_cons, ih,
          hvalue]
        rfl
      · rw [List.filter_cons_of_pos (by simpa using hvalue), List.map_cons, List.flatten_cons, ih,
          List.map_cons, List.flatten_cons]

/-- **Where it matters how a text is split.** If no empty text changes how the ones beside it are
written, and no list marker stands below a row that holds nothing but the same marker, a paragraph
of several texts is written as the paragraph of them all in one exactly if no character is where the
cuts matter. -/
theorem toMarkdown_texts_iff {values : List String} (hvalues : Unhidden values)
    (hstacked : hasStackedMarkers (String.join values).toList = false) :
    ∃ split whole, toMarkdown (.node {} []) (textParagraph values) = .ok split ∧
      toMarkdown (.node {} []) (textParagraph [String.join values]) = .ok whole ∧
      (split = whole ↔ ∀ front value behind, values.filter (· ≠ "") = front ++ value :: behind →
        ∀ pre c post, value.toList = pre ++ c :: post →
          ¬ CutsMarkup (String.join front).toList pre c post (behind.map String.toList)) := by
  have hpieces : ∀ text ∈ (values.filter (· ≠ "")).map String.toList, text ≠ [] := by
    intro text htext
    obtain ⟨value, hmem, rfl⟩ := List.mem_map.mp htext
    exact mt String.toList_eq_nil_iff.mp (of_decide_eq_true (List.mem_filter.mp hmem).2)
  have hwritten : (textsBetween ['\n'] (values.map String.toList)).flatten =
      (textsFrom '\n' ((values.filter (· ≠ "")).map String.toList)).flatten := by
    rw [← hvalues, List.flatten_filter_ne_nil]
  rw [toList_join_filter] at hstacked
  refine ⟨_, _, toMarkdown_texts values, toMarkdown_paragraph_text (String.join values), ?_⟩
  obtain ⟨hnil, hbreak⟩ :=
    getLast?_flatten_textsFrom '\n' ((values.filter (· ≠ "")).map String.toList)
  have hstack : ∀ construct ∈ paragraphStack, construct ∉ Rule.singleLine := by decide
  rw [hwritten, toList_join_filter, String.ofList_inj, terminated_eq_iff,
    flatten_textsFrom_eq_iff hpieces hstacked]
  · constructor
    · intro hall front value behind hsplit pre c post hvalue
      rw [toList_join]
      exact hall _ _ _ (by rw [hsplit, List.map_append, List.map_cons]) pre c post hvalue
    · intro hall front piece behind htexts pre c post hpiece
      obtain ⟨front, tail, hsplit, rfl, htail⟩ := List.map_eq_append_iff.mp htexts
      obtain ⟨value, behind, rfl, rfl, rfl⟩ := List.map_eq_cons_iff.mp htail
      rw [← toList_join]
      exact hall front value behind hsplit pre c post hpiece
  · rw [hnil, paragraphText, escapeLiteral_eq_nil_iff]
  · rw [hbreak]
    exact (isLineBreak_getLast?_escapeLiteral_iff hstack).symm

/-- Two lines, cut in front of the line ending, and an empty text behind them. -/
def splitLines : List String :=
  ["- a ", "\n# b", ""]

/-- Here the cut does not matter to any character, and the empty text hides nothing. -/
theorem not_cutsMarkup_splitLines :
    Unhidden splitLines ∧ hasStackedMarkers (String.join splitLines).toList = false ∧
      toMarkdown (.node {} []) (textParagraph splitLines) = .ok "\\- a&#x20;\n\\# b\n" ∧
      ∀ front value behind, ["- a ", "\n# b"] = front ++ value :: behind →
        ∀ pre c post, value.toList = pre ++ c :: post →
          ¬ CutsMarkup (String.join front).toList pre c post (behind.map String.toList) := by
  have hvalues : Unhidden splitLines := by
    unfold Unhidden
    decide +kernel
  have hstacked : hasStackedMarkers (String.join splitLines).toList = false := by decide
  have hrun : toMarkdown (.node {} []) (textParagraph splitLines) = .ok "\\- a&#x20;\n\\# b\n" := by
    decide +kernel
  have hjoin :
      toMarkdown (.node {} []) (textParagraph [String.join splitLines]) =
        .ok "\\- a&#x20;\n\\# b\n" := by
    decide +kernel
  obtain ⟨split, whole, hsplit, hwhole, hiff⟩ := toMarkdown_texts_iff hvalues hstacked
  have hsame : split = whole :=
    Except.ok.inj ((hsplit.symm.trans (hrun.trans hjoin.symm)).trans hwhole)
  exact ⟨hvalues, hstacked, hrun, hiff.mp hsame⟩

/-- The number of what would be an item of an ordered list and the character behind it, in two
texts. -/
def splitNumber : List String :=
  ["1", ". a"]

/-- The full stop is escaped in one text and not in two, so a list is read from the two. -/
theorem toMarkdown_splitNumber :
    toMarkdown (.node {} []) (textParagraph splitNumber) = .ok "1. a\n" ∧
      toMarkdown (.node {} []) (textParagraph [String.join splitNumber]) = .ok "1\\. a\n" ∧
      ¬ ∀ values : List String, toMarkdown (.node {} []) (textParagraph values) =
        toMarkdown (.node {} []) (textParagraph [String.join values]) := by
  have hsplit : toMarkdown (.node {} []) (textParagraph splitNumber) = .ok "1. a\n" := by
    decide +kernel
  have hwhole :
      toMarkdown (.node {} []) (textParagraph [String.join splitNumber]) = .ok "1\\. a\n" := by
    decide +kernel
  refine ⟨hsplit, hwhole, fun hclaim => ?_⟩
  have hsame := hclaim splitNumber
  rw [hsplit, hwhole] at hsame
  exact absurd (Except.ok.inj hsame) (by decide)

end MarkdownWriter
