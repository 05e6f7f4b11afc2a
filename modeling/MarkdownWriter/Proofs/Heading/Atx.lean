import MarkdownWriter.Proofs.Escape.Decoding
import MarkdownWriter.Proofs.Escape.LineBreaks
import MarkdownWriter.Proofs.Render.Paragraph
import MarkdownWriter.Proofs.Render.References
import Mathlib.Data.List.DropRight

/-!
# Headings behind marks

A heading of one line stands behind a run of `#`. Spaces and tabs at the edges of the line are not
part of it, and neither is a closing run of `#` behind a space, so both edges of the text have to be
kept from being taken for one of these. `readAtx` reads a heading from a line.

* **The end** is kept by escapes. The last character of a text is never spared by what comes next
  (`escapedAt_of_getLast?`), so a space, a tab or a `#` is escaped there, and a run of `#` at the
  end of what is written has a backslash in front of it.
* **The start** is patched once the text is written (`Layout.keepLeadingSpace`), as the escaper
  looks at line breaks only. The patch is a reference for the very character that is there, which
  reads back as the same.

Together with decoding this gives the text back, with closing marks and without
(`Writer.LaysOut.readAtx_heading`).
-/

namespace MarkdownWriter

open Text

/-! ## Reading -/

/-- A heading as it is read from a line. -/
structure AtxHeading where
  rank : Nat
  content : List Char
  deriving DecidableEq, Repr

/-- A text without the spaces and tabs at its edges. -/
def trimSpacing (text : List Char) : List Char :=
  (text.dropWhile isSpacing).rdropWhile isSpacing

/-- The content of a heading without the closing run of marks, if that stands behind a space or tab
or is all there is. -/
def dropClosingMarks (content : List Char) : List Char :=
  let opened := content.rdropWhile (· == '#')
  if opened.getLast?.all isSpacing then opened else content

/-- Read a line as a heading: one to six marks, and then nothing or a space or tab. -/
def readAtx (line : List Char) : Option AtxHeading :=
  let marks := (line.takeWhile (· == '#')).length
  let behind := line.dropWhile (· == '#')
  if marks = 0 ∨ 6 < marks ∨ behind.head?.any (!isSpacing ·) = true ∨
    line.any isLineBreak = true then none
  else some ⟨marks, (dropClosingMarks (trimSpacing behind)).rdropWhile isSpacing⟩

/-! ## Marks around a content -/

/-- A content that stands between marks without losing anything: it is part of one line, and its
edges are no spaces, tabs or marks that could be taken for closing ones. -/
structure IsAtxContent (content : List Char) : Prop where
  line : ∀ c ∈ content, isLineBreak c = false
  head : content.head?.any isSpacing = false
  last : content.getLast?.any isSpacing = false
  marks : content.getLast? = some '#' → ∃ front, content = front ++ ['\\', '#']

namespace Layout

/-- A heading with the given content, and closing marks if `closes`. -/
def atxText (rank : Nat) (closes : Bool) (content : List Char) : List Char :=
  let marks := List.replicate rank '#'
  let opened := if content.isEmpty then marks else marks ++ ' ' :: content
  if closes then opened ++ ' ' :: marks else opened

end Layout

theorem rdropWhile_eq_self {p : Char → Bool} {text : List Char} (h : text.getLast?.any p = false) :
    text.rdropWhile p = text := by
  rcases List.eq_nil_or_concat text with rfl | ⟨front, c, rfl⟩
  · rfl
  · rw [List.concat_eq_append] at h ⊢
    rw [List.getLast?_concat, Option.any_some] at h
    exact List.rdropWhile_concat_neg p front c (by simp [h])

/-- Marks at the end of a text are dropped with the others. -/
theorem rdropWhile_append_marks {front : List Char} (h : front.getLast?.any (· == '#') = false)
    (n : Nat) : (front ++ List.replicate n '#').rdropWhile (· == '#') = front := by
  induction n with
  | zero => rw [List.replicate_zero, List.append_nil, rdropWhile_eq_self h]
  | succ n ih =>
      rw [List.replicate_succ', ← List.append_assoc, List.rdropWhile_concat_pos _ _ _ rfl, ih]

namespace IsAtxContent

variable {content : List Char}

theorem rdropWhile_isSpacing (h : IsAtxContent content) : content.rdropWhile isSpacing = content :=
  rdropWhile_eq_self h.last

/-- Nothing at its end is taken for closing marks. -/
theorem dropClosingMarks_eq (h : IsAtxContent content) : dropClosingMarks content = content := by
  unfold dropClosingMarks
  dsimp only
  by_cases hmarks : content.getLast? = some '#'
  · obtain ⟨front, rfl⟩ := h.marks hmarks
    have hdrop := @rdropWhile_append_marks (front ++ ['\\']) (by rw [List.getLast?_concat]; rfl) 1
    rw [List.append_assoc, List.replicate_one, List.singleton_append] at hdrop
    rw [hdrop, List.getLast?_concat, if_neg (by decide)]
  · have hlast : content.getLast?.any (· == '#') = false := by
      rw [← Bool.not_eq_true, Option.any_eq_true]
      rintro ⟨c, hc, hmark⟩
      rw [beq_iff_eq.mp hmark] at hc
      exact hmarks hc
    rw [rdropWhile_eq_self hlast, ite_self]

end IsAtxContent

/-- Closing marks behind a space are dropped, and the space is left. -/
theorem dropClosingMarks_append (content : List Char) (rank : Nat) :
    dropClosingMarks (content ++ ' ' :: List.replicate rank '#') = content ++ [' '] := by
  have hdrop := @rdropWhile_append_marks (content ++ [' ']) (by rw [List.getLast?_concat]; rfl) rank
  rw [List.append_assoc, List.singleton_append] at hdrop
  unfold dropClosingMarks
  simp [hdrop, isSpacing]

/-- What is read from a line is decided by what stands behind the marks. -/
theorem readAtx_replicate_append {rank : Nat} (hrank : 1 ≤ rank ∧ rank ≤ 6) {behind : List Char}
    (hhead : behind.head?.any (!isSpacing ·) = false)
    (hline : ∀ c ∈ behind, isLineBreak c = false) :
    readAtx (List.replicate rank '#' ++ behind) =
      some ⟨rank, (dropClosingMarks (trimSpacing behind)).rdropWhile isSpacing⟩ := by
  have hmark : ∀ c ∈ List.replicate rank '#', (c == '#') = true := by
    intro c hc
    rw [List.eq_of_mem_replicate hc]
    rfl
  have hstop : behind.takeWhile (· == '#') = [] ∧ behind.dropWhile (· == '#') = behind := by
    cases behind with
    | nil => exact ⟨rfl, rfl⟩
    | cons c behind =>
        have hc : ¬ (c == '#') = true := by
          rw [beq_iff_eq]
          rintro rfl
          contradiction
        exact ⟨List.takeWhile_cons_of_neg hc, List.dropWhile_cons_of_neg hc⟩
  have hbreaks : (List.replicate rank '#' ++ behind).any isLineBreak = false := by
    rw [List.any_eq_false]
    intro c hc
    rw [Bool.not_eq_true]
    rcases List.mem_append.mp hc with hc | hc
    · exact isLineBreak_of_mem_replicate rfl rank c hc
    · exact hline c hc
  unfold readAtx
  dsimp only
  rw [List.takeWhile_append_of_pos hmark, List.dropWhile_append_of_pos hmark, hstop.1, hstop.2,
    List.append_nil, List.length_replicate, hhead, hbreaks]
  exact if_neg (by simp; omega)

/-- Behind a space nothing is trimmed from a text whose edges are no spaces. -/
theorem trimSpacing_space {text : List Char} (hhead : text.head?.any isSpacing = false)
    (hlast : text.getLast?.any isSpacing = false) : trimSpacing (' ' :: text) = text := by
  have hkept : text.dropWhile isSpacing = text := by
    cases text with
    | nil => rfl
    | cons c text => exact List.dropWhile_cons_of_neg (by simpa using hhead)
  rw [trimSpacing, List.dropWhile_cons_of_pos rfl, hkept, rdropWhile_eq_self hlast]

/-- Behind marks and a space a text whose edges are no spaces is read but for its closing marks. -/
theorem readAtx_spaced {rank : Nat} (hrank : 1 ≤ rank ∧ rank ≤ 6) {text : List Char}
    (hhead : text.head?.any isSpacing = false) (hlast : text.getLast?.any isSpacing = false)
    (hline : ∀ c ∈ text, isLineBreak c = false) :
    readAtx (List.replicate rank '#' ++ ' ' :: text) =
      some ⟨rank, (dropClosingMarks text).rdropWhile isSpacing⟩ := by
  rw [readAtx_replicate_append hrank rfl (List.forall_mem_cons.mpr ⟨rfl, hline⟩),
    trimSpacing_space hhead hlast]

/-- **A content that stands between marks is read back**, with the number of the marks. -/
theorem IsAtxContent.readAtx_atxText {content : List Char} (h : IsAtxContent content) {rank : Nat}
    (hrank : 1 ≤ rank ∧ rank ≤ 6) (closes : Bool) :
    readAtx (Layout.atxText rank closes content) = some ⟨rank, content⟩ := by
  have hmarks : ∀ c ∈ List.replicate rank '#', isLineBreak c = false :=
    isLineBreak_of_mem_replicate rfl rank
  have hlast : (List.replicate rank '#').getLast? = some '#' := by
    rw [List.getLast?_replicate, if_neg (by omega)]
  cases content with
  | nil =>
      cases closes with
      | false =>
          have hread := @readAtx_replicate_append rank hrank [] rfl (by simp)
          rwa [List.append_nil] at hread
      | true =>
          have hhead : (List.replicate rank '#').head?.any isSpacing = false := by
            rw [List.head?_replicate, if_neg (by omega)]
            rfl
          have hdrop := @rdropWhile_append_marks [] rfl rank
          rw [List.nil_append] at hdrop
          refine (readAtx_spaced hrank hhead (by rw [hlast]; rfl) hmarks).trans ?_
          rw [dropClosingMarks, hdrop]
          rfl
  | cons c content =>
      cases closes with
      | false =>
          refine (readAtx_spaced hrank h.head h.last h.line).trans ?_
          rw [h.dropClosingMarks_eq, h.rdropWhile_isSpacing]
      | true =>
          have htext : Layout.atxText rank true (c :: content) =
              List.replicate rank '#' ++ ' ' :: (c :: content ++
                ' ' :: List.replicate rank '#') := by
            simp [Layout.atxText]
          have hwhole : (c :: content ++ ' ' :: List.replicate rank '#').getLast?.any isSpacing =
              false := by
            rw [List.getLast?_append, List.getLast?_cons, hlast]
            rfl
          have hline : ∀ d ∈ c :: content ++ ' ' :: List.replicate rank '#',
              isLineBreak d = false :=
            List.forall_mem_append.mpr ⟨h.line, List.forall_mem_cons.mpr ⟨rfl, hmarks⟩⟩
          rw [htext, readAtx_spaced hrank (by exact h.head) hwhole hline, dropClosingMarks_append,
            List.rdropWhile_concat_pos _ _ _ rfl, h.rdropWhile_isSpacing]

/-! ## The start of a text -/

section leading

variable {text : List Char}

/-- A leading space or tab is replaced by its reference. -/
theorem Layout.keepLeadingSpace_cases (text : List Char) :
    (text.head?.any isSpacing = false ∧ keepLeadingSpace text = text) ∨
      ∃ c rest, text = c :: rest ∧ isSpacing c = true ∧
        keepLeadingSpace text = characterReference c ++ rest := by
  cases text with
  | nil => exact .inl ⟨rfl, rfl⟩
  | cons c rest =>
      by_cases hc : isSpacing c = true
      · exact .inr ⟨c, rest, rfl, hc, if_pos hc⟩
      · exact .inl ⟨by simpa using hc, if_neg hc⟩

theorem isReferenceable_of_isSpacing {c : Char} (h : isSpacing c = true) :
    isReferenceable c = true := by
  rcases isSpacing_iff.mp h with rfl | rfl <;> decide

/-- It reads back as the same. -/
theorem Layout.decodeWith_keepLeadingSpace {references : References}
    (hreferences : references.IsStandard) :
    decodeWith references (keepLeadingSpace text) = decodeWith references text := by
  rcases keepLeadingSpace_cases text with ⟨-, hkept⟩ | ⟨c, rest, rfl, hc, hkept⟩
  · rw [hkept]
  · have hplain : c ≠ '\\' ∧ c ≠ '&' := by
      rcases isSpacing_iff.mp hc with rfl | rfl <;> decide
    rw [hkept, decodeWith_characterReference hreferences (isReferenceable_of_isSpacing hc),
      decodeWith_plain hplain.1 hplain.2]

/-- Nothing else is needed to stand between marks. -/
theorem Layout.isAtxContent_keepLeadingSpace (hline : ∀ c ∈ text, isLineBreak c = false)
    (hlast : text.getLast?.any isSpacing = false)
    (hmarks : text.getLast? = some '#' → ∃ front, text = front ++ ['\\', '#']) :
    IsAtxContent (keepLeadingSpace text) := by
  rcases keepLeadingSpace_cases text with ⟨hhead, hkept⟩ | ⟨c, rest, rfl, hc, hkept⟩
  · rw [hkept]
    exact ⟨hline, hhead, hlast, hmarks⟩
  · have hrest : rest ≠ [] := by
      rintro rfl
      rw [List.getLast?_singleton, Option.any_some, hc] at hlast
      contradiction
    have hgetLast : (characterReference c ++ rest).getLast? = (c :: rest).getLast? := by
      rw [List.getLast?_append_of_ne_nil _ hrest, ← List.singleton_append,
        List.getLast?_append_of_ne_nil _ hrest]
    rw [hkept]
    refine ⟨List.forall_mem_append.mpr ⟨isLineBreak_of_mem_characterReference c,
      (List.forall_mem_cons.mp hline).2⟩, rfl, ?_, ?_⟩
    · rw [hgetLast]
      exact hlast
    · rw [hgetLast]
      intro hmark
      obtain ⟨front, hfront⟩ := hmarks hmark
      cases front with
      | nil =>
          obtain rfl := (List.cons.inj hfront).1
          contradiction
      | cons d front =>
          obtain ⟨-, rfl⟩ := List.cons.inj hfront
          exact ⟨characterReference c ++ front, by simp⟩

end leading

/-! ## The text of a heading -/

section edges

variable {stack : List Construct} {input : List Char} {around : Surroundings}

/-- A condition on the end of a line takes no mark. -/
theorem avoids_lineEnd : Avoids (some Rule.lineEnd) '#' := by
  intro offset taken rest h hmem
  rcases Regex.takes_alt.mp (fits_some.mp h) with h | h
  · exact avoids_lineBreak rfl offset taken rest (fits_some.mpr h) hmem
  · obtain rfl := (Regex.takes_finish.mp h).1
    contradiction

/-- In a heading behind marks a mark that is the last character is written behind a backslash. -/
theorem exists_of_getLast?_escapeLiteral_mark (hstack : .headingAtx ∈ stack)
    (hafter : around.after = ['\n']) (hencode : '#' ∉ around.encode)
    (hlast : (escapeLiteral Rule.defaults stack input around).getLast? = some '#') :
    ∃ front, escapeLiteral Rule.defaults stack input around = front ++ ['\\', '#'] := by
  obtain ⟨front, rfl⟩ := List.getLast?_eq_some_iff.mp (getLast?_escapeLiteral (by decide) hlast)
  have hmem : Rule.make '#' [.headingAtx] [] false none (some Rule.lineEnd) ∈ Rule.defaults := by
    simp [Rule.defaults, Rule.whitespaceRules, Rule.punctuationRules]
  have hescaped : EscapedAt Rule.defaults stack (front ++ ['#']) around front.length :=
    escapedAt_of_getLast? hmem (Rule.applies_make (List.mem_singleton.mpr rfl) hstack '#' false
      none _) rfl
      avoids_lineEnd hafter
      fun _ => fits_some.mpr (Regex.takes_alt.mpr
        (.inl (Rule.takes_lineBreak.mpr ⟨'\n', rfl, rfl⟩)))
  obtain ⟨written, hwritten⟩ := exists_escapeLiteral_eq_append
    (getElem?_lettersBetween_concat (iff_of_true rfl hescaped))
  refine ⟨written, hwritten.trans (congrArg _ ?_)⟩
  have hsign : isPunctuation '#' = true := by decide
  simp [Letter.written, hsign, hencode, plainChar]

end edges

/-! ## Rendering -/

section written

variable {writer : Writer} {state : State} {value : String}

/-- A text that is all the inline content there is. -/
theorem Writer.LaysOut.inlines_text (hwriter : writer.LaysOut .text) {node : Node}
    (hnode : node.children = [.leaf (.text value)]) (site : Site) (state : State) :
    writer.inlines node site state =
      (.ok (escapeLiteral writer.rules state.constructs value.toList ⟨site.before, site.after, []⟩),
        state) := by
  have hrender (place : Site) : writer.render (.leaf (.text value)) (some node) place =
      Layout.text writer.rules value.toList place :=
    hwriter.render_eq_layout rfl (some node) place
  have hflatten (text : List Char) : [text].reverse.flatten = text := by simp
  unfold Writer.inlines
  rw [hnode]
  refine Render.counting_eq_ok.mpr ⟨{ state with indexes := 0 :: state.indexes }, ?_, rfl⟩
  rw [Writer.inlinesFrom, Render.bind_run_ok (Render.goTo_run _ _), hrender]
  simp only [Writer.inlinesFrom]
  exact congrArg (fun text => (Except.ok text, { state with indexes := 0 :: state.indexes }))
    (hflatten _)

/-- What is written behind marks and what is between them, if nothing is changed by writing it. -/
theorem Layout.atxHeading_run {rank : Nat} {site : Site} {inline : Inline} {content : List Char}
    (h : ∀ position, inline ⟨['#', ' '], ['\n'], position⟩
        { state with constructs := .phrasing :: .headingAtx :: state.constructs } =
      (.ok content, { state with constructs := .phrasing :: .headingAtx :: state.constructs })) :
    atxHeading rank site inline state =
      (.ok (atxText rank state.style.closesAtx (keepLeadingSpace content)), state) := by
  unfold atxHeading
  dsimp only
  rw [Render.bind_run_ok (Render.entering_run (Render.entering_run (h _))),
    Render.bind_run_ok (Render.get_run state), Render.pure_run]
  rfl

/-- **A heading behind marks gives its text back.** Whatever its text and depth are and whatever is
open around it, with Markdown's own rules a heading of one text that is not underlined is one line,
which is read as a heading: its rank is the depth, brought into the range from one to six, and its
content decodes to the text. -/
theorem Writer.LaysOut.readAtx_heading (hheading : writer.LaysOut .heading)
    (htext : writer.LaysOut .text) (hrules : writer.rules = Rule.defaults)
    {references : References} (hreferences : references.IsStandard) {depth : Nat}
    (hatx : Node.isSetext state.style (.branch (.heading depth) [.leaf (.text value)]) = false)
    (parent : Option Node) (site : Site) :
    ∃ content text,
      writer.render (.branch (.heading depth) [.leaf (.text value)]) parent site state =
        (.ok text, state) ∧
      readAtx text = some ⟨max 1 (min depth 6), content⟩ ∧
      decodeWith references content = value.toList := by
  obtain ⟨stack, hstack⟩ : ∃ stack, stack = Construct.phrasing :: .headingAtx :: state.constructs :=
    ⟨_, rfl⟩
  have hphrasing : .phrasing ∈ stack := by simp [hstack]
  have hmarks : .headingAtx ∈ stack := by simp [hstack]
  have hcontent : IsAtxContent (Layout.keepLeadingSpace
      (escapeLiteral Rule.defaults stack value.toList ⟨['#', ' '], ['\n'], []⟩)) :=
    Layout.isAtxContent_keepLeadingSpace (isLineBreak_of_mem_escapeLiteral (fun _ h => h) hmarks)
      (isSpacing_getLast?_escapeLiteral hphrasing rfl)
      (exists_of_getLast?_escapeLiteral_mark hmarks rfl List.not_mem_nil)
  refine ⟨_, _, ?_, hcontent.readAtx_atxText (by omega) state.style.closesAtx, ?_⟩
  · rw [hheading.render_eq_layout rfl]
    change Layout.heading _ depth site _ state = _
    unfold Layout.heading
    rw [Render.bind_run_ok (Render.get_run state), if_neg (by simp [hatx])]
    apply Layout.atxHeading_run
    intro position
    rw [htext.inlines_text rfl, hrules, hstack]
  · rw [Layout.decodeWith_keepLeadingSpace hreferences, escapeLiteral,
      decodeWith_writeLetters hreferences [] (readable_lettersBetween hphrasing),
      map_char_lettersBetween]

end written

/-- The edges of this text look like nothing and like closing marks, and a line ending behind a
space is in it. -/
theorem readAtx_edgeHeading :
    Writer.standard.LaysOut .heading ∧ Writer.standard.LaysOut .text ∧
      Node.isSetext { closeAtx := some true }
        (.branch (.heading 9) [.leaf (.text "\t# a \n #")]) = false ∧
      ∃ content text,
        Writer.standard.render (.branch (.heading 9) [.leaf (.text "\t# a \n #")]) none
            (Writer.blockSite {}) { style := { closeAtx := some true } } =
          (.ok text, { style := { closeAtx := some true } }) ∧
        readAtx text = some ⟨6, content⟩ ∧ decode content = "\t# a \n #".toList := by
  have hheading : Writer.standard.LaysOut .heading := rfl
  have htext : Writer.standard.LaysOut .text := rfl
  have hatx : Node.isSetext { closeAtx := some true }
      (.branch (.heading 9) [.leaf (.text "\t# a \n #")]) = false := by
    decide
  exact ⟨hheading, htext, hatx, @Writer.LaysOut.readAtx_heading Writer.standard
    { style := { closeAtx := some true } } "\t# a \n #" hheading htext rfl htmlReferences
      isStandard_htmlReferences 9
    hatx none (Writer.blockSite {})⟩

end MarkdownWriter
