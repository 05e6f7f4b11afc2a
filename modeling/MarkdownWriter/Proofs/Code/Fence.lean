import MarkdownWriter.Proofs.Escape.LineStarts
import MarkdownWriter.Proofs.Render.Paragraph
import MarkdownWriter.Proofs.Render.References
import MarkdownWriter.Proofs.Text.Lines
import MarkdownWriter.Proofs.Text.Runs

/-!
# Fenced code read back

A fenced block begins with a run of fence characters and the info string behind it, and goes on up
to the first line that closes it (`readFence`).

* **What is written** (`Layout.code_run`): the fence, the info string (`Layout.infoString`), the
  value on lines of its own and the fence again. There is never a line ending in the info string,
  nor a backtick behind a fence of backticks (`Layout.not_mem_infoString`).
* **The contents** (`Lines.ofText_fencedText`, `closesFence_eq_false`): cut again, the value has its
  own lines, and none of them closes the block, as no run in it is as long as the fence.
* **The extent** (`Writer.LaysOut.readFence_eq_some_iff`): the block is read as it was meant unless
  the info string begins with the fence character. Then the opening run is longer than the closing
  one. A language that begins with a tilde does that behind a fence of tildes, since no rule is
  about tildes in info strings.
-/

namespace MarkdownWriter

open Text

/-! ## Reading -/

/-- A fenced block as it is read. -/
structure FencedBlock where
  /-- The number of characters of the opening fence. -/
  fence : Nat
  /-- What stands behind it on its line. -/
  info : List Char
  /-- The lines of the contents, each behind the ending of the line before it. -/
  lines : List (LineEnding × List Char)
  /-- The line with the closing fence. -/
  closing : List Char
  /-- The lines behind it. -/
  rest : List (LineEnding × List Char)
  deriving DecidableEq, Repr

/-- Whether a line closes a block with a fence of `n` characters: at most three spaces, at least as
many fence characters, then nothing but spaces and tabs. -/
def closesFence (marker : Char) (n : Nat) (line : List Char) : Bool :=
  let unindented := line.dropWhile (· == ' ')
  (line.takeWhile (· == ' ')).length ≤ 3 && n ≤ (unindented.takeWhile (· == marker)).length &&
    (unindented.dropWhile (· == marker)).all isSpacing

/-- Read the fenced block that a text begins with, if it is closed. -/
def readFence (marker : Char) (text : List Char) : Option FencedBlock :=
  let opening := (Lines.ofText text).first
  let fence := (opening.takeWhile (· == marker)).length
  let isContent (line : LineEnding × List Char) : Bool := !closesFence marker fence line.2
  if fence < 3 then none
  else
    match (Lines.ofText text).rest.dropWhile isContent with
    | [] => none
    | closing :: rest =>
        some ⟨fence, opening.dropWhile (· == marker), (Lines.ofText text).rest.takeWhile isContent,
          closing.2, rest⟩

/-- The lines of a value as the contents of a block. There are none if it is empty. -/
def contentLines (value : List Char) : List (LineEnding × List Char) :=
  if value.isEmpty then [] else (.lf, (Lines.ofText value).first) :: (Lines.ofText value).rest

/-! ## Writing -/

namespace Layout

/-- The info string of a block, as it is written behind `fence` while the constructs of `stack` are
open. -/
def infoString (rules : List Rule) (stack : List Construct) (marker : Char) (fence : List Char)
    (block : CodeBlock) : List Char :=
  match nonEmpty block.lang with
  | none => []
  | some lang =>
      let escaped :=
        escapeLiteral rules ((infoConstructs marker).1 :: stack) lang.toList
          ⟨fence, [' '], infoEncode⟩
      match nonEmpty block.attributes with
      | none => escaped
      | some attributes =>
          escaped ++ ' ' :: escapeLiteral rules ((infoConstructs marker).2 :: stack)
            attributes.toList
            ⟨fence ++ escaped ++ [' '], ['\n'], infoEncode⟩

/-- A fenced block with the given info string. -/
def fencedText (fence info value : List Char) : List Char :=
  fence ++ info ++ ['\n'] ++ (if value.isEmpty then [] else value ++ ['\n']) ++ fence

variable {rules : List Rule} {stack : List Construct} {marker : Char} {fence : List Char}
  {block : CodeBlock}
  {state : State}

/-- An opening fence is the fence with the info string behind it. -/
theorem openingFence_run :
    openingFence rules marker fence block state =
      (.ok (fence ++ infoString rules state.constructs marker fence block), state) := by
  unfold openingFence infoString
  cases nonEmpty block.lang with
  | none => simp [Render.pure_run]
  | some lang =>
      dsimp only
      rw [Render.bind_run_ok (Render.entering_literal_run _ _ _)]
      cases nonEmpty block.attributes with
      | none => rfl
      | some attributes =>
          dsimp only
          rw [Render.bind_run_ok (Render.entering_literal_run _ _ _), Render.pure_run]
          simp

/-- **How fenced code is written.** -/
theorem code_run (hmarker : state.style.fenceMarker = .ok marker)
    (hfenced : block.isIndented state.style = false) :
    code rules block state =
      (.ok (fencedText (codeFence marker block.value.toList)
        (infoString rules (.codeFenced :: state.constructs) marker
          (codeFence marker block.value.toList) block)
        block.value.toList), state) := by
  have hopening : Render.entering .codeFenced
      (openingFence rules marker (codeFence marker block.value.toList) block) state =
        (.ok (codeFence marker block.value.toList ++
          infoString rules (.codeFenced :: state.constructs) marker
            (codeFence marker block.value.toList) block), state) :=
    Render.entering_run openingFence_run
  unfold code
  rw [Render.bind_run_ok (Render.ofStyle_eq_ok.mpr ⟨hmarker, rfl⟩),
    Render.bind_run_ok (Render.get_run state), hfenced,
    if_neg Bool.false_ne_true, Render.bind_run_ok hopening]
  rfl

/-! ## Info strings -/

/-- A rule without condition applies where one of its constructs is the innermost. -/
theorem applies_anywhereIn {inside : List Construct} {construct : Construct}
    (h : construct ∈ inside) (c : Char) :
    (Rule.anywhereIn inside c).applies (construct :: stack) = true := by
  simp [Rule.anywhereIn, Rule.make, Rule.applies, h]

/-- Line endings, and behind a fence of backticks also backticks, are not written in an info string.
-/
theorem not_mem_infoString (hrules : ∀ rule ∈ Rule.defaults, rule ∈ rules) {c : Char}
    (hc : isLineBreak c = true ∨ c = '\x60' ∧ marker = '\x60') :
    c ∉ infoString rules stack marker fence block := by
  have hrule : ∃ inside, Rule.anywhereIn inside c ∈ Rule.defaults ∧
      (infoConstructs marker).1 ∈ inside ∧ (infoConstructs marker).2 ∈ inside ∧
      (isPunctuation c = true → c ∈ infoEncode) := by
    rcases hc with hc | ⟨rfl, rfl⟩
    · refine ⟨Rule.singleLine, ?_, ?_, ?_, ?_⟩
      · rcases isLineBreak_iff.mp hc with rfl | rfl <;>
          simp [Rule.defaults, Rule.whitespaceRules, Rule.punctuationRules]
      · unfold infoConstructs
        split <;> decide
      · unfold infoConstructs
        split <;> decide
      · rcases isLineBreak_iff.mp hc with rfl | rfl <;> decide
    · exact ⟨[.codeFencedLangGraveAccent, .codeFencedMetaGraveAccent],
        by simp [Rule.defaults, Rule.whitespaceRules,
        Rule.punctuationRules], by decide, by decide, by decide⟩
  obtain ⟨inside, hmem, hlang, hattributes, hencode⟩ := hrule
  have hspace : c ≠ ' ' := by
    rintro rfl
    simp [isLineBreak] at hc
  unfold infoString
  cases nonEmpty block.lang with
  | none => exact List.not_mem_nil
  | some lang =>
      have hescaped : c ∉ escapeLiteral rules ((infoConstructs marker).1 :: stack) lang.toList
          ⟨fence, [' '], infoEncode⟩ :=
        not_mem_escapeLiteral hrules hmem (applies_anywhereIn hlang c) rfl rfl hencode
      cases nonEmpty block.attributes with
      | none => exact hescaped
      | some attributes =>
          simp only [List.mem_append, List.mem_cons, not_or]
          exact ⟨hescaped, hspace,
            not_mem_escapeLiteral hrules hmem (applies_anywhereIn hattributes c) rfl rfl hencode⟩

/-- An info string begins as its language is written. -/
theorem head?_infoString_eq_some_iff {c : Char} (hbackslash : c ≠ '\\') (hampersand : c ≠ '&') :
    (infoString rules stack marker fence block).head? = some c ↔
      ∃ lang ∈ block.lang, lang.toList.head? = some c ∧
        ¬ EscapedAt rules ((infoConstructs marker).1 :: stack) lang.toList
          ⟨fence, [' '], infoEncode⟩ 0 := by
  unfold infoString
  cases hlang : nonEmpty block.lang with
  | none =>
      simp only [List.head?_nil, reduceCtorEq, false_iff]
      rintro ⟨lang, hmem, hhead, -⟩
      have hne : lang ≠ "" := by
        rintro rfl
        contradiction
      rw [nonEmpty_eq_some_iff.mpr ⟨hmem, hne⟩] at hlang
      contradiction
  | some lang =>
      obtain ⟨hmem, hne⟩ := nonEmpty_eq_some_iff.mp hlang
      have hescaped :=
        @head?_escapeLiteral_eq_some_iff rules ((infoConstructs marker).1 :: stack) lang.toList
        ⟨fence, [' '], infoEncode⟩ c hbackslash hampersand
      have hnil : escapeLiteral rules ((infoConstructs marker).1 :: stack) lang.toList
          ⟨fence, [' '], infoEncode⟩ ≠ [] :=
        mt escapeLiteral_eq_nil_iff.mp (by simpa using hne)
      rw [hmem]
      simp only [Option.mem_def, Option.some.injEq, exists_eq_left']
      rw [← hescaped]
      cases nonEmpty block.attributes with
      | none => rfl
      | some attributes => simp only [List.head?_append_of_ne_nil _ hnil]

end Layout

/-! ## Lines -/

section lines

variable {marker : Char} {fence info value line : List Char} {n : Nat}

/-- A fenced block begins with the line of its opening fence and ends with that of its closing one.
-/
theorem Lines.ofText_fencedText (hfence : ∀ c ∈ fence, isLineBreak c = false)
    (hinfo : ∀ c ∈ info, isLineBreak c = false) (hvalue : value.getLast? ≠ some '\r') :
    Lines.ofText (Layout.fencedText fence info value) =
      ⟨fence ++ info, contentLines value ++ [(.lf, fence)]⟩ := by
  have hclosing : Lines.ofText fence = ⟨fence, []⟩ := by
    have := Lines.ofText_append hfence []
    rwa [List.append_nil, Lines.ofText, List.append_nil] at this
  have hopening : ∀ c ∈ fence ++ info, isLineBreak c = false :=
    List.forall_mem_append.mpr ⟨hfence, hinfo⟩
  unfold Layout.fencedText contentLines
  rw [List.append_assoc, List.append_assoc, Lines.ofText_append hopening, List.singleton_append]
  cases hempty : value.isEmpty with
  | true => simp [Lines.ofText, Lines.openLine, hclosing]
  | false => simp [Lines.ofText, Lines.openLine, hclosing, Lines.ofText_append_lineFeed hvalue]

/-- The lines of the contents are parts of the value. -/
theorem infix_of_mem_contentLines {entry : LineEnding × List Char}
    (h : entry ∈ contentLines value) : entry.2 <:+: value := by
  unfold contentLines at h
  split at h
  · contradiction
  · apply Lines.infix_of_mem_lines
    rcases List.mem_cons.mp h with rfl | h
    · exact .inl rfl
    · exact .inr (List.mem_map_of_mem h)

/-- A line without a run as long as the fence does not close the block. -/
theorem closesFence_eq_false (hline : line <:+: value) (hn : longestRun marker value < n) :
    closesFence marker n line = false := by
  rw [← Bool.not_eq_true]
  intro hcloses
  unfold closesFence at hcloses
  simp only [Bool.and_eq_true, decide_eq_true_eq] at hcloses
  obtain ⟨⟨-, hle⟩, -⟩ := hcloses
  have hrow :=
    List.eq_replicate_of_mem fun c (hc : c ∈ (line.dropWhile (· == ' ')).takeWhile (· == marker)) =>
    eq_of_beq (List.all_eq_true.mp List.all_takeWhile c hc)
  have hpart : (line.dropWhile (· == ' ')).takeWhile (· == marker) <:+: value :=
    (List.takeWhile_prefix _).isInfix.trans ((List.dropWhile_suffix _).isInfix.trans hline)
  rw [hrow] at hpart
  have := le_longestRun_of_infix hpart
  omega

/-- A fence closes one of its own length. -/
theorem closesFence_replicate (hmarker : marker ≠ ' ') :
    closesFence marker n (List.replicate n marker) = true := by
  have hunindented : (List.replicate n marker).dropWhile (· == ' ') = List.replicate n marker := by
    cases n with
    | zero => rfl
    | succ n => simp [List.replicate_succ, hmarker]
  have hindent : (List.replicate n marker).takeWhile (· == ' ') = [] := by
    cases n with
    | zero => rfl
    | succ n => simp [List.replicate_succ, hmarker]
  simp [closesFence, hunindented, hindent]

end lines

/-! ## The extent -/

section extent

variable {marker : Char} {info value : List Char}

/-- A fence is longer than every run of its character in the value, and has three at least. -/
theorem length_codeFence (marker : Char) (value : List Char) :
    (Layout.codeFence marker value).length = max (longestRun marker value + 1) 3 :=
  List.length_replicate

/-- It is on one line. -/
theorem isLineBreak_of_mem_codeFence (hmarker : isLineBreak marker = false) (value : List Char) :
    ∀ c ∈ Layout.codeFence marker value, isLineBreak c = false := by
  intro c hc
  rw [List.eq_of_mem_replicate hc]
  exact hmarker

/-- The opening run of a block that is read is the one at the start of its first line. -/
theorem fence_of_readFence {text : List Char} {block : FencedBlock}
    (h : readFence marker text = some block) :
    block.fence = ((Lines.ofText text).first.takeWhile (· == marker)).length := by
  unfold readFence at h
  dsimp only at h
  split at h
  · contradiction
  · split at h
    · contradiction
    · rw [← Option.some.inj h]

/-- It is made of one character. -/
theorem beq_of_mem_codeFence : ∀ c ∈ Layout.codeFence marker value, (c == marker) = true := by
  intro c hc
  rw [List.eq_of_mem_replicate hc]
  exact beq_self_eq_true marker

/-- A marker at the start of the info string makes the opening run longer. -/
theorem length_lt_fence_of_readFence (hmarker : isLineBreak marker = false)
    (hinfo : ∀ c ∈ info, isLineBreak c = false) (hvalue : value.getLast? ≠ some '\r')
    (hhead : info.head? = some marker) {block : FencedBlock}
    (h : readFence marker (Layout.fencedText (Layout.codeFence marker value) info value) =
      some block) :
    (Layout.codeFence marker value).length < block.fence := by
  obtain ⟨more, rfl⟩ := List.head?_eq_some_iff.mp hhead
  have hmore : (marker :: more).takeWhile (· == marker) = marker :: more.takeWhile (· == marker) :=
    List.takeWhile_cons_of_pos (beq_self_eq_true marker)
  rw [fence_of_readFence h,
    Lines.ofText_fencedText (isLineBreak_of_mem_codeFence hmarker value) hinfo hvalue]
  dsimp only
  rw [List.takeWhile_append_of_pos beq_of_mem_codeFence, hmore, List.length_append,
    List.length_cons]
  omega

/-- Otherwise the block is read with its info string and its own contents, as none of these is a
closing fence. -/
theorem readFence_fencedText (hmarker : isLineBreak marker = false) (hspace : marker ≠ ' ')
    (hinfo : ∀ c ∈ info, isLineBreak c = false) (hvalue : value.getLast? ≠ some '\r')
    (hhead : info.head? ≠ some marker) :
    readFence marker (Layout.fencedText (Layout.codeFence marker value) info value) =
      some ⟨(Layout.codeFence marker value).length, info, contentLines value,
        Layout.codeFence marker value, []⟩ := by
  have hlength := length_codeFence marker value
  have hstop : info.takeWhile (· == marker) = [] ∧ info.dropWhile (· == marker) = info := by
    cases info with
    | nil => exact ⟨rfl, rfl⟩
    | cons c info =>
        have hc : ¬ (c == marker) = true := by
          rw [beq_iff_eq]
          rintro rfl
          exact hhead rfl
        exact ⟨List.takeWhile_cons_of_neg hc, List.dropWhile_cons_of_neg hc⟩
  have hcontents : ∀ entry ∈ contentLines value,
      (!closesFence marker (Layout.codeFence marker value).length entry.2) = true := by
    intro entry hentry
    have hrun : longestRun marker value < (Layout.codeFence marker value).length := by omega
    rw [closesFence_eq_false (infix_of_mem_contentLines hentry) hrun]
    rfl
  have hcloses :
      closesFence marker (Layout.codeFence marker value).length (Layout.codeFence marker value) =
        true := by
    rw [length_codeFence]
    exact closesFence_replicate hspace
  unfold readFence
  rw [Lines.ofText_fencedText (isLineBreak_of_mem_codeFence hmarker value) hinfo hvalue]
  dsimp only
  rw [List.takeWhile_append_of_pos beq_of_mem_codeFence,
    List.dropWhile_append_of_pos beq_of_mem_codeFence, hstop.1,
    hstop.2, List.append_nil, if_neg (by omega), List.dropWhile_append_of_pos hcontents,
    List.takeWhile_append_of_pos hcontents]
  simp [hcloses]

/-- **The extent of a block.** It is read with its info string and its own contents unless the info
string begins with the fence character. -/
theorem readFence_fencedText_iff (hmarker : isLineBreak marker = false) (hspace : marker ≠ ' ')
    (hinfo : ∀ c ∈ info, isLineBreak c = false) (hvalue : value.getLast? ≠ some '\r') :
    readFence marker (Layout.fencedText (Layout.codeFence marker value) info value) =
        some ⟨(Layout.codeFence marker value).length, info, contentLines value,
          Layout.codeFence marker value, []⟩ ↔
      info.head? ≠ some marker := by
  constructor
  · intro hread hhead
    exact Nat.lt_irrefl _ (length_lt_fence_of_readFence hmarker hinfo hvalue hhead hread)
  · exact readFence_fencedText hmarker hspace hinfo hvalue

end extent

section written

variable {writer : Writer} {block : CodeBlock} {state : State} {marker : Char}

/-- The fence character is a backtick or a tilde. -/
theorem Style.fenceMarker_mem {style : Style} (h : style.fenceMarker = .ok marker) :
    marker = '\x60' ∨ marker = '~' := by
  have := mem_of_accepted h
  simpa using this

/-- No rule is about a tilde but at the start of a line, so one is left alone behind another. -/
theorem not_escapedAt_tilde {stack : List Construct} {input : List Char} {around : Surroundings}
    (hinput : input.head? = some '~') (hbefore : around.before.getLast? = some '~') :
    ¬ EscapedAt Rule.defaults stack input around 0 := by
  have hrules : ∀ rule ∈ Rule.defaults, rule.character = '~' → rule.atBreak = true := by decide
  obtain ⟨front, hfront⟩ := List.getLast?_eq_some_iff.mp hbefore
  rintro ⟨hflagged, -⟩
  rw [List.head?_eq_getElem?] at hinput
  obtain ⟨rule, hmem, hflags, hcharacter⟩ :=
    exists_rule_of_flaggedAt (getElem?_enclose around hinput) hflagged
  have htake : (around.enclose input).take (around.before.length + 0) = front ++ ['~'] := by
    rw [Surroundings.enclose, List.append_assoc, ← hfront]
    exact List.take_left
  exact not_mem_positions_of_take hmem (hrules rule hmem hcharacter) htake (by decide)
    (fun d hd => absurd hd List.not_mem_nil) hflags.2

/-- **Which fenced code is read back with its extent.** Whatever the language, the attributes and
the value are, there is no line ending in the info string and no backtick behind a fence of
backticks. The block is read with its info string and its own lines, up to the closing fence at its
end, unless the info string begins with the fence character; with Markdown's own rules that is so
exactly if the fence is one of tildes and the language begins with one. -/
theorem Writer.LaysOut.readFence_eq_some_iff (hwriter : writer.LaysOut .code)
    (hrules : ∀ rule ∈ Rule.defaults, rule ∈ writer.rules)
    (hmarker : state.style.fenceMarker = .ok marker)
    (hfenced : block.isIndented state.style = false)
    (hvalue : block.value.toList.getLast? ≠ some '\r')
    (parent : Option Node) (site : Site) :
    ∃ info text, writer.render (.leaf (.code block)) parent site state = (.ok text, state) ∧
      Layout.codeFence marker block.value.toList ++ info ++ ['\n'] <+: text ∧
      (∀ c ∈ info, isLineBreak c = false) ∧ (marker = '\x60' → '\x60' ∉ info) ∧
      (readFence marker text =
          some ⟨(Layout.codeFence marker block.value.toList).length, info,
            contentLines block.value.toList, Layout.codeFence marker block.value.toList, []⟩ ↔
        info.head? ≠ some marker) ∧
      (info.head? = some marker →
        marker = '~' ∧ ∃ lang ∈ block.lang, lang.toList.head? = some '~') ∧
      (writer.rules = Rule.defaults → marker = '~' →
        (∃ lang ∈ block.lang, lang.toList.head? = some '~') → info.head? = some marker) := by
  have hkinds : isLineBreak marker = false ∧ marker ≠ ' ' ∧ marker ≠ '\\' ∧ marker ≠ '&' := by
    rcases Style.fenceMarker_mem hmarker with rfl | rfl <;> decide
  obtain ⟨hbreak, hspace, hbackslash, hampersand⟩ := hkinds
  obtain ⟨info, hinfo⟩ :
      ∃ info, info = Layout.infoString writer.rules (.codeFenced :: state.constructs) marker
    (Layout.codeFence marker block.value.toList) block := ⟨_, rfl⟩
  have hlines : ∀ c ∈ info, isLineBreak c = false := by
    intro c hc
    rw [← Bool.not_eq_true]
    intro hcBreak
    rw [hinfo] at hc
    exact Layout.not_mem_infoString hrules (.inl hcBreak) hc
  have hticks : marker = '\x60' → '\x60' ∉ info := by
    intro htick
    rw [hinfo]
    exact Layout.not_mem_infoString hrules (.inr ⟨rfl, htick⟩)
  have hhead :=
    @Layout.head?_infoString_eq_some_iff writer.rules (.codeFenced :: state.constructs) marker
    (Layout.codeFence marker block.value.toList) block marker hbackslash hampersand
  rw [← hinfo] at hhead
  refine ⟨info, _, ?_, ?_, hlines, hticks, readFence_fencedText_iff hbreak hspace hlines hvalue, ?_,
    ?_⟩
  · rw [hwriter.render_eq_layout rfl, hinfo]
    exact Layout.code_run hmarker hfenced
  · exact (List.prefix_append _ _).trans (List.prefix_append _ _)
  · intro h
    obtain ⟨lang, hlang, hlangHead, -⟩ := hhead.mp h
    rcases Style.fenceMarker_mem hmarker with rfl | rfl
    · exact absurd (List.mem_of_head? h) (hticks rfl)
    · exact ⟨rfl, lang, hlang, hlangHead⟩
  · rintro hdefaults rfl ⟨lang, hlang, hlangHead⟩
    refine hhead.mpr ⟨lang, hlang, hlangHead, ?_⟩
    rw [hdefaults]
    refine not_escapedAt_tilde hlangHead ?_
    simp [Layout.codeFence, List.getLast?_replicate]

end written

/-- Code with a fence of its own in it, and a backtick in its language. -/
def nestedFences : CodeBlock where
  lang := some "a\x60b"
  attributes := some "c"
  value := "\x60\x60\x60\n~~~"

/-- Its fence has one more backtick than the one in it. -/
theorem readFence_nestedFences :
    Writer.standard.LaysOut .code ∧ nestedFences.isIndented {} = false ∧
      ∃ info text,
        Writer.standard.render (.leaf (.code nestedFences)) none (Writer.blockSite {}) {} =
          (.ok text, {}) ∧
        readFence '\x60' text =
          some ⟨4, info, [(.lf, "\x60\x60\x60".toList), (.lf, "~~~".toList)],
            "\x60\x60\x60\x60".toList, []⟩ := by
  have hwriter : Writer.standard.LaysOut .code := rfl
  have hfenced : nestedFences.isIndented {} = false := by decide
  have hvalue : nestedFences.value.toList.getLast? ≠ some '\r' := by decide
  obtain ⟨info, text, hrender, -, -, hticks, hread, -, -⟩ :=
    @Writer.LaysOut.readFence_eq_some_iff Writer.standard nestedFences {} '\x60' hwriter
      (fun _ h => h) rfl hfenced hvalue
      none (Writer.blockSite {})
  exact ⟨hwriter, hfenced, info, text, hrender, hread.mpr fun h => hticks rfl (List.mem_of_head? h)⟩

/-- A language that begins with a tilde makes an opening fence of tildes longer than the closing
one, which then does not close the block. -/
theorem readFence_toMarkdown_tilde :
    toMarkdown (.node { style := { fence := some '~' } } [])
      (.leaf (.code { lang := some "~a", value := "x" })) =
        .ok "~~~~a\nx\n~~~\n" ∧
      readFence '~' "~~~~a\nx\n~~~\n".toList = none := by
  decide +kernel

end MarkdownWriter
