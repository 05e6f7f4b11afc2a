import MarkdownWriter.Document.Event
import MarkdownWriter.Proofs.Code.Fence
import MarkdownWriter.Proofs.Escape.Ampersands
import Mathlib.Data.List.TakeWhile

/-!
# Info strings read back

A parser reports an info string with its escapes and references resolved, and the builder of trees
cuts what is reported at its first space or tab (`splitInfo`). So it matters what is resolved before
the cut is made.

* **What is cut** (`splitInfo_eq_lang_iff`, `splitInfo_eq_pair_iff`): of two texts no longer than a
  language and its attributes, and with a space between them, just these are made again only if the
  texts are these and there is no space or tab in the language.
* **What comes back** (`Writer.LaysOut.splitInfo_decodeWith_iff`): a language that is written behind
  a fence comes back with its attributes exactly if there is no space or tab in it, and no character
  reference in either of them unless the block is inside inline content. A space in a language is
  written as a reference, but that is resolved before the cut; an ampersand is not escaped at all.
-/

namespace MarkdownWriter

open Text Layout

/-! ## Trimming -/

namespace Text

variable {text : List Char} {c : Char}

/-- Trimming takes characters away and changes none. -/
theorem trim_sublist (text : List Char) : (trim text).Sublist text := by
  have hend := (List.dropWhile_sublist isBlank (l := (text.dropWhile isBlank).reverse)).reverse
  rw [List.reverse_reverse] at hend
  exact hend.trans (List.dropWhile_sublist isBlank)

theorem trim_cons_of_isBlank (hc : isBlank c = true) (text : List Char) :
    trim (c :: text) = trim text := by
  unfold trim
  rw [List.dropWhile_cons_of_pos hc]

theorem dropWhile_isBlank_eq_self_iff :
    text.dropWhile isBlank = text ↔ ∀ c, text.head? = some c → isBlank c = false := by
  cases text with
  | nil => simp
  | cons c text =>
      by_cases hc : isBlank c = true
      · have hlength := (List.dropWhile_sublist isBlank (l := text)).length_le
        rw [List.dropWhile_cons_of_pos hc]
        simp only [List.head?_cons, Option.some.injEq, forall_eq', hc, Bool.true_eq_false,
          iff_false]
        intro heq
        rw [heq, List.length_cons] at hlength
        omega
      · rw [List.dropWhile_cons_of_neg hc]
        simpa using hc

/-- A text is trimmed if there are no blanks at its ends. -/
theorem trim_eq_self_iff :
    trim text = text ↔ (∀ c, text.head? = some c → isBlank c = false) ∧
      ∀ c, text.getLast? = some c → isBlank c = false := by
  have hlast : text.reverse.dropWhile isBlank = text.reverse ↔ ∀ c, text.getLast? = some c →
      isBlank c = false := by
    rw [dropWhile_isBlank_eq_self_iff, List.head?_reverse]
  rw [← dropWhile_isBlank_eq_self_iff, ← hlast]
  constructor
  · intro h
    have hfront : text.dropWhile isBlank = text := by
      have hback :=
        (List.dropWhile_sublist isBlank (l := (text.dropWhile isBlank).reverse)).length_le
      have hlength := congrArg List.length h
      simp only [trim, List.length_reverse] at hback hlength
      exact (List.dropWhile_suffix isBlank).eq_of_length_le (by omega)
    unfold trim at h
    rw [hfront] at h
    exact ⟨hfront, by rw [← List.reverse_inj, List.reverse_reverse]; exact h⟩
  · rintro ⟨hfront, hback⟩
    unfold trim
    rw [hfront, hback, List.reverse_reverse]

end Text

theorem isBlank_of_isSpacing {c : Char} (h : isSpacing c = true) : isBlank c = true := by
  rcases isSpacing_iff.mp h with rfl | rfl <;> decide

/-! ## Cutting -/

section cutting

variable {lang : String} {attributes : Option String} {front back : List Char}

/-- What an info string is cut into. -/
theorem splitInfo_eq_some_iff {text : List Char} :
    splitInfo (String.ofList text) = (some lang, attributes) ↔
      trim text ≠ [] ∧ (trim text).takeWhile (!isSpacing ·) = lang.toList ∧
        nonEmpty (some (String.ofList (trim ((trim text).dropWhile (!isSpacing ·))))) =
          attributes := by
  have hlang : ∀ word, String.ofList word = lang ↔ word = lang.toList := by
    intro word
    constructor
    · rintro rfl
      rw [String.toList_ofList]
    · rintro rfl
      rw [String.ofList_toList]
  unfold splitInfo
  simp only [String.toList_ofList, List.isEmpty_iff, ne_eq]
  split
  · next hnil => simp [hnil]
  · next hne =>
      rw [Prod.mk.injEq, Option.some_inj, hlang, and_iff_right hne]
      rfl

/-- There are no spaces and tabs in a first word. -/
theorem isSpacing_of_takeWhile_eq {text word : List Char}
    (h : text.takeWhile (!isSpacing ·) = word) : ∀ c ∈ word, isSpacing c = false := by
  intro c hc
  rw [← h] at hc
  simpa using List.all_eq_true.mp List.all_takeWhile c hc

/-- A word without spaces and tabs is read to its end. -/
theorem not_isSpacing_of_forall {word : List Char} (h : ∀ c ∈ word, isSpacing c = false) :
    ∀ c ∈ word, (!isSpacing c) = true := by
  intro c hc
  rw [h c hc]
  rfl

/-- A text no longer than a language is cut into the language alone only if it is the language. -/
theorem splitInfo_eq_lang_iff (hlang : lang ≠ "") (htrim : trim lang.toList = lang.toList)
    (hlength : front.length ≤ lang.toList.length) :
    splitInfo (String.ofList front) = (some lang, none) ↔
      (∀ c ∈ lang.toList, isSpacing c = false) ∧ front = lang.toList := by
  rw [splitInfo_eq_some_iff]
  constructor
  · rintro ⟨-, hword, -⟩
    have hsublist : lang.toList.Sublist front := by
      rw [← hword]
      exact (List.takeWhile_sublist _).trans (trim_sublist front)
    exact ⟨isSpacing_of_takeWhile_eq hword, (hsublist.eq_of_length_le hlength).symm⟩
  · rintro ⟨hspacing, rfl⟩
    have hword := not_isSpacing_of_forall hspacing
    rw [htrim, List.takeWhile_eq_self_iff.mpr hword, List.dropWhile_eq_nil_iff.mpr hword]
    exact ⟨by simpa using hlang, rfl, rfl⟩

section pairs

variable {attributes : String}

/-- What is behind the first word begins with a space or tab, which is trimmed off. -/
theorem exists_trim_eq_of_dropWhile {text : List Char} (hattributes : attributes ≠ "")
    (h : nonEmpty (some (String.ofList (trim (text.dropWhile (!isSpacing ·))))) = some attributes) :
    ∃ c rest, text.dropWhile (!isSpacing ·) = c :: rest ∧ trim rest = attributes.toList := by
  obtain ⟨hrest, -⟩ := nonEmpty_eq_some_iff.mp h
  cases hgap : text.dropWhile (!isSpacing ·) with
  | nil =>
      rw [hgap] at hrest
      exact absurd (Option.some.inj hrest).symm hattributes
  | cons c rest =>
      have hc : isSpacing c = true := by
        have hhead := List.head?_dropWhile_not (!isSpacing ·) text
        rw [hgap] at hhead
        simpa using hhead
      rw [hgap, trim_cons_of_isBlank (isBlank_of_isSpacing hc), Option.some_inj] at hrest
      exact ⟨c, rest, rfl, by rw [← hrest, String.toList_ofList]⟩

/-- If two texts no longer than a language and its attributes are cut into these, nothing of them is
lost, as there is nothing to lose. -/
theorem eq_of_splitInfo_eq_pair (hattributes : attributes ≠ "")
    (hlength : front.length ≤ lang.toList.length)
    (hlength' : back.length ≤ attributes.toList.length)
    (h : splitInfo (String.ofList (front ++ ' ' :: back)) = (some lang, some attributes)) :
    (∀ c ∈ lang.toList, isSpacing c = false) ∧ front = lang.toList ∧ back = attributes.toList := by
  obtain ⟨-, hword, hbehind⟩ := splitInfo_eq_some_iff.mp h
  obtain ⟨c, rest, hgap, hrest⟩ := exists_trim_eq_of_dropWhile hattributes hbehind
  have hsublist := trim_sublist rest
  rw [hrest] at hsublist
  have hsplit : lang.toList ++ c :: rest = trim (front ++ ' ' :: back) := by
    rw [← hword, ← hgap, List.takeWhile_append_dropWhile]
  have hshort := hsublist.length_le
  have hwhole : lang.toList ++ c :: rest = front ++ ' ' :: back := by
    rw [hsplit]
    refine (trim_sublist _).eq_of_length_le ?_
    rw [← hsplit]
    simp only [List.length_append, List.length_cons]
    omega
  have htotal := congrArg List.length hwhole
  simp only [List.length_append, List.length_cons] at htotal
  obtain ⟨hfront, hcons⟩ := List.append_inj hwhole (by omega)
  obtain ⟨-, rfl⟩ := List.cons.inj hcons
  exact ⟨isSpacing_of_takeWhile_eq hword, hfront.symm, (hsublist.eq_of_length_le hlength').symm⟩

/-- A language without spaces and tabs and its attributes are cut apart again. -/
theorem splitInfo_append_space (hlang : lang ≠ "") (htrim : trim lang.toList = lang.toList)
    (hattributes : attributes ≠ "") (htrim' : trim attributes.toList = attributes.toList)
    (hspacing : ∀ c ∈ lang.toList, isSpacing c = false) :
    splitInfo (String.ofList (lang.toList ++ ' ' :: attributes.toList)) =
      (some lang, some attributes) := by
  have hword := not_isSpacing_of_forall hspacing
  have hne : lang.toList ≠ [] := by simpa using hlang
  have hne' : attributes.toList ≠ [] := by simpa using hattributes
  have hwhole :
      trim (lang.toList ++ ' ' :: attributes.toList) = lang.toList ++ ' ' :: attributes.toList := by
    rw [trim_eq_self_iff] at htrim htrim' ⊢
    rw [List.head?_append_of_ne_nil _ hne, List.append_cons, List.getLast?_append_of_ne_nil _ hne']
    exact ⟨htrim.1, htrim'.2⟩
  have hgap : (' ' :: attributes.toList).dropWhile (!isSpacing ·) = ' ' :: attributes.toList := rfl
  have hstop : (' ' :: attributes.toList).takeWhile (!isSpacing ·) = [] := rfl
  apply splitInfo_eq_some_iff.mpr
  rw [hwhole, List.takeWhile_append_of_pos hword, List.dropWhile_append_of_pos hword, hgap, hstop,
    List.append_nil, trim_cons_of_isBlank (by decide), htrim', String.ofList_toList]
  exact ⟨by simp, rfl, nonEmpty_eq_some_iff.mpr ⟨rfl, hattributes⟩⟩

/-- Two texts no longer than a language and its attributes, with a space between them, are cut into
these only if they are these. -/
theorem splitInfo_eq_pair_iff (hlang : lang ≠ "") (htrim : trim lang.toList = lang.toList)
    (hattributes : attributes ≠ "") (htrim' : trim attributes.toList = attributes.toList)
    (hlength : front.length ≤ lang.toList.length)
    (hlength' : back.length ≤ attributes.toList.length) :
    splitInfo (String.ofList (front ++ ' ' :: back)) = (some lang, some attributes) ↔
      (∀ c ∈ lang.toList, isSpacing c = false) ∧ front = lang.toList ∧
        back = attributes.toList := by
  constructor
  · exact eq_of_splitInfo_eq_pair hattributes hlength hlength'
  · rintro ⟨hspacing, rfl, rfl⟩
    exact splitInfo_append_space hlang htrim hattributes htrim' hspacing

end pairs

end cutting

/-! ## Info strings -/

section info

variable {writer : Writer} {block : CodeBlock} {lang : String} {state : State} {marker : Char}
  {references : References}
  {stack : List Construct} {fence : List Char}

/-- Whether an info string is inside inline content depends on the constructs around the block. -/
theorem phrasing_mem_infoStack :
    (.phrasing ∈ (infoConstructs marker).1 :: .codeFenced :: stack ↔ .phrasing ∈ stack) ∧
      (.phrasing ∈ (infoConstructs marker).2 :: .codeFenced :: stack ↔ .phrasing ∈ stack) := by
  unfold Layout.infoConstructs
  split <;> simp

/-- An info string is cut into what it was made of if nothing in it makes another cut and no
reference in it is resolved. -/
theorem splitInfo_decodeWith_infoString_iff (hreferences : references.IsStandard)
    (hshorten : references.Shorten) (hlang : block.lang = some lang) (hne : lang ≠ "")
    (htrim : trim lang.toList = lang.toList)
    (hattributes : ∀ attributes ∈ block.attributes, attributes ≠ "" ∧
      trim attributes.toList = attributes.toList) :
    splitInfo (String.ofList (decodeWith references
        (infoString Rule.defaults (.codeFenced :: stack) marker fence block))) =
          (some lang, block.attributes) ↔
      (∀ c ∈ lang.toList, isSpacing c = false) ∧
        (.phrasing ∈ stack ∨ holdsReference references lang.toList = false ∧
          ∀ attributes ∈ block.attributes,
            holdsReference references attributes.toList = false) := by
  obtain ⟨hphrasing, hphrasing'⟩ := @phrasing_mem_infoStack marker stack
  unfold infoString
  rw [nonEmpty_eq_some_iff.mpr ⟨hlang, hne⟩]
  cases hblock : block.attributes with
  | none =>
      have hnone : nonEmpty none = none := rfl
      simp only [hnone]
      rw [splitInfo_eq_lang_iff hne htrim (length_decodeWith_escapeLiteral_le hreferences hshorten),
        decodeWith_escapeLiteral_eq_self_iff hreferences hshorten, hphrasing]
      simp
  | some attributes =>
      obtain ⟨hne', htrim'⟩ := hattributes attributes hblock
      simp only [nonEmpty_eq_some_iff.mpr ⟨rfl, hne'⟩]
      rw [decodeWith_append_space, splitInfo_eq_pair_iff hne htrim hne' htrim'
        (length_decodeWith_escapeLiteral_le hreferences hshorten)
        (length_decodeWith_escapeLiteral_le hreferences hshorten),
        decodeWith_escapeLiteral_eq_self_iff hreferences hshorten,
        decodeWith_escapeLiteral_eq_self_iff hreferences hshorten, hphrasing, hphrasing',
          ← or_and_left]
      simp

/-- **Which languages and attributes come back.** What stands on the line of the opening fence is
decoded and cut. The language and the attributes of the block are found in it exactly if there is no
space or tab in the language, and no character reference in either unless the block is inside inline
content. -/
theorem Writer.LaysOut.splitInfo_decodeWith_iff (hwriter : writer.LaysOut .code)
    (hrules : writer.rules = Rule.defaults) (hreferences : references.IsStandard)
    (hshorten : references.Shorten) (hmarker : state.style.fenceMarker = .ok marker)
    (hlang : block.lang = some lang) (hne : lang ≠ "") (htrim : trim lang.toList = lang.toList)
    (hattributes : ∀ attributes ∈ block.attributes, attributes ≠ "" ∧
      trim attributes.toList = attributes.toList) (parent : Option Node) (site : Site) :
    ∃ info behind, writer.render (.leaf (.code block)) parent site state =
        (.ok (Layout.codeFence marker block.value.toList ++ info ++ '\n' :: behind), state) ∧
      (∀ c ∈ info, isLineBreak c = false) ∧
      (splitInfo (String.ofList (decodeWith references info)) = (some lang, block.attributes) ↔
        (∀ c ∈ lang.toList, isSpacing c = false) ∧
          (.phrasing ∈ state.constructs ∨ holdsReference references lang.toList = false ∧
            ∀ attributes ∈ block.attributes,
              holdsReference references attributes.toList = false)) := by
  have hfenced : block.isIndented state.style = false := by
    simp [CodeBlock.isIndented, nonEmpty_eq_some_iff.mpr ⟨hlang, hne⟩]
  obtain ⟨info, hinfo⟩ :
      ∃ info, info = Layout.infoString Rule.defaults (.codeFenced :: state.constructs) marker
    (Layout.codeFence marker block.value.toList) block := ⟨_, rfl⟩
  refine ⟨info, (if block.value.toList.isEmpty then [] else block.value.toList ++ ['\n']) ++
    Layout.codeFence marker block.value.toList, ?_, ?_, ?_⟩
  · rw [hwriter.render_eq_layout rfl, hinfo, ← hrules]
    refine (Layout.code_run hmarker hfenced).trans ?_
    simp [Layout.fencedText]
  · intro c hc
    rw [← Bool.not_eq_true]
    intro hbreak
    rw [hinfo] at hc
    exact Layout.not_mem_infoString (fun _ h => h) (.inl hbreak) hc
  · rw [hinfo]
    exact splitInfo_decodeWith_infoString_iff hreferences hshorten hlang hne htrim hattributes

end info

/-- Code with attributes of two words, and with an ampersand that begins no reference. -/
def annotatedCode : CodeBlock where
  lang := some "c&"
  attributes := some "a b"
  value := "x"

/-- Its language and attributes come back. -/
theorem splitInfo_annotatedCode :
    Writer.standard.LaysOut .code ∧
      ∃ info behind,
        Writer.standard.render (.leaf (.code annotatedCode)) none (Writer.blockSite {}) {} =
          (.ok (codeFence '\x60' ['x'] ++ info ++ '\n' :: behind), {}) ∧
        splitInfo (String.ofList (decode info)) = (some "c&", some "a b") := by
  have hwriter : Writer.standard.LaysOut .code := rfl
  have hattributes : ∀ attributes ∈ annotatedCode.attributes,
      attributes ≠ "" ∧ trim attributes.toList = attributes.toList := by decide
  obtain ⟨info, behind, hrender, -, hinfo⟩ :=
    @Writer.LaysOut.splitInfo_decodeWith_iff Writer.standard annotatedCode "c&"
      {} '\x60' htmlReferences hwriter rfl
      isStandard_htmlReferences shorten_htmlReferences rfl rfl (by decide)
        (by decide) hattributes none (Writer.blockSite {})
  have hspacing : ∀ c ∈ "c&".toList, isSpacing c = false := by simp [isSpacing]
  exact ⟨hwriter, info, behind, hrender, hinfo.mpr ⟨hspacing, .inr ⟨by decide, by decide⟩⟩⟩

/-- **Languages that do not come back.** A reference in a language is left as it is and resolved by
the parser; a space is written as a reference, which the parser resolves before the cut is made. -/
theorem splitInfo_toMarkdown_lang :
    (toMarkdown (.node {} []) (.leaf (.code { lang := some "a&amp;b", value := "x" })) =
        .ok "\x60\x60\x60a&amp;b\nx\n\x60\x60\x60\n" ∧
      splitInfo (String.ofList (decode "a&amp;b".toList)) = (some "a&b", none)) ∧
      toMarkdown (.node {} []) (.leaf (.code { lang := some "a b", value := "x" })) =
          .ok "\x60\x60\x60a&#x20;b\nx\n\x60\x60\x60\n" ∧
        splitInfo (String.ofList (decode "a&#x20;b".toList)) = (some "a", some "b") := by
  have hampersand : decode "a&amp;b".toList = "a&b".toList := by
    have hread : readReference htmlReferences "amp;b".toList = some (['&'], ['b']) := by
      decide +kernel
    have hrest : decodeWith htmlReferences ('&' :: "amp;b".toList) = "&b".toList := by
      rw [decodeWith_reference hread, decodeWith_plain (by decide) (by decide), decodeWith_nil]
      rfl
    exact (decodeWith_plain (by decide) (by decide)).trans (congrArg _ hrest)
  have hspace : decode "a&#x20;b".toList = "a b".toList := by
    have hread : readReference htmlReferences "#x20;b".toList = some ([' '], ['b']) := by
      decide +kernel
    have hrest : decodeWith htmlReferences ('&' :: "#x20;b".toList) = " b".toList := by
      rw [decodeWith_reference hread, decodeWith_plain (by decide) (by decide), decodeWith_nil]
      rfl
    exact (decodeWith_plain (by decide) (by decide)).trans (congrArg _ hrest)
  rw [hampersand, hspace]
  decide +kernel

end MarkdownWriter
