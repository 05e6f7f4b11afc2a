import MarkdownWriter.Proofs.Escape.Ampersands
import MarkdownWriter.Proofs.Render.References

/-!
# Definitions read back

A definition is written as its label, its destination and, if there is one, its title
(`Layout.definition_run`). In a nest of blocks nothing is inline content, so ampersands are not
escaped.

* **Titles** come back exactly if there is no character reference in them.
* **Destinations** come back under the same condition, with one exception. A bare destination that
  begins with `<` and ends with `>` is taken for one in angle brackets, since no rule is about these
  two in bare destinations; it loses them (`decodeWith_unenclosed_bare_ne`).

Both are stated in `Writer.render_isDefinitionOf`.
-/

namespace MarkdownWriter

open Text

/-! ## Writing -/

/-- What a definition is made of, as it is written. -/
structure DefinitionParts where
  label : List Char
  /-- The destination, with its angle brackets if it has any. -/
  destination : List Char
  /-- What is between the quotes of the title, if there is one. -/
  caption : Option (List Char)
  deriving DecidableEq, Repr

/-- The whole definition. -/
def DefinitionParts.text (quote : Char) (parts : DefinitionParts) : List Char :=
  '[' :: parts.label ++ [']', ':', ' '] ++ parts.destination ++
    parts.caption.elim [] fun caption => [' ', quote] ++ caption ++ [quote]

namespace Layout

open Render

variable {rules : List Rule} {state : State} {stack : List Construct} {quote : Char}

/-- A destination as it is written behind `written`. -/
def destinationText (rules : List Rule) (stack : List Construct) (enclosed : Bool)
    (after url written : List Char) : List Char :=
  if enclosed then
    '<' :: escapeLiteral rules (.destinationLiteral :: stack) url
      { before := written ++ ['<'], after := ['>'] } ++ ['>']
  else escapeLiteral rules (.destinationRaw :: stack) url { before := written, after := after }

/-- The destination is written behind what is there, escaped for the constructs it opens. -/
theorem destination_run (enclosed : Bool) (after url written : List Char) :
    destination rules enclosed after url written state =
      (.ok (written ++ destinationText rules state.constructs enclosed after url written),
        state) := by
  unfold destinationText
  cases enclosed with
  | false => rfl
  | true =>
      have hrun : destination rules true after url written state =
          (.ok (written ++ ['<'] ++ escapeLiteral rules (.destinationLiteral :: state.constructs)
            url
            { before := written ++ ['<'], after := ['>'] } ++ ['>']), state) := rfl
      rw [hrun]
      simp

/-- What is written between the quotes of a title behind `written`. -/
def titleText (rules : List Rule) (stack : List Construct) (quote : Char)
    (title written : List Char) : List Char :=
  escapeLiteral rules (.title quote :: stack) title
    { before := written ++ [' ', quote], after := [quote] }

/-- A title is written in quotes, escaped for what stands in front of it. -/
theorem title_run (caption : Option String) (written : List Char) :
    title rules quote caption written state =
      (.ok (written ++ caption.elim [] fun caption =>
        [' ', quote] ++ titleText rules state.constructs quote caption.toList written ++ [quote]),
          state) := by
  cases caption with
  | none => simp [title, pure_run]
  | some caption =>
      have hrun : title rules quote (some caption) written state =
          (.ok (written ++ [' ', quote] ++ titleText rules state.constructs quote caption.toList
            written ++ [quote]), state) := rfl
      rw [hrun]
      simp

/-- The parts of a definition as they are written while the constructs of `stack` are open. -/
def definitionParts (rules : List Rule) (stack : List Construct) (quote : Char) (label : List Char)
    (target : Resource) : DefinitionParts :=
  let label := escapeLiteral rules (.label :: stack) label { before := ['['], after := [']'] }
  let url := target.url.toList
  let caption := nonEmpty target.title
  let written := '[' :: label ++ [']', ':', ' ']
  let destination := destinationText rules stack (url.isEmpty || needsEnclosing url)
    (if caption.isSome then [' '] else ['\n']) url written
  ⟨label, destination,
    caption.map fun caption => titleText rules stack quote caption.toList (written ++ destination)⟩

/-- **How definitions are written.** -/
theorem definition_run {label : List Char} {target : Resource}
    (hquote : state.style.titleQuote = .ok quote) :
    definition rules label target state =
      (.ok ((definitionParts rules (.definition :: state.constructs) quote label target).text
        quote), state) := by
  unfold definition
  rw [bind_run_ok (ofStyle_eq_ok.mpr ⟨hquote, rfl⟩)]
  apply entering_run
  rw [bind_run_ok (entering_literal_run _ _ _)]
  dsimp only
  rw [bind_run_ok (destination_run _ _ _ _), title_run]
  simp only [DefinitionParts.text, definitionParts, Option.elim_map]
  cases nonEmpty target.title <;> rfl

end Layout

/-! ## Reading -/

/-- A destination as it is read, without its angle brackets. -/
def unenclosed (text : List Char) : List Char :=
  if text.head? = some '<' ∧ text.getLast? = some '>' then text.tail.dropLast else text

/-- Angle brackets are taken off again. -/
theorem unenclosed_enclosed (text : List Char) : unenclosed ('<' :: text ++ ['>']) = text := by
  unfold unenclosed
  rw [if_pos ⟨rfl, List.getLast?_concat⟩]
  simp

/-- Whether a url is written bare and looks as if it were in angle brackets. -/
def looksEnclosed (url : List Char) : Bool :=
  !needsEnclosing url && url.head? == some '<' && url.getLast? == some '>'

/-- Nothing but quotes, lists and items is open in a nest. -/
theorem IsNest.not_mem {nest : List Construct} (h : IsNest nest) {construct : Construct}
    (hconstruct : construct ∉ [Construct.blockquote, .list, .listItem]) : construct ∉ nest :=
  fun hmem => hconstruct (h construct hmem)

section bare

variable {nest : List Construct} {references : References} {url label after : List Char}

/-- There are no line breaks in a url that is written bare. -/
theorem isLineBreak_of_needsEnclosing (h : needsEnclosing url = false) :
    ∀ c ∈ url, isLineBreak c = false := by
  intro c hc
  have hvisible := List.any_eq_false.mp h c hc
  rw [← Bool.not_eq_true]
  intro hbreak
  refine hvisible ?_
  rcases isLineBreak_iff.mp hbreak with rfl | rfl <;> rfl

/-- The site of a bare destination. -/
def bareSite (label after : List Char) : Surroundings where
  before := '[' :: label ++ [']', ':', ' ']
  after := after

/-- Angle brackets are left alone in a bare destination that begins behind a visible character that
is no digit: the rules about them are for other constructs, or for the start of a line. -/
theorem escaped_of_bracket {stack : List Construct} {around : Surroundings} {front tail : List Char}
    {d : Char} (hraw : .destinationRaw ∈ stack) (hliteral : .destinationLiteral ∉ stack)
    (hbefore : around.before = front ++ d :: tail)
    (hd : isLineBreak d = false ∧ isSpacing d = false ∧ isDigit d = false)
    (htail : ∀ c ∈ tail, isLineBreak c = false) (hurl : needsEnclosing url = false) :
    ∀ letter ∈ lettersBetween Rule.defaults stack url around,
      letter.char = '<' ∨ letter.char = '>' → letter.escaped = false := by
  have hrules : ∀ rule ∈ Rule.defaults, rule.character = '<' ∨ rule.character = '>' →
      rule.atBreak = true ∨ .destinationRaw ∈ rule.outside ∨
      rule.inside = [.destinationLiteral] := by
    decide
  intro letter hletter hbracket
  rw [← Bool.not_eq_true]
  intro hescaped
  obtain ⟨i, hi⟩ := List.mem_iff_getElem?.mp hletter
  obtain ⟨hc, hiff⟩ := getElem?_lettersBetween_eq_some.mp hi
  obtain ⟨rule, hmem, hflags, hrule⟩ :=
    exists_rule_of_flaggedAt (getElem?_enclose _ hc) (hiff.mp hescaped).1
  rw [← hrule] at hbracket
  rcases hrules rule hmem hbracket with hbreak | houtside | hinside
  · have htake :
        (around.enclose url).take (around.before.length + i) =
          front ++ d :: (tail ++ url.take i) := by
      have hlt := (List.getElem?_eq_some_iff.mp hc).1
      rw [Surroundings.enclose, List.append_assoc, List.take_length_add_append,
        List.take_append_of_le_length (Nat.le_of_lt hlt), hbefore, List.append_assoc,
        List.cons_append]
    refine not_mem_positions_of_take hmem hbreak htake hd (fun c hc => ?_) hflags.2
    rcases List.mem_append.mp hc with hc | hc
    · exact htail c hc
    · exact isLineBreak_of_needsEnclosing hurl c (List.mem_of_mem_take hc)
  · have happlies := hflags.1
    simp only [Rule.applies, Bool.and_eq_true, Bool.not_eq_true', List.any_eq_false] at happlies
    exact happlies.2 _ hraw (List.contains_iff_mem.mpr houtside)
  · have happlies := hflags.1
    simp [Rule.applies, hinside, hliteral] at happlies

/-- Letters that begin and end with angle brackets left alone. -/
theorem exists_brackets {all : List Letter}
    (hbrackets : ∀ letter ∈ all, letter.char = '<' ∨ letter.char = '>' → letter.escaped = false)
    (hchars : all.map Letter.char = url) (hhead : url.head? = some '<')
    (hlast : url.getLast? = some '>') : ∃ inner, all = .plain '<' :: (inner ++ [.plain '>']) := by
  have hplain : ∀ letter ∈ all, ∀ c, letter.char = c → c = '<' ∨ c = '>' → letter = .plain c := by
    rintro ⟨d, escaped⟩ hmem c rfl hc
    obtain rfl : escaped = false := hbrackets _ hmem hc
    rfl
  subst hchars
  cases all with
  | nil => contradiction
  | cons first others =>
      obtain rfl := hplain first List.mem_cons_self '<' (Option.some.inj hhead) (.inl rfl)
      rcases List.eq_nil_or_concat others with rfl | ⟨inner, last, rfl⟩
      · exact absurd (Option.some.inj hlast) (by decide)
      · rw [List.concat_eq_append] at hlast hplain ⊢
        rw [← List.cons_append, List.map_append, List.map_singleton, List.getLast?_concat] at hlast
        obtain rfl := hplain last (by simp) '>' (Option.some.inj hlast) (.inr rfl)
        exact ⟨inner, rfl⟩

/-- Angle brackets left alone are written as they are. -/
theorem writeLetters_brackets (encode : List Char) (after : Option Char) (inner : List Letter) :
    writeLetters encode after (.plain '<' :: (inner ++ [.plain '>'])) =
      '<' :: writeLetters encode (some '>') inner ++ ['>'] := by
  rw [writeLetters_cons, writeLetters_append]
  rfl

/-- A bare destination that looks as if it were in angle brackets comes back without them, and so
too short. -/
theorem decodeWith_unenclosed_bare_ne (hreferences : references.IsStandard)
    (hshorten : references.Shorten) (hnest : IsNest nest) (h : looksEnclosed url = true) :
    decodeWith references (unenclosed
      (escapeLiteral Rule.defaults (.destinationRaw :: .definition :: nest) url
        (bareSite label after))) ≠ url := by
  simp only [looksEnclosed, Bool.and_eq_true, Bool.not_eq_true', beq_iff_eq] at h
  obtain ⟨⟨hurl, hhead⟩, hlast⟩ := h
  have hliteral : Construct.destinationLiteral ∉ nest := hnest.not_mem (by decide)
  have hphrasing : Construct.phrasing ∉ nest := hnest.not_mem (by decide)
  have hbrackets :=
    @escaped_of_bracket url (.destinationRaw :: .definition :: nest) (bareSite label after)
    ('[' :: label ++ [']']) [' '] ':' List.mem_cons_self (by simp [hliteral]) (by simp [bareSite])
      ⟨rfl, rfl, rfl⟩
    (List.forall_mem_singleton.mpr rfl) hurl
  have hleaves :=
    @leavesReferences_lettersBetween (.destinationRaw :: .definition :: nest) url
      (bareSite label after)
    (by simp [hphrasing])
  have hchars :=
    map_char_lettersBetween Rule.defaults (.destinationRaw :: .definition :: nest)
      (bareSite label after)
    url
  unfold escapeLiteral
  generalize lettersBetween Rule.defaults (.destinationRaw :: .definition :: nest) url
    (bareSite label after) = all
    at hbrackets hleaves hchars ⊢
  obtain ⟨inner, rfl⟩ := exists_brackets hbrackets hchars hhead hlast
  have hwritten :=
    writeLetters_brackets (bareSite label after).encode (bareSite label after).after.head? inner
  have hinner : LeavesReferences (some '>') inner :=
    (hleaves.of_suffix (List.suffix_cons _ _)).of_append
  rw [hwritten, unenclosed_enclosed,
    decodeWith_writeLetters_eq_resolveReferences hreferences _ hinner]
  intro heq
  have hshort := @length_resolveReferences_le references (inner.map Letter.char) hshorten
  rw [heq, ← hchars] at hshort
  simp only [List.length_map, List.length_cons, List.length_append] at hshort
  omega

/-- A bare destination that does not look as if it were in angle brackets is read as a whole. -/
theorem unenclosed_bare {rules : List Rule} {stack : List Construct} {around : Surroundings}
    (hurl : needsEnclosing url = false) (h : looksEnclosed url = false) :
    unenclosed (escapeLiteral rules stack url around) = escapeLiteral rules stack url around := by
  unfold unenclosed
  rw [if_neg]
  rintro ⟨hhead, hlast⟩
  have hfirst := (head?_escapeLiteral_eq_some_iff (by decide) (by decide)).mp hhead
  rw [looksEnclosed, hurl, hfirst.1, getLast?_escapeLiteral (by decide) hlast] at h
  contradiction

end bare

section parts

variable {nest : List Construct} {references : References} {quote : Char}

/-- **Which destinations come back.** -/
theorem decodeWith_destinationText_iff (hreferences : references.IsStandard)
    (hshorten : references.Shorten) (hnest : IsNest nest) (url label after : List Char) :
    decodeWith references (unenclosed (Layout.destinationText Rule.defaults (.definition :: nest)
        (url.isEmpty || needsEnclosing url) after url ('[' :: label ++ [']', ':', ' ']))) = url ↔
      holdsReference references url = false ∧ looksEnclosed url = false := by
  have hphrasing : .phrasing ∉ nest := hnest.not_mem (by decide)
  unfold Layout.destinationText
  cases henclosed : url.isEmpty || needsEnclosing url with
  | true =>
      have hlooks : looksEnclosed url = false := by
        rcases (Bool.or_eq_true _ _).mp henclosed with hempty | hneeds
        · rw [List.isEmpty_iff.mp hempty]
          rfl
        · simp [looksEnclosed, hneeds]
      rw [if_pos rfl, unenclosed_enclosed,
        decodeWith_escapeLiteral_eq_self_iff hreferences hshorten, hlooks]
      simp [hphrasing]
  | false =>
      rw [if_neg Bool.false_ne_true]
      cases hlooks : looksEnclosed url with
      | true =>
          exact iff_of_false (decodeWith_unenclosed_bare_ne hreferences hshorten hnest hlooks)
            (by simp)
      | false =>
          rw [unenclosed_bare (Bool.or_eq_false_iff.mp henclosed).2 hlooks,
            decodeWith_escapeLiteral_eq_self_iff hreferences hshorten]
          simp [hphrasing]

/-- **Which titles come back.** -/
theorem decodeWith_titleText_iff (hreferences : references.IsStandard)
    (hshorten : references.Shorten) (hnest : IsNest nest) (caption written : List Char) :
    decodeWith references (Layout.titleText Rule.defaults (.definition :: nest) quote caption
      written) = caption ↔ holdsReference references caption = false := by
  have hphrasing : .phrasing ∉ nest := hnest.not_mem (by decide)
  have htitle : Construct.phrasing ≠ .title quote := by
    unfold Construct.title
    split <;> decide
  unfold Layout.titleText
  rw [decodeWith_escapeLiteral_eq_self_iff hreferences hshorten]
  simp [hphrasing, htitle]

end parts

/-! ## Definitions -/

/-- A definition is written, and what of it comes back. -/
structure IsDefinitionOf (references : References) (label : List Char) (target : Resource)
    (parts : DefinitionParts) : Prop where
  label : parts.label = label
  destination : decodeWith references (unenclosed parts.destination) = target.url.toList ↔
    holdsReference references target.url.toList = false ∧ looksEnclosed target.url.toList = false
  caption : parts.caption.map (decodeWith references) = (nonEmpty target.title).map String.toList ↔
    ∀ title ∈ nonEmpty target.title, holdsReference references title.toList = false

section definitions

variable {nest : List Construct} {references : References} {quote : Char}

/-- The parts of a definition as they are written are read back as far as they can be. -/
theorem isDefinitionOf_definitionParts (hreferences : references.IsStandard)
    (hshorten : references.Shorten) (hnest : IsNest nest) (label : List Char) (target : Resource) :
    IsDefinitionOf references (escapeLiteral Rule.defaults [.reference] label (labelSite [])) target
      (Layout.definitionParts Rule.defaults (.definition :: nest) quote label target) where
  label := escapeLiteral_label_eq (isLabelStack_definition hnest) isLabelStack_reference [] [] label
  destination := decodeWith_destinationText_iff hreferences hshorten hnest _ _ _
  caption := by
    unfold Layout.definitionParts
    cases nonEmpty target.title with
    | none => simp
    | some title =>
        simp only [Option.map_some, Option.some_inj, Option.mem_def, forall_eq']
        exact decodeWith_titleText_iff hreferences hshorten hnest _ _

variable {writer : Writer} {parent : Option Node} {site : Site} {state : State}
  {association : Association}
  {target : Resource}

/-- The whole text of a definition is its parts. -/
theorem render_definition (hwriter : writer.LaysOut .definition)
    (hquote : state.style.titleQuote = .ok quote) :
    writer.render (.leaf (.definition association target)) parent site state =
      (.ok ((Layout.definitionParts writer.rules (.definition :: state.constructs) quote
        (association.text writer.references) target).text quote), state) := by
  rw [hwriter.render_eq_layout rfl]
  exact Layout.definition_run hquote

/-- A definition is only written with a quote that is accepted. -/
theorem exists_titleQuote_of_render (hwriter : writer.LaysOut .definition) {value : List Char}
    {after : State}
    (h : writer.render (.leaf (.definition association target)) parent site state =
      (.ok value, after)) :
    ∃ quote, state.style.titleQuote = .ok quote := by
  rw [hwriter.render_eq_layout rfl] at h
  obtain ⟨quote, _, hquote, -⟩ := Render.bind_eq_ok.mp h
  exact ⟨quote, (Render.ofStyle_eq_ok.mp hquote).1⟩

/-- **Which definitions come back.** In a nest of blocks every definition is written, with either
quote. Decoded, its title is the one it has exactly if there is no character reference in that, and
its destination is its url exactly if there is none in that and the url is not written bare with the
looks of one in angle brackets. So it is with all definitions in a document of nested blocks. -/
theorem Writer.render_isDefinitionOf (hrules : writer.rules = Rule.defaults)
    (hreferences : references.IsStandard) (hshorten : references.Shorten)
    (association : Association) (target : Resource) :
    (writer.LaysOut .definition → ∀ {parent site state quote}, IsNest state.constructs →
      state.style.titleQuote = .ok quote →
        ∃ parts, parts = Layout.definitionParts Rule.defaults
            (.definition :: state.constructs) quote
            (association.text writer.references) target ∧
          writer.render (.leaf (.definition association target)) parent site state =
            (.ok (parts.text quote), state) ∧
          IsDefinitionOf references (writer.labelText association) target parts) ∧
      (writer.IsBuiltIn → ∀ {document parent site state value after}, IsNest state.constructs →
        (Node.leaf (.definition association target)).Nests document →
        writer.render document parent site state = (.ok value, after) →
        ∃ parent site state quote parts, IsNest state.constructs ∧
          state.style.titleQuote = .ok quote ∧
          parts = Layout.definitionParts Rule.defaults
            (.definition :: state.constructs) quote
            (association.text writer.references) target ∧
          writer.render (.leaf (.definition association target)) parent site state =
            (.ok (parts.text quote), state) ∧
          IsDefinitionOf references (writer.labelText association) target parts) := by
  constructor
  · intro hwriter parent site state quote hnest hquote
    refine ⟨_, rfl, ?_, isDefinitionOf_definitionParts hreferences hshorten hnest _ target⟩
    rw [← hrules]
    exact render_definition hwriter hquote
  · intro hwriter document parent site state value after hstate hnests h
    obtain ⟨parent, site, state, text, after, hnest, hrun⟩ :=
      hwriter.exists_run_of_nests hnests hstate h
    obtain ⟨quote, hquote⟩ := exists_titleQuote_of_render (hwriter.laysOut .definition) hrun
    refine ⟨parent, site, state, quote, _, hnest, hquote, rfl, ?_,
      isDefinitionOf_definitionParts hreferences hshorten hnest _ target⟩
    rw [← hrules]
    exact render_definition (hwriter.laysOut .definition) hquote

end definitions

/-- A definition with a space in its url and quotes and an ampersand in its title. -/
def quotedDefinition : Resource where
  url := "a b"
  title := some "\"c\" & d"

/-- It comes back from an item of a list in a block quote. -/
theorem isDefinitionOf_quotedDefinition :
    IsNest [.listItem, .list, .blockquote] ∧
      ∃ parts : DefinitionParts,
        Writer.standard.render (.leaf (.definition { label := some "x" } quotedDefinition)) none
            (Writer.blockSite {}) { constructs := [.listItem, .list, .blockquote] } =
          (.ok (parts.text '"'), { constructs := [.listItem, .list, .blockquote] }) ∧
        decode (unenclosed parts.destination) = "a b".toList ∧
        parts.caption.map decode = some "\"c\" & d".toList := by
  have hnest : IsNest [.listItem, .list, .blockquote] := by decide
  have hwriter : Writer.standard.rules = Rule.defaults := rfl
  obtain ⟨parts, -, hrender, hparts⟩ :=
    @(Writer.render_isDefinitionOf hwriter isStandard_htmlReferences shorten_htmlReferences
    { label := some "x" } quotedDefinition).1 rfl none (Writer.blockSite {})
      { constructs := [.listItem, .list, .blockquote] } '"' hnest rfl
  exact ⟨hnest, parts, hrender, hparts.destination.mpr (by decide), hparts.caption.mpr (by decide)⟩

/-- **Definitions that do not come back.** A reference in a url or title is written as it is and
resolved when it is read; a bare url in angle brackets loses them. -/
theorem toMarkdown_definition_references :
    toMarkdown (.node {} [])
          (.leaf (.definition { label := some "a" } { url := "&amp;", title := some "&lt;" })) =
        .ok "[a]: &amp; \"&lt;\"\n" ∧
      decode "&amp;".toList = ['&'] ∧ decode "&lt;".toList = ['<'] ∧
      toMarkdown (.node {} []) (.leaf (.definition { label := some "a" } { url := "<b>" })) =
        .ok "[a]: <b>\n" ∧ unenclosed "<b>".toList = ['b'] := by
  exact ⟨by decide +kernel, by decide +kernel, by decide +kernel, by decide +kernel, by decide⟩

end MarkdownWriter
