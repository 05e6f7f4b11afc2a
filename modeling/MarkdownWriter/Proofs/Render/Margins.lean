import MarkdownWriter.Proofs.Render.Visits
import MarkdownWriter.Proofs.Text.Rewriting

/-!
# Margins

A block quote and a list item put margins in front of the lines of their contents and do nothing
else to them, so the contents can be read off the text again by taking the margins away (`SetsOff`).

* A **block quote** has a mark in the margin of every line, with a space behind it unless the line
  is blank.
* A **list item** has its marker in the margin of the first line, and spaces up to the same column
  in front of the others. Blank lines get no spaces: the marker stands alone if the first line is
  blank, and the other blank lines stay empty.

The marker has to be one that ends no line. Every block of a document is written from a state with
such a marker (`Writer.rewritesLines_iff_and_exists_setsOff`).
-/

namespace MarkdownWriter

open Text

/-! ## Texts behind margins -/

/-- A text that is made of another one by margins in front of its lines, and by nothing else. They
are taken away again by dropping `width` characters of every line, or all there are. -/
structure SetsOff (margin : Nat → List Char → List Char) (width : Nat) (content text : List Char) :
    Prop where
  rewrites : RewritesLines (fun i line => margin i line ++ line) content text
  mapLines_drop : mapLines (fun _ line => line.drop width) text = content

/-- Margins of one width, which may be narrower in front of blank lines. -/
theorem setsOff_mapLines {margin : Nat → List Char → List Char} {width : Nat}
    (hfree : ∀ i line, ∀ c ∈ margin i line, isLineBreak c = false)
    (hwidth : ∀ i line, line ≠ [] → (margin i line).length = width)
    (hblank : ∀ i, (margin i []).length ≤ width) (content : List Char) :
    SetsOff margin width content (mapLines (fun i line => margin i line ++ line) content) := by
  have hkeeps : Lines.Keeps fun i line => margin i line ++ line :=
    ⟨fun i line hline => List.forall_mem_append.mpr ⟨hfree i line, hline⟩,
      fun i line h => (List.append_eq_nil_iff.mp h).2⟩
  refine ⟨rewritesLines_iff.mpr (Lines.ofText_mapLines hkeeps content),
    mapLines_cancel hkeeps (fun i line => ?_) content⟩
  by_cases hline : line = []
  · rw [hline, List.append_nil, List.drop_eq_nil_of_le (hblank i)]
  · rw [← hwidth i line hline, List.drop_left]

namespace Layout

/-! ## Block quotes -/

/-- What a block quote puts in front of a line. -/
def quoteMargin (line : List Char) : List Char :=
  if line = [] then ['>'] else ['>', ' ']

/-- A line of a quote is a margin and the line. -/
theorem quoteLine_eq (line : List Char) : quoteLine line = quoteMargin line ++ line := by
  cases line <;> rfl

/-- A quote sets its contents off by two columns. -/
theorem setsOff_quoteLine (content : List Char) :
    SetsOff (fun _ => quoteMargin) 2 content (mapLines (fun _ line => quoteLine line) content) := by
  simp only [quoteLine_eq]
  refine setsOff_mapLines ?_ ?_ (fun _ => by decide) content
  · intro _ line
    unfold quoteMargin
    split <;> simp [isLineBreak]
  · intro _ line hline
    rw [quoteMargin, if_neg hline]
    rfl

/-! ## List items -/

/-- The margin of a blank line of an item, which is the marker in front of the first line and
nothing in front of others. -/
def itemOpening (marker : List Char) (index : Nat) : List Char :=
  if index = 0 then marker else []

/-- What a list item puts in front of the line with an index. Unless the line is blank, the margin
is filled up with spaces to the columns that the contents are indented by. -/
def itemMargin (marker : List Char) (size index : Nat) (line : List Char) : List Char :=
  if line = [] then itemOpening marker index
  else itemOpening marker index ++ List.replicate (size - (itemOpening marker index).length) ' '

/-- A line of an item is a margin and the line. -/
theorem itemLine_eq (marker : List Char) (size index : Nat) (line : List Char) :
    itemLine marker size index line = itemMargin marker size index line ++ line := by
  unfold itemLine itemMargin itemOpening
  by_cases hindex : index = 0
  · cases line <;> simp [hindex]
  · cases line <;> simp [hindex]

/-- An item sets its contents off by its size. -/
theorem setsOff_itemLine {marker : List Char} {size : Nat}
    (hmarker : ∀ c ∈ marker, isLineBreak c = false) (hsize : marker.length ≤ size)
    (content : List Char) :
    SetsOff (itemMargin marker size) size content (mapLines (itemLine marker size) content) := by
  have hopening : ∀ index, (∀ c ∈ itemOpening marker index, isLineBreak c = false) ∧
      (itemOpening marker index).length ≤ size := by
    intro index
    unfold itemOpening
    split
    · exact ⟨hmarker, hsize⟩
    · exact ⟨by simp, Nat.zero_le size⟩
  rw [show itemLine marker size = fun index line => itemMargin marker size index line ++ line from
    funext fun index => funext fun line => itemLine_eq marker size index line]
  refine setsOff_mapLines (fun index line => ?_) (fun index line hline => ?_)
    (fun index => ?_) content
  · unfold itemMargin
    split
    · exact (hopening index).1
    · exact List.forall_mem_append.mpr ⟨(hopening index).1,
        isLineBreak_of_mem_replicate (by decide) _⟩
  · have := (hopening index).2
    rw [itemMargin, if_neg hline, List.length_append, List.length_replicate]
    omega
  · rw [itemMargin, if_pos rfl]
    exact (hopening index).2

end Layout

/-! ## Containers -/

open Layout

namespace Writer

variable {writer : Writer} {children : List Node} {parent : Option Node} {site : Site}
  {state after : State}
  {text : List Char}

/-- A block quote sets off its contents. -/
theorem LaysOut.exists_setsOff_blockquote (hwriter : writer.LaysOut .blockquote)
    (h : writer.render (.branch .blockquote children) parent site state = (.ok text, after)) :
    ∃ place content middle,
      writer.blocks (.branch .blockquote children) place
          { state with constructs := .blockquote :: state.constructs } = (.ok content, middle) ∧
        SetsOff (fun _ => quoteMargin) 2 content text := by
  rw [hwriter.render_eq_layout rfl] at h
  change blockquote site (writer.blocks (.branch .blockquote children)) state = _ at h
  obtain ⟨place, content, middle, hblocks, rfl⟩ := exists_blocks_of_blockquote h
  exact ⟨place, content, middle, hblocks, setsOff_quoteLine content⟩

/-- A list item sets off its contents. -/
theorem LaysOut.exists_setsOff_listItem (hwriter : writer.LaysOut .listItem)
    (hstate : ∀ bullet ∈ state.bulletCurrent, isLineBreak bullet = false) {spread : Bool}
    (h : writer.render (.branch (.listItem spread) children) parent site state =
      (.ok text, after)) :
    ∃ place content middle bullet marker widest isSpread size,
      writer.blocks (.branch (.listItem spread) children) place
          { state with constructs := .listItem :: state.constructs } = (.ok content, middle) ∧
        (state.bulletCurrent = some bullet ∨ state.style.bulletMarker = .ok bullet) ∧
        (marker, widest) = itemMarker state.style.incrementsMarkers bullet parent
          (state.indexes.head?.getD 0) ∧
        size = itemSize state.style.itemIndent isSpread widest ∧ marker.length < size ∧
        SetsOff (itemMargin marker size) size content text := by
  rw [hwriter.render_eq_layout rfl] at h
  change listItem spread parent site (writer.blocks (.branch (.listItem spread) children)) state =
      _ at h
  obtain ⟨place, content, middle, bullet, isSpread, hblocks, hbullet, rfl⟩ :=
    exists_blocks_of_listItem h
  have hfree : isLineBreak bullet = false := by
    rcases hbullet with hcurrent | hmarker
    · exact hstate bullet hcurrent
    · exact isLineBreak_eq_false_of_mem_markers (@usualMarker_mem {} _ _ hmarker)
  have hlength :=
    Nat.lt_of_le_of_lt (length_itemMarker_le state.style.incrementsMarkers bullet parent
    (state.indexes.head?.getD 0)) (lt_itemSize state.style.itemIndent isSpread _)
  exact ⟨place, content, middle, bullet, _, _, isSpread, _, hblocks, hbullet, rfl, rfl, hlength,
    setsOff_itemLine (free_itemMarker hfree _ _ _) (Nat.le_of_lt hlength) content⟩

/-- **Lines are rewritten one by one, and margins can be taken away.** A map that writes no line
breaks rewrites a text line by line, with its index and whether it is blank, unless it empties a
line that is not blank between a lone carriage return and a lone line feed. Block quotes and list
items empty no line: what they write is their contents with margins in front of the lines, and
dropping the width of the margins gives the contents back. An item does so from any state with a
marker that ends no line, and every block of a document is written from such a state. -/
theorem rewritesLines_iff_and_exists_setsOff (hquote : writer.LaysOut .blockquote)
    (hitem : writer.LaysOut .listItem) :
    (∀ f : List Char → Nat → Bool → List Char,
      (∀ line, (∀ c ∈ line, isLineBreak c = false) →
        ∀ i blank, ∀ c ∈ f line i blank, isLineBreak c = false) →
      ∀ value, RewritesLines (fun i line => f line i line.isEmpty) value
          (mapLines (fun i line => f line i line.isEmpty) value) ↔
        ∀ i line, (Lines.ofText value).endings[i]? = some .cr →
          (Lines.ofText value).contents[i + 1]? = some line →
          (Lines.ofText value).endings[i + 1]? = some .lf → line ≠ [] → f line (i + 1) false ≠ []) ∧
    (∀ children parent site state text after,
      writer.render (.branch .blockquote children) parent site state = (.ok text, after) →
      ∃ place content middle,
        writer.blocks (.branch .blockquote children) place
            { state with constructs := .blockquote :: state.constructs } = (.ok content, middle) ∧
          SetsOff (fun _ => quoteMargin) 2 content text) ∧
    (∀ spread children parent site state text after,
      (∀ bullet ∈ state.bulletCurrent, isLineBreak bullet = false) →
      writer.render (.branch (.listItem spread) children) parent site state = (.ok text, after) →
      ∃ place content middle bullet marker widest isSpread size,
        writer.blocks (.branch (.listItem spread) children) place
            { state with constructs := .listItem :: state.constructs } = (.ok content, middle) ∧
          (state.bulletCurrent = some bullet ∨ state.style.bulletMarker = .ok bullet) ∧
          (marker, widest) = itemMarker state.style.incrementsMarkers bullet parent
            (state.indexes.head?.getD 0) ∧
          size = itemSize state.style.itemIndent isSpread widest ∧ marker.length < size ∧
          SetsOff (itemMargin marker size) size content text) ∧
    ∀ options externals state tree text, options.writer externals = .ok (writer, state) →
      writer.LaysOutNests → toMarkdown options tree externals = .ok text →
      ∃ document : Visit, document.node = tree ∧ text = String.ofList (terminated document.text) ∧
        ∀ path node, tree.block? path = some node →
          ∃ visit, writer.Reaches document path visit ∧ visit.node = node ∧ visit.IsMade writer ∧
            ∀ bullet ∈ visit.state.bulletCurrent, isLineBreak bullet = false := by
  refine ⟨fun f hf value => ?_, fun _ _ _ _ _ _ h => hquote.exists_setsOff_blockquote h,
    fun _ _ _ _ _ _ _ hstate h => hitem.exists_setsOff_listItem hstate h,
    fun options externals state tree text hoptions hnests h => ?_⟩
  · rw [rewritesLines_mapLines_iff fun i line hline => hf line hline i line.isEmpty]
    -- the line that counts is not blank
    refine forall_congr' fun i => forall_congr' fun line => ?_
    constructor
    · intro h hending hline hnext hne
      rw [← List.isEmpty_eq_false_iff.mpr hne]
      exact h hending hline hnext hne
    · intro h hending hline hnext hne
      rw [List.isEmpty_eq_false_iff.mpr hne]
      exact h hending hline hnext hne
  · obtain ⟨document, rfl, -, hmade, hsettled, -, htext⟩ :=
      Options.exists_visit_of_toMarkdown hoptions h
    refine ⟨document, rfl, htext, fun path node hnode => ?_⟩
    obtain ⟨visit, hvisit, rfl⟩ := Reaches.exists_of_block? hmade hsettled hnests hnode
    have hinside := hvisit.inside hmade hsettled
    exact ⟨visit, hvisit, rfl, hinside.made, hinside.settled.bullet⟩

end Writer

/-! ## Lines of three kinds in a quoted item -/

/-- A line behind its index; a blank one is left as it is. -/
def numberedLine (line : List Char) (i : Nat) (blank : Bool) : List Char :=
  if blank then [] else decimal i ++ ':' :: line

/-- An item with four lines, of which the second one and the last one are blank. -/
def mixedItem : Node :=
  .branch (.listItem false) [.leaf (.html "<a>\r\n\r<b>\n")]

/-- Lines with three kinds of endings are numbered, and put behind the margins of an item and of a
quote around it. -/
theorem exists_setsOff_mixedItem :
    Writer.standard.LaysOut .blockquote ∧ Writer.standard.LaysOut .listItem ∧
      RewritesLines (fun i line => numberedLine line i line.isEmpty) "a\r\n\nb\rc".toList
        "0:a\r\n\n2:b\r3:c".toList ∧
      (∃ content, SetsOff (fun _ => quoteMargin) 2 content "> *   <a>\r\n>\r>     <b>\n>".toList) ∧
      (∃ content, SetsOff (itemMargin ['*'] 4) 4 content "*   <a>\r\n\r    <b>\n".toList) ∧
      ∃ visit : Visit, visit.node = mixedItem ∧ visit.IsMade Writer.standard ∧
        ∀ bullet ∈ visit.state.bulletCurrent, isLineBreak bullet = false := by
  have hquote : Writer.standard.LaysOut .blockquote := rfl
  have hitem : Writer.standard.LaysOut .listItem := rfl
  have hnests : Writer.standard.LaysOutNests := fun kind _ => by cases kind <;> rfl
  obtain ⟨hmap, hquotes, hitems, hdocuments⟩ :=
    @Writer.rewritesLines_iff_and_exists_setsOff Writer.standard hquote hitem
  refine ⟨hquote, hitem, ?_, ?_, ?_, ?_⟩
  · have hnumbered :
        mapLines (fun i line => numberedLine line i line.isEmpty) "a\r\n\nb\rc".toList =
        "0:a\r\n\n2:b\r3:c".toList := by decide
    rw [← hnumbered]
    refine (hmap numberedLine (fun line hline i blank => ?_) _).mpr fun i line _ _ _ _ => ?_
    · unfold numberedLine
      split
      · simp
      · exact List.forall_mem_append.mpr ⟨fun c => isLineBreak_eq_false_of_mem_decimal,
          List.forall_mem_cons.mpr ⟨rfl, hline⟩⟩
    · simp [numberedLine]
  · have hrun : Writer.standard.render (.branch .blockquote [mixedItem]) none (Writer.blockSite {})
        {} = (.ok "> *   <a>\r\n>\r>     <b>\n>".toList, {}) := rfl
    obtain ⟨_, content, _, -, hcontent⟩ := hquotes _ _ _ _ _ _ hrun
    exact ⟨content, hcontent⟩
  · have hrun : Writer.standard.render mixedItem none (Writer.blockSite {}) {} =
        (.ok "*   <a>\r\n\r    <b>\n".toList, {}) := rfl
    obtain ⟨_, content, _, bullet, marker, widest, _, _, -, hbullet, hmarker, rfl, -, hcontent⟩ :=
      hitems _ _ _ _ _ _ _ (by simp) hrun
    obtain rfl : '*' = bullet := Except.ok.inj (hbullet.resolve_left nofun)
    obtain ⟨rfl, rfl⟩ := Prod.mk.inj hmarker
    exact ⟨content, hcontent⟩
  · have hwriter : Options.writer (.node {} []) = .ok (Writer.standard, {}) := by
      unfold Options.writer
      rfl
    have htext : toMarkdown (.node {} []) mixedItem = .ok "*   <a>\r\n\r    <b>\n" := by
      decide +kernel
    obtain ⟨document, -, -, hvisits⟩ := hdocuments _ _ _ _ _ hwriter hnests htext
    obtain ⟨visit, -, hnode, hmade, hbullet⟩ := hvisits [] mixedItem rfl
    exact ⟨visit, hnode, hmade, hbullet⟩

/-- An item whose blocks are kept apart by a blank line. -/
def spacedItem : Node :=
  .branch (.listItem true) [.leaf (.html "<a>"), .leaf (.html "<b>")]

/-- A map that empties the line between a carriage return and a line feed makes one ending of two. A
blank line of an item has no spaces in front of it. -/
theorem not_forall_rewritesLines :
    (¬ ∀ f : List Char → Nat → Bool → List Char,
      (∀ line, (∀ c ∈ line, isLineBreak c = false) →
        ∀ i blank, ∀ c ∈ f line i blank, isLineBreak c = false) →
      ∀ value, RewritesLines (fun i line => f line i line.isEmpty) value
        (mapLines (fun i line => f line i line.isEmpty) value)) ∧
      toMarkdown (.node {} []) spacedItem = .ok "*   <a>\n\n    <b>\n" ∧
      (Lines.ofText "*   <a>\n\n    <b>\n".toList).contents[1]? = some [] := by
  refine ⟨fun h => ?_, by decide +kernel, by decide⟩
  have hendings := (h (fun _ _ _ => []) (by simp) "\rx\n".toList).endings_eq
  exact absurd hendings (by decide)

end MarkdownWriter
