import MarkdownWriter.Proofs.Render.ContentColumn

/-!
# The numbers of a list

The items of an ordered list are numbered from its start on, or all with the start itself. Each item
works out on its own how far its contents are indented, from its own number and that of the last
item. As numbers do not get shorter while they count up, the last marker is the widest one
(`Layout.widestMarker_eq`), and all items come to the same (`itemLayout_eq_of_ordered`).

* **Numbers** (`numberedMarker`): the decimal numeral of the start, counted up by the index unless
  the style says that the numbers are not to be incremented, and the delimiter behind it. This is
  said in terms of the choices that a style makes or leaves open.
* **Widths** (`widestMarker`, `itemSize_tab`): contents are indented by the widest marker and a
  space, rounded up to the next tab stop where the style asks for tabs.
* **Items are numbered and aligned** (`IsNumbered`, `Writer.WritesItems.exists_numbered`).
-/

namespace MarkdownWriter

open Text

namespace Layout

/-! ## Widths -/

/-- Numbers do not get shorter. -/
theorem length_toDigits_le {m n : Nat} (h : m ≤ n) :
    (Nat.toDigits 10 m).length ≤ (Nat.toDigits 10 n).length := by
  have hlt : n < 10 ^ (Nat.toDigits 10 n).length :=
    (Nat.length_toDigits_le_iff (by decide) Nat.length_toDigits_pos).mp (Nat.le_refl _)
  exact (Nat.length_toDigits_le_iff (by decide) Nat.length_toDigits_pos).mpr
    (Nat.lt_of_le_of_lt h hlt)

section Numbers

variable (style : Style) (delimiter : Char) (list : ListStyle)

/-- The marker of the item with the given index of an ordered list: the numeral of the start,
counted up by the index unless the style is not to, and the delimiter. -/
def numberedMarker (index : Nat) : List Char :=
  Nat.toDigits 10 (list.start.getD 1 + if style.incrementListMarker =
    some false then 0 else index) ++ [delimiter]

/-- The width of the widest marker in an ordered list with so many items. -/
def widestMarker : Nat → Nat
  | 0 => 0
  | count + 1 => max (widestMarker count) (numberedMarker style delimiter list count).length

variable {style delimiter list}

/-- Items are counted up unless the style says otherwise. -/
theorem decimal_itemNumber (index : Nat) :
    decimal (itemNumber style.incrementsMarkers list index) ++ [delimiter] =
      numberedMarker style delimiter list index := by
  unfold itemNumber Style.incrementsMarkers numberedMarker decimal
  rcases style.incrementListMarker with _ | _ | _ <;> rfl

/-- Markers do not get narrower. -/
theorem length_numberedMarker_le {index index' : Nat} (h : index ≤ index') :
    (numberedMarker style delimiter list index).length ≤
      (numberedMarker style delimiter list index').length := by
  unfold numberedMarker
  rw [List.length_append, List.length_append]
  refine Nat.add_le_add_right (length_toDigits_le (Nat.add_le_add_left ?_ _)) _
  split
  · exact Nat.le_refl 0
  · exact h

/-- Every marker of a list is as wide as the widest one at most. -/
theorem length_le_widestMarker {index count : Nat} (h : index < count) :
    (numberedMarker style delimiter list index).length ≤
      widestMarker style delimiter list count := by
  induction count with
  | zero => contradiction
  | succ count ih =>
      rcases Nat.lt_succ_iff_lt_or_eq.mp h with hlt | rfl
      · exact Nat.le_trans (ih hlt) (Nat.le_max_left _ _)
      · exact Nat.le_max_right _ _

/-- **The last marker is the widest one.** -/
theorem widestMarker_eq (last : Nat) :
    widestMarker style delimiter list (last + 1) =
      (numberedMarker style delimiter list last).length := by
  induction last with
  | zero => exact Nat.max_eq_right (Nat.zero_le _)
  | succ last ih =>
      rw [widestMarker, ih]
      exact Nat.max_eq_right (length_numberedMarker_le (Nat.le_succ last))

/-- **All items of a list are indented alike**, whatever their index. -/
theorem itemLayout_eq_of_ordered (hordered : list.ordered = true) {items : List Node} {index : Nat}
    (hindex : index < items.length) (spread : Bool) :
    itemLayout style delimiter list items spread index =
      ⟨numberedMarker style delimiter list index,
        itemSize style.itemIndent (spread || list.spread)
          (widestMarker style delimiter list items.length)⟩ := by
  obtain ⟨last, hlast⟩ : ∃ last, items.length = last + 1 := ⟨items.length - 1, by omega⟩
  have hwidth :
      max (numberedMarker style delimiter list last).length
        (numberedMarker style delimiter list index).length =
      widestMarker style delimiter list (last + 1) := by
    rw [widestMarker_eq]
    exact Nat.max_eq_left (length_numberedMarker_le (by omega))
  unfold itemLayout itemMarker
  simp only [hordered, if_true, hlast, Nat.add_sub_cancel, decimal_itemNumber]
  rw [← hwidth]

/-- A width rounded up to the next tab stop. -/
theorem itemSize_tab (spread : Bool) (widest : Nat) :
    4 ∣ itemSize .tab spread widest ∧ widest + 1 ≤ itemSize .tab spread widest ∧
      itemSize .tab spread widest < widest + 1 + 4 := by
  unfold itemSize tabSize
  dsimp only
  omega

end Numbers

end Layout

/-! ## Items -/

open Layout

/-- The text of an item with the given index in an ordered list of so many: its marker is a number,
and its contents are indented by `size` columns. Lines without characters get no spaces. -/
structure IsNumbered (style : Style) (delimiter : Char) (list : ListStyle) (count index : Nat)
    (content text : List Char) (size : Nat) : Prop where
  /-- The first line is the marker, and in front of contents the spaces that are left of the
  columns. -/
  first_eq : (Lines.ofText text).first =
    if (Lines.ofText content).first = [] then numberedMarker style delimiter list index
    else numberedMarker style delimiter list index ++
      List.replicate (size - (numberedMarker style delimiter list index).length) ' ' ++
        (Lines.ofText content).first
  /-- The other lines are those of the contents behind so many spaces, with the same line endings.
  -/
  rest_eq : (Lines.ofText text).rest = (Lines.ofText content).rest.map fun (ending, line) =>
    (ending, if line = [] then [] else List.replicate size ' ' ++ line)
  /-- There is room for a space behind the marker. -/
  length_lt : (numberedMarker style delimiter list index).length < size
  size_one : style.listItemIndent = some .one → size = widestMarker style delimiter list count + 1
  /-- The columns are those up to a tab stop, which is also what is done if nothing is chosen. -/
  size_tab : style.listItemIndent = some .tab ∨ style.listItemIndent = none →
    4 ∣ size ∧ widestMarker style delimiter list count + 1 ≤ size ∧
    size < widestMarker style delimiter list count + 1 + 4

/-- An item of an ordered list as it is laid out is numbered and aligned. -/
theorem isNumbered_itemLayout {style : Style} {delimiter : Char} {list : ListStyle}
    {items : List Node} {index : Nat} (hordered : list.ordered = true)
    (hdelimiter : delimiter ∈ markers list) (hindex : index < items.length)
    (spread : Bool) (content : List Char) :
    IsNumbered style delimiter list items.length index content
      ((itemLayout style delimiter list items spread index).text content)
      (itemSize style.itemIndent (spread || list.spread)
        (widestMarker style delimiter list items.length)) := by
  have hlines : Lines.ofText ((itemLayout style delimiter list items spread index).text content) =
      _ :=
    ofText_itemLayout_text hdelimiter content
  rw [itemLayout_eq_of_ordered hordered hindex] at hlines ⊢
  refine ⟨?_, ?_, ?_, fun hindent => ?_, fun hindent => ?_⟩
  · rw [hlines]
    change itemLine _ _ 0 _ = _
    simp only [itemLine, if_true, List.isEmpty_iff]
  · rw [hlines]
    simp only [Lines.mapIdx, itemLine, Nat.succ_ne_zero, if_false, List.isEmpty_iff]
    exact List.ext_getElem? fun i => by rw [List.getElem?_mapIdx, List.getElem?_map]
  · exact Nat.lt_of_le_of_lt (length_le_widestMarker hindex) (lt_itemSize _ _ _)
  · rw [Style.itemIndent, hindent]
    rfl
  · have hsize : style.itemIndent = .tab := by
      rcases hindent with hindent | hindent
      · rw [Style.itemIndent, hindent]
        rfl
      · rw [Style.itemIndent, hindent]
        rfl
    rw [hsize]
    exact itemSize_tab _ _

/-- **Items are numbered and aligned.** -/
theorem Writer.WritesItems.exists_numbered {writer : Writer} (hwriter : writer.WritesItems)
    {list : ListStyle} (hordered : list.ordered = true) {items : List Node}
    {parent : Option Node} {site : Site} {state after : State} {value : List Char}
    (h : writer.renderAs .list (.branch (.list list) items) parent site state =
      (.ok value, after)) :
    ∃ delimiter pieces middle, delimiter ∈ Style.delimiters ∧
      listBullet list items parent.isSome state = .ok delimiter ∧
      writer.pieces (.branch (.list list) items) site.position (openList delimiter state) =
        (.ok pieces, middle) ∧
      value = Piece.flatten pieces ∧ pieces.length = items.length ∧
      ∀ index spread children piece,
        items[index]? = some (.branch (.listItem spread) children) →
        pieces[index]? = some piece →
        ∃ place start content written size,
          writer.blocks (.branch (.listItem spread) children) place start =
            (.ok content, written) ∧
          IsNumbered state.style delimiter list items.length index content piece.text size := by
  obtain ⟨delimiter, pieces, middle, hbullet, -, hpieces, hvalue, hitems⟩ := hwriter.exists_items h
  have hmarkers := listBullet_mem hbullet
  have hdelimiter : delimiter ∈ Style.delimiters := by
    unfold markers at hmarkers
    rwa [hordered, if_pos rfl] at hmarkers
  refine ⟨delimiter, pieces, middle, hdelimiter, hbullet, hpieces, hvalue, length_pieces hpieces,
    ?_⟩
  intro index spread children piece hitem hpiece
  obtain ⟨place, start, content, written, hcontent, htext⟩ :=
    hitems index spread children piece hitem hpiece
  have hnumbered := @isNumbered_itemLayout state.style delimiter list items index hordered hmarkers
    (List.getElem?_eq_some_iff.mp hitem).1 spread content
  rw [← htext] at hnumbered
  exact ⟨place, start, content, written, _, hcontent, hnumbered⟩

/-- A writer with a handler for items that hands them on. -/
def handingItemsOn : Writer :=
  { Writer.standard with
    handlers := ("listItem", { plan := fun _ _ _ _ => .layout .listItem }) :: Handler.defaults }

/-- The items of a list of two. -/
def twoItems : List Node :=
  [.branch (.listItem false) [.leaf (.html "<a>")], .branch (.listItem false) [.leaf (.html "<b>")]]

/-- The second marker is wider than the first one, so the first item has two spaces. If the items
are not counted up, both have the number of the first. -/
theorem exists_numbered_nine :
    (∃ value after pieces first second,
      handingItemsOn.renderAs .list (.branch (.list { ordered := true, start := some 9 }) twoItems)
          none (Writer.blockSite {}) { style := { listItemIndent := some .one } } =
        (.ok value, after) ∧
        value = Piece.flatten pieces ∧ pieces[0]? = some first ∧ pieces[1]? = some second ∧
        (∃ content, IsNumbered { listItemIndent := some .one } '.'
          { ordered := true, start := some 9 } 2 0 content first.text 4) ∧
        ∃ content, IsNumbered { listItemIndent := some .one } '.'
          { ordered := true, start := some 9 } 2 1 content second.text 4) ∧
      ∃ value after pieces second,
        handingItemsOn.renderAs .list
            (.branch (.list { ordered := true, start := some 9 }) twoItems) none
            (Writer.blockSite {}) { style := { incrementListMarker := some false } } =
          (.ok value, after) ∧
          value = Piece.flatten pieces ∧ pieces[1]? = some second ∧
          ∃ content size, ['9', '.'] <+: (Lines.ofText second.text).first ∧ 4 ∣ size ∧
            IsNumbered { incrementListMarker := some false } '.'
              { ordered := true, start := some 9 } 2 1 content second.text size := by
  have hwriter : handingItemsOn.WritesItems := Writer.writesItems_of_lookup rfl fun _ _ _ _ => rfl
  refine ⟨?_, ?_⟩
  · have hrun : handingItemsOn.renderAs .list
        (.branch (.list { ordered := true, start := some 9 }) twoItems) none
        (Writer.blockSite {}) { style := { listItemIndent := some .one } } =
          (.ok ['9', '.', ' ', ' ', '<', 'a', '>', '\n', '1', '0', '.', ' ', '<', 'b', '>'],
            { style := { listItemIndent := some .one }, bulletLastUsed := some '.' }) := rfl
    obtain ⟨delimiter, pieces, middle, -, hbullet, -, hvalue, hlength, hitems⟩ :=
      hwriter.exists_numbered rfl hrun
    obtain rfl : '.' = delimiter := Except.ok.inj hbullet
    have hpiece : ∀ index < 2, ∃ piece, pieces[index]? = some piece := fun index hindex =>
      ⟨_, List.getElem?_eq_getElem (by rw [hlength]; exact hindex)⟩
    obtain ⟨first, hfirstAt⟩ := hpiece 0 (by decide)
    obtain ⟨second, hsecondAt⟩ := hpiece 1 (by decide)
    obtain ⟨_, _, content, _, size, -, hfirst⟩ := hitems 0 false _ first rfl hfirstAt
    obtain ⟨_, _, content', _, size', -, hsecond⟩ := hitems 1 false _ second rfl hsecondAt
    obtain rfl : size = 4 := hfirst.size_one rfl
    obtain rfl : size' = 4 := hsecond.size_one rfl
    exact ⟨_, _, pieces, first, second, hrun, hvalue, hfirstAt, hsecondAt, ⟨content, hfirst⟩,
      ⟨content', hsecond⟩⟩
  · have hrun : handingItemsOn.renderAs .list
        (.branch (.list { ordered := true, start := some 9 }) twoItems) none
        (Writer.blockSite {}) { style := { incrementListMarker := some false } } =
          (.ok ['9', '.', ' ', ' ', '<', 'a', '>', '\n', '9', '.', ' ', ' ', '<', 'b', '>'],
            { style := { incrementListMarker := some false }, bulletLastUsed := some '.' }) := rfl
    obtain ⟨delimiter, pieces, middle, -, hbullet, -, hvalue, hlength, hitems⟩ :=
      hwriter.exists_numbered rfl hrun
    obtain rfl : '.' = delimiter := Except.ok.inj hbullet
    obtain ⟨second, hsecondAt⟩ : ∃ second, pieces[1]? = some second :=
      ⟨_, List.getElem?_eq_getElem (by rw [hlength]; exact Nat.one_lt_two)⟩
    obtain ⟨_, _, content, _, size, -, hsecond⟩ := hitems 1 false _ second rfl hsecondAt
    refine ⟨_, _, pieces, second, hrun, hvalue, hsecondAt, content, size, ?_,
      (hsecond.size_tab (.inr rfl)).1, hsecond⟩
    have hmarker : ['9', '.'] = numberedMarker { incrementListMarker := some false } '.'
        { ordered := true, start := some 9 } 1 := rfl
    rw [hsecond.first_eq, hmarker]
    split
    · exact List.prefix_rfl
    · rw [List.append_assoc]
      exact List.prefix_append _ _

end MarkdownWriter
