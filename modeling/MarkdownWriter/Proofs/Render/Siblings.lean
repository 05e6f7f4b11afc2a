import MarkdownWriter.Proofs.Escape.Brackets
import MarkdownWriter.Proofs.Render.Neighbours
import MarkdownWriter.Proofs.Render.References
import MarkdownWriter.Proofs.Style.Markers
import MarkdownWriter.Proofs.Text.Endings

/-!
# Where inline siblings meet

The texts of inline children stand one behind the other with nothing between them. A `Joint` is
where two of them meet (`Writer.exists_joint`); there may be children without characters between
these two (`Node.isVoid`). Raw HTML among the children makes one difference: a line ending at the
end of a text in front of it becomes a space (`Spaced`).

* **Delimiter runs.** Emphasis, strong emphasis and code are written between runs of one character,
  and nothing keeps the run that closes one of them apart from the run that opens the next
  (`Node.fusesWith`).
* **Brackets.** What is emitted behind a reference begins as the first child does that has
  characters. The text of a link or of another reference begins with a bracket, and so may raw HTML.
  Literal text does only where that bracket is not escaped (`Node.OpensWith`), which is told of the
  reference only if it is written right behind it.

Both are stated in `Writer.siblings_fuse_iff`.
-/

namespace MarkdownWriter

open Text

/-! ## Joints -/

/-- Whether a node is literal text or raw HTML without characters. -/
def Node.isVoid : Node → Bool
  | .leaf content => content.isSilent
  | .branch .. => false

/-- The texts of two children, between what is in front of them and what is behind. -/
structure Joint where
  front : List Char
  first : List Char
  second : List Char
  back : List Char
  /-- Where the second one is written. -/
  site : Site

/-- The whole text. -/
def Joint.text (joint : Joint) : List Char :=
  joint.front ++ (joint.first ++ (joint.second ++ joint.back))

/-- What becomes of the text of a child once it is known what follows: before raw HTML a line ending
at its end is made a space. -/
inductive Spaced : List Char → List Char → Prop where
  | kept (text : List Char) : Spaced text text
  | spaced (rest : List Char) (ending : LineEnding) : Spaced (rest ++ ending.toText) (rest ++ [' '])

namespace Spaced

variable {text shown : List Char} {c : Char}

/-- A text that does not end in a line ending is kept. -/
theorem eq_of_getLast? (h : Spaced text shown) (hlast : text.getLast? = some c)
    (hc : isLineBreak c = false) : shown = text := by
  cases h with
  | kept => rfl
  | spaced rest ending =>
      have hbreak : isLineBreak c = true := by
        cases ending <;> simp [LineEnding.toText] at hlast <;> subst hlast <;> rfl
      rw [hc] at hbreak
      contradiction

/-- Nothing stays nothing. -/
theorem eq_nil (h : Spaced text shown) (htext : text = []) : shown = [] := by
  cases h with
  | kept => exact htext
  | spaced rest ending => cases ending <;> simp [LineEnding.toText] at htext

/-- What is not empty does not become so. -/
theorem ne_nil (h : Spaced text shown) (htext : text ≠ []) : shown ≠ [] := by
  cases h with
  | kept => exact htext
  | spaced rest ending => exact List.concat_ne_nil ' ' rest

/-- A visible first character stays the first one. -/
theorem head?_eq_some_iff (h : Spaced text shown) (hc : isLineBreak c = false) (hspace : c ≠ ' ') :
    shown.head? = some c ↔ text.head? = some c := by
  cases h with
  | kept => rfl
  | spaced rest ending =>
      cases rest with
      | cons d rest => rfl
      | nil =>
          refine iff_of_false (fun hhead => hspace (Option.some.inj hhead).symm) fun hhead => ?_
          have hbreak : isLineBreak c = true := by
            cases ending <;> simp [LineEnding.toText] at hhead <;> subst hhead <;> rfl
          rw [hc] at hbreak
          contradiction

end Spaced

namespace Writer

/-- What is written so far. -/
def Progress.text (progress : Progress) : List Char :=
  progress.written.reverse.flatten

/-- Behind a child, the text is its own, perhaps with a space for a line ending, and its last
character is remembered. -/
theorem Progress.exists_prepare_push (progress : Progress) (text : List Char) (next : Node)
    (start : Position) :
    ∃ shown, Spaced text shown ∧
      ((progress.push text).prepare next start).text = progress.text ++ shown ∧
      ((progress.push text).prepare next start).before = shown.getLast?.toList := by
  by_cases hbreak : next.isHtml = true ∧ text.getLast?.any isLineBreak = true
  · obtain ⟨hhtml, hlast⟩ := hbreak
    obtain ⟨b, hlast, hb⟩ := (Option.any_eq_true ..).mp hlast
    obtain ⟨front, rfl⟩ := List.getLast?_eq_some_iff.mp hlast
    obtain ⟨ending, hending, -⟩ := exists_lineEnding_of_isLineBreak hb front
    have hspaced := Spaced.spaced (dropFinalLineEnding (front ++ [b])) ending
    rw [← hending] at hspaced
    have hjoin := isLineBreak_iff.mp hb
    refine ⟨_, hspaced, ?_, ?_⟩
    · simp [prepare, joinLines, push, Progress.text, hhtml, hjoin]
    · simp [prepare, joinLines, push, hhtml, hjoin]
  · have hkept : (progress.push text).prepare next start = progress.push text := by
      unfold prepare joinLines
      split
      · next hhtml =>
          refine if_neg fun hjoin => hbreak ⟨hhtml, ?_⟩
          simp only [push, Bool.or_eq_true, beq_iff_eq, Option.toList_eq_singleton_iff] at hjoin
          rcases hjoin with hlast | hlast <;> rw [hlast] <;> rfl
      · rfl
    rw [hkept]
    exact ⟨text, .kept text, by simp [Progress.text, push], rfl⟩

/-- A joint is where two children of a container that is written in `outer` meet: each of them is
written in its turn. The second one is told of the last character of the first, if there is nothing
between them. -/
structure Meets (writer : Writer) (parent : Node) (outer : State) (k m : Nat) (left right : Node)
    (joint : Joint) : Prop where
  left : ∃ text site start behind, start.IsWithin k outer ∧
    writer.render left (some parent) site start = (.ok text, behind) ∧ Spaced text joint.first
  before : joint.site.before = if m = k + 1 then joint.first.getLast?.toList else []
  right : ∃ text start behind, start.IsWithin m outer ∧
    writer.render right (some parent) joint.site start = (.ok text, behind) ∧
    Spaced text joint.second

section joints

variable {writer : Writer} {parent : Node} {site : Site} {i index : Nat} {progress : Progress}
  {state after outer : State} {value : List Char}

/-- The first child is written, and then the others are, each of them in the container. -/
theorem inlinesFrom_cons_eq_ok {child : Node} {rest : List Node} (hstate : state.IsWithin i outer)
    (h : inlinesFrom writer parent site (child :: rest) index progress state = (.ok value, after)) :
    ∃ place start text behind, start.IsWithin index outer ∧
      place.before = (progress.prepare child site.position).before ∧
      writer.render child (some parent) place start = (.ok text, behind) ∧
      behind.IsWithin index outer ∧ inlinesFrom writer parent site rest (index + 1)
        ((progress.prepare child site.position).push text) behind =
        (.ok value, after) := by
  rw [inlinesFrom_cons, Render.bind_run_ok (Render.goTo_run _ _)] at h
  obtain ⟨told, middle, hahead, h⟩ := Render.bind_eq_ok.mp h
  have hmiddle := (hstate.goTo index).restored (restores_ahead writer _ _ _ _) hahead
  obtain ⟨text, behind, hrender, hrest⟩ := Render.bind_eq_ok.mp h
  have hbehind := hmiddle.restored (restores_render writer _ _ _) hrender
  exact ⟨_, middle, text, behind, hmiddle, rfl, hrender, hbehind, hrest⟩

/-- A child without characters is written as nothing. -/
theorem eq_nil_of_isVoid {node : Node} {parent : Option Node}
    (hwriter : ∀ kind ∈ node.kind?, writer.LaysOut kind)
    (hvoid : node.isVoid = true) (h : writer.render node parent site state = (.ok value, after)) :
    value = [] := by
  cases node with
  | branch content children => contradiction
  | leaf content =>
      rw [(hwriter _ rfl).render_eq_layout rfl] at h
      cases content with
      | text text =>
          obtain rfl : text = "" := String.isEmpty_iff.mp hvoid
          exact (Render.literal_eq_ok.mp h).1.symm
      | html text =>
          obtain rfl : text = "" := String.isEmpty_iff.mp hvoid
          exact (Render.pure_eq_ok.mp h).1.symm
      | _ => contradiction

/-- What is written stays, only a line ending at its end may become a space. Children without
characters add nothing. -/
theorem exists_spaced_of_inlinesFrom {children : List Node} {text : List Char}
    (hstate : state.IsWithin i outer)
    (h : inlinesFrom writer parent site children index (progress.push text) state =
      (.ok value, after)) :
    ∃ shown back, Spaced text shown ∧ value = progress.text ++ (shown ++ back) ∧
      ((∀ node ∈ children, node.isVoid = true ∧ ∀ kind ∈ node.kind?, writer.LaysOut kind) →
        back = []) := by
  induction children generalizing i index progress text state with
  | nil =>
      rw [inlinesFrom] at h
      obtain ⟨rfl, -⟩ := Render.pure_eq_ok.mp h
      exact ⟨text, [], .kept text, by simp [Progress.push, Progress.text], fun _ => rfl⟩
  | cons child rest ih =>
      obtain ⟨place, start, next, behind, -, -, hrender, hbehind, hrest⟩ :=
        inlinesFrom_cons_eq_ok hstate h
      obtain ⟨shown, hshown, htext, -⟩ := progress.exists_prepare_push text child site.position
      obtain ⟨following, back, hfollowing, rfl, hback⟩ := ih hbehind hrest
      refine ⟨shown, following ++ back, hshown, by rw [htext, List.append_assoc], fun hvoids => ?_⟩
      obtain ⟨⟨hvoid, hwriter⟩, hvoids⟩ := List.forall_mem_cons.mp hvoids
      rw [hfollowing.eq_nil (eq_nil_of_isVoid hwriter hvoid hrender), hback hvoids, List.append_nil]

/-- Behind a child, and behind others without characters, the next one is written right behind the
text of the first. It is told of the last character of that, if there are no others between them. -/
theorem exists_second_of_inlinesFrom {voids others : List Node} {right : Node} {text : List Char}
    (hvoids : ∀ node ∈ voids, node.isVoid = true ∧ ∀ kind ∈ node.kind?, writer.LaysOut kind)
    (hstate : state.IsWithin i outer)
    (h : inlinesFrom writer parent site (voids ++ right :: others) index (progress.push text)
      state = (.ok value, after)) :
    ∃ first second back place next start behind, Spaced text first ∧
      value = progress.text ++ (first ++ (second ++ back)) ∧
      place.before = (if voids = [] then first.getLast?.toList else []) ∧
      start.IsWithin (index + voids.length) outer ∧
      writer.render right (some parent) place start = (.ok next, behind) ∧ Spaced next second ∧
      ((∀ node ∈ others, node.isVoid = true ∧ ∀ kind ∈ node.kind?, writer.LaysOut kind) →
        back = []) := by
  induction voids generalizing i index progress text state with
  | nil =>
      obtain ⟨place, start, next, behind, hstart, hbefore, hrender, hbehind, hothers⟩ :=
        inlinesFrom_cons_eq_ok hstate h
      obtain ⟨first, hfirst, htext, hlast⟩ := progress.exists_prepare_push text right site.position
      obtain ⟨second, back, hsecond, rfl, hback⟩ := exists_spaced_of_inlinesFrom hbehind hothers
      refine ⟨first, second, back, place, next, start, behind, hfirst, ?_, ?_, hstart, hrender,
        hsecond, hback⟩
      · rw [htext, List.append_assoc]
      · rw [if_pos rfl, hbefore, hlast]
  | cons void voids ih =>
      obtain ⟨⟨hvoid, hwriter⟩, hvoids⟩ := List.forall_mem_cons.mp hvoids
      obtain ⟨place, start, nothing, behind, -, -, hrender, hbehind, hrest⟩ :=
        inlinesFrom_cons_eq_ok hstate h
      obtain rfl := eq_nil_of_isVoid hwriter hvoid hrender
      obtain ⟨first, hfirst, htext, -⟩ := progress.exists_prepare_push text void site.position
      obtain ⟨none, second, back, place, next, start, last, hnone, hvalue, hbefore, hstart, hnext,
          hsecond, hback⟩ :=
        ih hvoids hbehind hrest
      obtain rfl := hnone.eq_nil rfl
      refine ⟨first, second, back, place, next, start, last, hfirst, ?_, ?_, ?_, hnext, hsecond,
        hback⟩
      · rw [hvalue, htext, List.nil_append, List.append_assoc]
      · rw [hbefore, if_neg (List.cons_ne_nil void voids)]
        split <;> rfl
      · rwa [List.length_cons, show index + (voids.length + 1) = index + 1 + voids.length by omega]

/-- **Neighbours meet.** Whatever stands in front of them and behind them, the texts of two children
stand one right behind the other if there are only children without characters between them. -/
theorem exists_joint_of_inlinesFrom {children voids others : List Node} {left right : Node}
    (hvoids : ∀ node ∈ voids, node.isVoid = true ∧ ∀ kind ∈ node.kind?, writer.LaysOut kind)
    (hstate : state.IsWithin i outer)
    (h : inlinesFrom writer parent site (children ++ left :: (voids ++ right :: others)) index
      progress state = (.ok value, after)) :
    ∃ joint : Joint, value = joint.text ∧ writer.Meets parent outer (index + children.length)
      (index + children.length + 1 + voids.length) left right joint ∧
      ((∀ node ∈ others, node.isVoid = true ∧ ∀ kind ∈ node.kind?, writer.LaysOut kind) →
        joint.back = []) := by
  induction children generalizing i index progress state with
  | nil =>
      obtain ⟨place, start, text, behind, hstart, -, hrender, hbehind, hrest⟩ :=
        inlinesFrom_cons_eq_ok hstate h
      obtain ⟨first, second, back, place', next, start', behind', hfirst, hvalue, hbefore, hstart',
          hrender', hsecond, hback⟩ := exists_second_of_inlinesFrom hvoids hbehind hrest
      refine ⟨⟨(progress.prepare left site.position).text, first, second, back, place'⟩, hvalue,
        ⟨?_, ?_, ?_⟩, hback⟩
      · exact ⟨text, place, start, behind, hstart, hrender, hfirst⟩
      · have hadjacent : index + 0 + 1 + voids.length = index + 0 + 1 ↔ voids = [] := by
          rw [Nat.add_eq_left, List.length_eq_zero_iff]
        exact hbefore.trans (if_congr hadjacent rfl rfl).symm
      · exact ⟨next, start', behind', hstart', hrender', hsecond⟩
  | cons child rest ih =>
      obtain ⟨place, start, text, behind, -, -, -, hbehind, hrest⟩ :=
        inlinesFrom_cons_eq_ok hstate h
      rw [List.length_cons, show index + (rest.length + 1) = index + 1 + rest.length by omega]
      exact ih hbehind hrest

/-- **Where two children meet**: what is written is the text in front of them, the one, the other
and the rest, with nothing between. -/
theorem exists_joint {k m : Nat} {left right : Node}
    (h : writer.inlines parent site state = (.ok value, after))
    (hlt : k < m) (hleft : parent.children[k]? = some left)
    (hright : parent.children[m]? = some right)
    (hbetween : ∀ i node, k < i → i < m → parent.children[i]? = some node →
      node.isVoid = true ∧ ∀ kind ∈ node.kind?, writer.LaysOut kind) :
    ∃ joint : Joint, value = joint.text ∧ writer.Meets parent state k m left right joint ∧
      ((∀ node ∈ parent.children.drop (m + 1), node.isVoid = true ∧ ∀ kind ∈ node.kind?,
        writer.LaysOut kind) → joint.back = []) := by
  obtain ⟨middle, hinlines, -⟩ := Render.counting_eq_ok.mp h
  have hwithin : State.IsWithin { state with indexes := 0 :: state.indexes } 0 state :=
    ⟨rfl, rfl, rfl, rfl⟩
  obtain ⟨hk, hleft⟩ := List.getElem?_eq_some_iff.mp hleft
  obtain ⟨hm, hright⟩ := List.getElem?_eq_some_iff.mp hright
  have hsplit : parent.children = parent.children.take k ++ left ::
      ((parent.children.drop (k + 1)).take (m - (k + 1)) ++ right :: parent.children.drop
        (m + 1)) := by
    have hvoids := List.take_append_drop (m - (k + 1)) (parent.children.drop (k + 1))
    rw [List.drop_drop, show k + 1 + (m - (k + 1)) = m by omega, List.drop_eq_getElem_cons hm,
      hright] at hvoids
    rw [hvoids, ← hleft, ← List.drop_eq_getElem_cons hk, List.take_append_drop]
  have hvoids : ∀ node ∈ (parent.children.drop (k + 1)).take (m - (k + 1)),
      node.isVoid = true ∧ ∀ kind ∈ node.kind?, writer.LaysOut kind := by
    intro node hnode
    obtain ⟨i, hi⟩ := List.mem_iff_getElem?.mp hnode
    rw [List.getElem?_take] at hi
    split at hi
    · next hlt =>
        rw [List.getElem?_drop] at hi
        exact hbetween _ node (by omega) (by omega) hi
    · contradiction
  rw [hsplit] at hinlines
  have hjoint := exists_joint_of_inlinesFrom hvoids hwithin hinlines
  have hlength : 0 + (parent.children.take k).length = k := by
    rw [Nat.zero_add, List.length_take_of_le (Nat.le_of_lt hk)]
  have hlength' : k + 1 + ((parent.children.drop (k + 1)).take (m - (k + 1))).length = m := by
    rw [List.length_take_of_le (by rw [List.length_drop]; omega)]
    omega
  rwa [hlength, hlength'] at hjoint

end joints

end Writer

/-! ## Delimiter runs -/

namespace Node

/-- Whether a node is emphasis, strong emphasis or code. -/
def isDelimited (node : Node) : Bool :=
  [some Kind.emphasis, some .strong, some .inlineCode].contains node.kind?

/-- The character that such a node is delimited by. -/
def delimiter? (style : Style) : Node → Option Char
  | .branch .emphasis _ => style.emphasisMarker.toOption
  | .branch .strong _ => style.strongMarker.toOption
  | .leaf (.inlineCode _) => some '\x60'
  | _ => none

/-- How often it stands on both sides. -/
def delimiterLength : Node → Nat
  | .branch .strong _ => 2
  | .leaf (.inlineCode value) => shortestMissingRun '\x60' value.toList
  | _ => 1

/-- The run that stands on both sides of such a node. -/
def delimiterRun? (style : Style) (node : Node) : Option (List Char) :=
  (node.delimiter? style).map (List.replicate node.delimiterLength)

/-- Whether two such nodes next to each other have delimiter runs of one character. -/
def fusesWith (style : Style) (left right : Node) : Bool :=
  match left.kind?, right.kind? with
  | some .emphasis, some .strong | some .strong, some .emphasis =>
      style.emphasisMarker.toOption == style.strongMarker.toOption
  | leftKind, rightKind => leftKind == rightKind

end Node

/-- A text stands between two delimiter runs. -/
def Delimits (run text : List Char) : Prop :=
  ∃ inner, text = run ++ (inner ++ run)

/-- Two delimiter runs become one run if they are made of one character. -/
def Joins (closing opening : List Char) : Prop :=
  ∃ c, ∀ d ∈ closing ++ opening, d = c

section runs

variable {style : Style} {node left right : Node}

/-- Two runs that are not empty join if they are made of the same character. -/
theorem joins_replicate_iff {m n : Nat} (hm : m ≠ 0) (hn : n ≠ 0) {c d : Char} :
    Joins (List.replicate m c) (List.replicate n d) ↔ c = d := by
  constructor
  · rintro ⟨e, he⟩
    have hc : c = e := he c (List.mem_append_left _ (List.mem_replicate.mpr ⟨hm, rfl⟩))
    have hd : d = e := he d (List.mem_append_right _ (List.mem_replicate.mpr ⟨hn, rfl⟩))
    rw [hc, hd]
  · rintro rfl
    refine ⟨c, fun d hd => ?_⟩
    rcases List.mem_append.mp hd with hmem | hmem
    · exact List.eq_of_mem_replicate hmem
    · exact List.eq_of_mem_replicate hmem

/-- No delimiter run is empty. -/
theorem Node.delimiterLength_ne_zero (node : Node) : node.delimiterLength ≠ 0 := by
  unfold delimiterLength
  split
  · exact Nat.succ_ne_zero 1
  · exact Nat.ne_of_gt (shortestMissingRun_spec _ _).1
  · exact Nat.succ_ne_zero 0

/-- Delimited nodes by their kinds. -/
theorem Node.cases_of_isDelimited (h : node.isDelimited = true) :
    (∃ children, node = .branch .emphasis children) ∨
      (∃ children, node = .branch .strong children) ∨
      ∃ value, node = .leaf (.inlineCode value) := by
  cases node with
  | leaf content =>
      cases content with
      | inlineCode value => exact .inr (.inr ⟨value, rfl⟩)
      | _ => contradiction
  | branch content children =>
      cases content with
      | emphasis => exact .inl ⟨children, rfl⟩
      | strong => exact .inr (.inl ⟨children, rfl⟩)
      | _ => contradiction

/-- A choice that is made is one without an error. -/
theorem toOption_eq_some_iff {ε α : Type} {result : Except ε α} {value : α} :
    result.toOption = some value ↔ result = .ok value := by
  cases result <;> simp [Except.toOption]

/-- The markers of emphasis are no backticks. -/
theorem Style.ne_backtick_of_accepted {choice : Option Char} {marker : Char}
    {refuse : Char → StyleError}
    (h : (Style.accepted choice '*' ['*', '_'] refuse).toOption = some marker) :
    marker ≠ '\x60' := by
  have hmem := Style.mem_of_accepted (toOption_eq_some_iff.mp h)
  rintro rfl
  exact absurd hmem (by decide)

/-- The delimiter runs of two nodes are made of one character exactly if the nodes fuse. -/
theorem Node.fusesWith_iff (hleft : left.isDelimited = true) (hright : right.isDelimited = true)
    {c d : Char} (hc : left.delimiter? style = some c) (hd : right.delimiter? style = some d) :
    left.fusesWith style right = true ↔ c = d := by
  rcases cases_of_isDelimited hleft with ⟨_, rfl⟩ | ⟨_, rfl⟩ | ⟨_, rfl⟩ <;>
    rcases cases_of_isDelimited hright with ⟨_, rfl⟩ | ⟨_, rfl⟩ | ⟨_, rfl⟩ <;>
    dsimp only [delimiter?] at hc hd
  -- emphasis, strong emphasis and code, each of them in front of all three
  · exact iff_of_true rfl (Option.some.inj (hc.symm.trans hd))
  · change (style.emphasisMarker.toOption == style.strongMarker.toOption) = true ↔ c = d
    rw [hc, hd]
    simp
  · obtain rfl := Option.some.inj hd
    exact iff_of_false Bool.false_ne_true (Style.ne_backtick_of_accepted hc)
  · change (style.emphasisMarker.toOption == style.strongMarker.toOption) = true ↔ c = d
    rw [hc, hd, beq_iff_eq, Option.some_inj]
    exact eq_comm
  · exact iff_of_true rfl (Option.some.inj (hc.symm.trans hd))
  · obtain rfl := Option.some.inj hd
    exact iff_of_false Bool.false_ne_true (Style.ne_backtick_of_accepted hc)
  · obtain rfl := Option.some.inj hc
    exact iff_of_false Bool.false_ne_true (Style.ne_backtick_of_accepted hd).symm
  · obtain rfl := Option.some.inj hc
    exact iff_of_false Bool.false_ne_true (Style.ne_backtick_of_accepted hd).symm
  · exact iff_of_true rfl (Option.some.inj (hc.symm.trans hd))

/-- A text between runs of a visible character is not spaced. -/
theorem Spaced.eq_of_delimits {text shown : List Char} {n : Nat} {c : Char} (h : Spaced text shown)
    (hn : n ≠ 0) (hc : isLineBreak c = false) (hdelimits : Delimits (List.replicate n c) text) :
    shown = text := by
  obtain ⟨inner, rfl⟩ := hdelimits
  have hlast : (List.replicate n c ++ (inner ++ List.replicate n c)).getLast? = some c := by
    rw [← List.append_assoc, List.getLast?_append, List.getLast?_replicate, if_neg hn,
      Option.some_or]
  exact h.eq_of_getLast? hlast hc

end runs

/-! ## Brackets -/

namespace Node

/-- Whether a node is a reference to a definition. -/
def isReference : Node → Bool
  | .branch (.linkReference ..) _ | .leaf (.imageReference ..) => true
  | _ => false

/-- Whether a node is inline content, or can be. -/
def isInline (node : Node) : Bool :=
  node.isPhrasing || node.isHtml

/-- What such a node is written as begins with a bracket, where the texts that begin with one are
known to be escaped or not. -/
def OpensWith (style : Style) (isEscaped : List Char → Prop) (c : Char) : Node → Prop
  | .leaf (.text value) => value.toList.head? = some c ∧ ¬ isEscaped value.toList
  | .leaf (.html value) => value.toList.head? = some c
  | .branch (.link target) children => c = '[' ∧ target.isAutolink style children = false
  | .branch (.linkReference ..) _ => c = '['
  | _ => False

end Node

section layouts

open Render

variable {rules : List Rule} {state after : State} {site : Site} {inline : Inline}
  {value : List Char}

/-- A reference ends with a bracket and begins as it is opened. -/
theorem IsReference.getLast? {label opening : List Char} {form : ReferenceForm}
    (h : IsReference label opening form value) : value.getLast? = some ']' := by
  obtain ⟨text, behind, rfl, hcloses⟩ := h
  cases hcloses <;> simp [List.getLast?_append, List.getLast?_cons]

/-- A reference begins with what opens it. -/
theorem IsReference.head? {label opening : List Char} {form : ReferenceForm} {c : Char}
    (h : IsReference label (c :: opening) form value) : value.head? = some c := by
  obtain ⟨text, behind, rfl, -⟩ := h
  rfl

namespace Layout

/-- A resource is added behind what is written. -/
theorem head?_resource {quote c : Char} {target : Resource} {written : List Char}
    (h : resource rules quote target (c :: written) state = (.ok value, after)) :
    value.head? = some c := by
  obtain ⟨middle, _, hdestination, htitle⟩ := bind_eq_ok.mp h
  obtain ⟨rest, rfl⟩ := (prefix_of_destination hdestination).trans (prefix_of_title htitle)
  rfl

/-- A link begins with a bracket, and an autolink with an angle bracket. -/
theorem head?_link {target : Resource} {children : List Node}
    (h : link rules target children site inline state = (.ok value, after)) :
    value.head? = some (if target.isAutolink state.style children then '<' else '[') := by
  obtain ⟨quote, _, hquote, h⟩ := bind_eq_ok.mp h
  obtain ⟨-, rfl⟩ := ofStyle_eq_ok.mp hquote
  rw [bind_run_ok (get_run _)] at h
  split at h
  · next hautolink =>
      obtain ⟨_, h, -⟩ := isolated_eq_ok.mp h
      obtain ⟨_, h, -⟩ := entering_eq_ok.mp h
      obtain ⟨content, _, -, h⟩ := bind_eq_ok.mp h
      obtain ⟨rfl, -⟩ := pure_eq_ok.mp h
      rw [if_pos hautolink]
      rfl
  · next hresource =>
      obtain ⟨_, h, -⟩ := entering_eq_ok.mp h
      obtain ⟨content, _, -, h⟩ := bind_eq_ok.mp h
      obtain ⟨written, _, hwritten, h⟩ := bind_eq_ok.mp h
      obtain ⟨rfl, -⟩ := pure_eq_ok.mp h
      rw [if_neg hresource, List.head?_append, head?_resource hwritten]
      rfl

/-- Of the two brackets, a link begins with the square one unless it is an autolink. -/
theorem head?_link_eq_some_iff {target : Resource} {children : List Node} {c : Char}
    (hc : c ∈ ['[', '(']) (h : link rules target children site inline state = (.ok value, after)) :
    value.head? = some c ↔ c = '[' ∧ target.isAutolink state.style children = false := by
  rw [head?_link h]
  cases hautolink : target.isAutolink state.style children with
  | true =>
      have hangle : '<' ≠ c := by
        rintro rfl
        exact absurd hc (by simp)
      simp [hangle]
  | false => simp [eq_comm]

/-- An image begins with its exclamation mark. -/
theorem head?_image {target : Resource} {alt : List Char}
    (h : image rules target alt state = (.ok value, after)) :
    value.head? = some '!' := by
  obtain ⟨quote, _, -, h⟩ := bind_eq_ok.mp h
  obtain ⟨_, h, -⟩ := entering_eq_ok.mp h
  obtain ⟨escaped, _, -, h⟩ := bind_eq_ok.mp h
  obtain ⟨written, _, hwritten, h⟩ := bind_eq_ok.mp h
  obtain ⟨rfl, -⟩ := pure_eq_ok.mp h
  rw [List.head?_append, head?_resource hwritten]
  rfl

/-- What is written between markers stands between them. -/
theorem delimits_of_delimited {construct : Construct} {marker : List Char}
    (h : delimited construct marker site inline state = (.ok value, after)) :
    Delimits marker value := by
  obtain ⟨_, h, -⟩ := entering_eq_ok.mp h
  obtain ⟨content, _, -, h⟩ := bind_eq_ok.mp h
  obtain ⟨rfl, -⟩ := pure_eq_ok.mp h
  exact ⟨content, List.append_assoc ..⟩

/-- Emphasis is delimited by its marker. -/
theorem delimits_of_emphasis (h : emphasis site inline state = (.ok value, after)) :
    ∃ marker, state.style.emphasisMarker = .ok marker ∧ Delimits [marker] value := by
  obtain ⟨marker, _, hstyle, h⟩ := bind_eq_ok.mp h
  obtain ⟨hmarker, rfl⟩ := ofStyle_eq_ok.mp hstyle
  exact ⟨marker, hmarker, delimits_of_delimited h⟩

/-- Strong emphasis is delimited by its marker twice. -/
theorem delimits_of_strong (h : strong site inline state = (.ok value, after)) :
    ∃ marker, state.style.strongMarker = .ok marker ∧ Delimits [marker, marker] value := by
  obtain ⟨marker, _, hstyle, h⟩ := bind_eq_ok.mp h
  obtain ⟨hmarker, rfl⟩ := ofStyle_eq_ok.mp hstyle
  exact ⟨marker, hmarker, delimits_of_delimited h⟩

/-- A hard break is a backslash or a space, or nothing at all. -/
theorem head?_hardBreak (h : hardBreak rules site state = (.ok value, after)) :
    value.head? = some '\\' ∨ value.head? = some ' ' ∨ value.head? = none := by
  unfold hardBreak at h
  rw [bind_run_ok (get_run _)] at h
  split at h
  · obtain ⟨rfl, -⟩ := pure_eq_ok.mp h
    exact .inl rfl
  · split at h
    · obtain ⟨rfl, -⟩ := pure_eq_ok.mp h
      exact .inr (.inr rfl)
    · obtain ⟨rfl, -⟩ := pure_eq_ok.mp h
      exact .inr (.inl rfl)

end Layout

end layouts

section siblings

open Render

variable {writer : Writer} {node : Node} {parent : Option Node} {site : Site} {state after : State}
  {text : List Char} (hwriter : ∀ kind ∈ node.kind?, writer.LaysOut kind)

include hwriter

/-- Emphasis and code stand between their delimiter runs. -/
theorem Writer.exists_delimits (hnode : node.isDelimited = true)
    (h : writer.render node parent site state = (.ok text, after)) :
    ∃ c ∈ ['*', '_', '\x60'], node.delimiter? state.style = some c ∧
      Delimits (List.replicate node.delimiterLength c) text := by
  have hmarkers : ∀ c ∈ ['*', '_'], c ∈ ['*', '_', '\x60'] := by simp
  rcases Node.cases_of_isDelimited hnode with ⟨children, rfl⟩ | ⟨children, rfl⟩ | ⟨code, rfl⟩
  · rw [(hwriter _ rfl).render_eq_layout rfl] at h
    obtain ⟨marker, hmarker, hdelimits⟩ := Layout.delimits_of_emphasis h
    exact ⟨marker, hmarkers _ (Style.mem_of_accepted hmarker), toOption_eq_some_iff.mpr hmarker,
      hdelimits⟩
  · rw [(hwriter _ rfl).render_eq_layout rfl] at h
    obtain ⟨marker, hmarker, hdelimits⟩ := Layout.delimits_of_strong h
    exact ⟨marker, hmarkers _ (Style.mem_of_accepted hmarker), toOption_eq_some_iff.mpr hmarker,
      hdelimits⟩
  · rw [(hwriter _ rfl).render_eq_layout rfl] at h
    obtain ⟨rfl, -⟩ := pure_eq_ok.mp h
    exact ⟨'\x60', by decide, rfl, _, List.append_assoc ..⟩

/-- What a link reference is written as. -/
theorem Writer.exists_isReference_of_linkReference {association : Association}
    {form : ReferenceForm} {children : List Node}
    (hnode : node = .branch (.linkReference association form) children)
    (h : writer.render node parent site state = (.ok text, after)) :
    ∃ label, IsReference label ['['] form text := by
  subst hnode
  rw [(hwriter _ rfl).render_eq_layout rfl] at h
  have hlayout : Layout.linkReference writer.rules (association.text writer.references) form site
    (writer.inlines (.branch (.linkReference association form) children)) state =
      (.ok text, after) := h
  obtain ⟨context, hreference⟩ := Layout.isReference_of_linkReference hlayout
  exact ⟨_, hreference⟩

/-- A reference ends with a bracket. -/
theorem Writer.getLast?_of_isReference (hnode : node.isReference = true)
    (h : writer.render node parent site state = (.ok text, after)) : text.getLast? = some ']' := by
  unfold Node.isReference at hnode
  split at hnode
  · obtain ⟨label, hreference⟩ := writer.exists_isReference_of_linkReference hwriter rfl h
    exact hreference.getLast?
  · rw [(hwriter _ rfl).render_eq_layout rfl] at h
    obtain ⟨context, hreference⟩ := Layout.isReference_of_imageReference h
    exact hreference.getLast?
  · contradiction

/-- Emphasis and code begin with no bracket. -/
theorem Writer.exists_head?_of_isDelimited (hnode : node.isDelimited = true)
    (h : writer.render node parent site state = (.ok text, after)) : ∃ d ∉ ['[', '('],
      text.head? = some d := by
  have hbrackets : ∀ d ∈ ['*', '_', '\x60'], d ∉ ['[', '('] := by simp
  obtain ⟨d, hmem, -, inner, rfl⟩ := writer.exists_delimits hwriter hnode h
  refine ⟨d, hbrackets d hmem, ?_⟩
  rw [List.head?_append, List.head?_replicate, if_neg node.delimiterLength_ne_zero, Option.some_or]

/-- Inline content with characters is written as something, if no space or tab is in front of it. -/
theorem Writer.ne_nil_of_isInline (hnode : node.isInline = true) (hvoid : node.isVoid = false)
    (hbefore : ∀ c ∈ site.before, isSpacing c = false)
    (h : writer.render node parent site state = (.ok text, after)) : text ≠ [] := by
  cases node with
  | leaf content =>
      rw [(hwriter _ rfl).render_eq_layout rfl] at h
      intro hnil
      have hsilent : content.isSilent = true := (content.layout_eq_nil_iff hbefore h).mp hnil
      exact Bool.false_ne_true (hvoid.symm.trans hsilent)
  | branch content children =>
      cases content with
      | emphasis =>
          obtain ⟨d, -, -, inner, rfl⟩ := writer.exists_delimits hwriter rfl h
          exact List.append_ne_nil_of_left_ne_nil (by simp [Node.delimiterLength]) _
      | strong =>
          obtain ⟨d, -, -, inner, rfl⟩ := writer.exists_delimits hwriter rfl h
          exact List.append_ne_nil_of_left_ne_nil (by simp [Node.delimiterLength]) _
      | link target =>
          rw [(hwriter _ rfl).render_eq_layout rfl] at h
          exact Layout.link_ne_nil _ _ h
      | linkReference association form =>
          obtain ⟨label, inner, behind, rfl, -⟩ :=
            writer.exists_isReference_of_linkReference hwriter rfl h
          exact List.cons_ne_nil _ _
      | _ => contradiction

/-- How inline content begins. -/
theorem Writer.head?_eq_some_iff_opensWith (hnode : node.isInline = true)
    (h : writer.render node parent site state = (.ok text, after)) {c : Char}
    (hc : c ∈ ['[', '(']) :
    text.head? = some c ↔ node.OpensWith state.style (fun value =>
      EscapedAt writer.rules state.constructs value { before := site.before, after := site.after }
        0) c := by
  have hother : ∀ {d : Char}, d ∉ ['[', '('] → text.head? = some d → ¬ text.head? = some c := by
    rintro d hd hhead heq
    exact hd (Option.some.inj (hhead.symm.trans heq) ▸ hc)
  by_cases hdelimited : node.isDelimited = true
  · obtain ⟨d, hd, hhead⟩ := writer.exists_head?_of_isDelimited hwriter hdelimited h
    rcases Node.cases_of_isDelimited hdelimited with ⟨_, rfl⟩ | ⟨_, rfl⟩ | ⟨_, rfl⟩
    · exact iff_of_false (hother hd hhead) id
    · exact iff_of_false (hother hd hhead) id
    · exact iff_of_false (hother hd hhead) id
  cases node with
  | leaf content =>
      rw [(hwriter _ rfl).render_eq_layout rfl] at h
      cases content with
      | text value =>
          obtain ⟨rfl, -⟩ := literal_eq_ok.mp h
          have hrest : ∀ d ∈ ['[', '('], d ≠ '\\' ∧ d ≠ '&' := by simp
          exact head?_escapeLiteral_eq_some_iff (hrest c hc).1 (hrest c hc).2
      | html value =>
          obtain ⟨rfl, -⟩ := pure_eq_ok.mp h
          rfl
      | hardBreak =>
          rcases Layout.head?_hardBreak h with hhead | hhead | hhead
          · exact iff_of_false (hother (by decide) hhead) id
          · exact iff_of_false (hother (by decide) hhead) id
          · exact iff_of_false (by simp [hhead]) id
      | image target alt => exact iff_of_false (hother (by decide) (Layout.head?_image h)) id
      | imageReference association form alt =>
          obtain ⟨context, hreference⟩ := Layout.isReference_of_imageReference h
          exact iff_of_false (hother (by decide) hreference.head?) id
      | inlineCode value => exact absurd rfl hdelimited
      | _ => contradiction
  | branch content children =>
      cases content with
      | emphasis | strong => exact absurd rfl hdelimited
      | link target =>
          rw [(hwriter _ rfl).render_eq_layout rfl] at h
          exact Layout.head?_link_eq_some_iff hc h
      | linkReference association form =>
          obtain ⟨label, hreference⟩ := writer.exists_isReference_of_linkReference hwriter rfl h
          rw [hreference.head?]
          simp [Node.OpensWith, eq_comm]
      | _ => contradiction

end siblings

/-! ## What fuses -/

section fusing

variable {writer : Writer} {parent left right : Node} {site : Site} {state after : State}
  {value : List Char}
  {k m : Nat}

/-- Delimiter runs are made of visible characters, so they are kept. -/
theorem Writer.exists_delimits_of_spaced {node : Node} {text shown : List Char}
    {start behind : State} (hwriter : ∀ kind ∈ node.kind?, writer.LaysOut kind)
    (hnode : node.isDelimited = true)
    (hrender : writer.render node (some parent) site start = (.ok text, behind))
    (hshown : Spaced text shown) :
    ∃ c, node.delimiter? start.style = some c ∧
      Delimits (List.replicate node.delimiterLength c) shown := by
  have hvisible : ∀ c ∈ ['*', '_', '\x60'], isLineBreak c = false := by simp [isLineBreak]
  obtain ⟨c, hmem, hdelimiter, hdelimits⟩ := writer.exists_delimits hwriter hnode hrender
  obtain rfl := hshown.eq_of_delimits node.delimiterLength_ne_zero (hvisible c hmem) hdelimits
  exact ⟨c, hdelimiter, hdelimits⟩

/-- Where two delimited children meet. -/
theorem Writer.Meets.joins_iff {joint : Joint}
    (hmeets : writer.Meets parent state k m left right joint)
    (hwriter : ∀ kind ∈ left.kind?, writer.LaysOut kind)
    (hwriter' : ∀ kind ∈ right.kind?, writer.LaysOut kind)
    (hleft : left.isDelimited = true) (hright : right.isDelimited = true) :
    ∃ closing opening, left.delimiterRun? state.style = some closing ∧
      right.delimiterRun? state.style = some opening ∧ Delimits closing joint.first ∧
      Delimits opening joint.second ∧
      (Joins closing opening ↔ left.fusesWith state.style right = true) := by
  obtain ⟨text, place, start, behind, hstart, hrender, hshown⟩ := hmeets.left
  obtain ⟨text', start', behind', hstart', hrender', hshown'⟩ := hmeets.right
  obtain ⟨c, hc, hfirst⟩ := writer.exists_delimits_of_spaced hwriter hleft hrender hshown
  obtain ⟨d, hd, hsecond⟩ := writer.exists_delimits_of_spaced hwriter' hright hrender' hshown'
  rw [hstart.style] at hc
  rw [hstart'.style] at hd
  refine ⟨_, _, by rw [Node.delimiterRun?, hc, Option.map_some],
    by rw [Node.delimiterRun?, hd, Option.map_some], hfirst, hsecond, ?_⟩
  rw [joins_replicate_iff left.delimiterLength_ne_zero right.delimiterLength_ne_zero,
    Node.fusesWith_iff hleft hright hc hd]

/-- Only for text it matters what is escaped. -/
theorem Node.opensWith_congr {style : Style} {isEscaped isEscaped' : List Char → Prop} {c : Char}
    {node : Node} (h : ∀ text, text.head? = some c → (isEscaped text ↔ isEscaped' text)) :
    node.OpensWith style isEscaped c ↔ node.OpensWith style isEscaped' c := by
  unfold OpensWith
  split
  · exact and_congr_right fun hhead => not_congr (h _ hhead)
  · rfl
  · rfl
  · rfl
  · rfl

/-- Where a reference meets inline content with characters, what is emitted behind it begins as that
does, and the reference is told of by its bracket, if by anything. -/
theorem Writer.Meets.opensWith_iff {joint : Joint}
    (hmeets : writer.Meets parent state k m left right joint)
    (hwriter : ∀ kind ∈ left.kind?, writer.LaysOut kind)
    (hwriter' : ∀ kind ∈ right.kind?, writer.LaysOut kind)
    (hleft : left.isReference = true) (hright : right.isInline = true)
    (hvoid : right.isVoid = false) :
    joint.first.getLast? = some ']' ∧ joint.site.before = bracketBefore (m == k + 1) ∧
      ∀ c ∈ ['[', '('], (joint.second ++ joint.back).head? = some c ↔
        right.OpensWith state.style (fun text =>
          EscapedAt writer.rules state.constructs text
            { before := joint.site.before, after := joint.site.after } 0) c := by
  obtain ⟨text, place, start, behind, hstart, hrender, hshown⟩ := hmeets.left
  obtain ⟨text', start', behind', hstart', hrender', hshown'⟩ := hmeets.right
  have hlast := writer.getLast?_of_isReference hwriter hleft hrender
  have hbefore := hmeets.before
  rw [hshown.eq_of_getLast? hlast rfl] at hbefore ⊢
  rw [hlast] at hbefore
  have hbracket : joint.site.before = bracketBefore (m == k + 1) := by
    rw [hbefore, bracketBefore]
    exact if_congr beq_iff_eq.symm rfl rfl
  have hspacing : ∀ c ∈ joint.site.before, isSpacing c = false := by
    rw [hbefore]
    split <;> simp [isSpacing]
  have hvisible : ∀ c ∈ ['[', '('], isLineBreak c = false ∧ c ≠ ' ' := by simp [isLineBreak]
  refine ⟨hlast, hbracket, fun c hc => ?_⟩
  obtain ⟨hbreak, hspace⟩ := hvisible c hc
  rw [List.head?_append_of_ne_nil _ (hshown'.ne_nil
    (writer.ne_nil_of_isInline hwriter' hright hvoid hspacing hrender')),
    hshown'.head?_eq_some_iff hbreak hspace, ← hstart'.style, ← hstart'.constructs]
  exact writer.head?_eq_some_iff_opensWith hwriter' hright hrender' hc

/-- **Where siblings fuse.** Two children with nothing but children without characters between them
meet with nothing between them.

* If both are emphasis, strong emphasis or code, the delimiter run that closes the first joins the
  one that opens the second exactly if they are of one kind, or emphasis and strong emphasis with
  one marker.
* If the first is a reference and the second inline content with characters, the next character that
  is emitted behind the reference is a bracket exactly if the second is a link with its resource,
  another link reference, raw HTML that begins with that bracket, or text that does and is not
  escaped there. With the rules of Markdown it is escaped as the open constructs say, which depends
  on whether the second is written right behind the reference.
* If there are only children without characters behind the first, nothing is emitted behind it. -/
theorem Writer.siblings_fuse_iff (h : writer.inlines parent site state = (.ok value, after))
    (hlt : k < m) (hleft : parent.children[k]? = some left)
    (hright : parent.children[m]? = some right)
    (hwriter : ∀ kind ∈ left.kind?, writer.LaysOut kind)
    (hwriter' : ∀ kind ∈ right.kind?, writer.LaysOut kind)
    (hbetween : ∀ i node, k < i → i < m → parent.children[i]? = some node →
      node.isVoid = true ∧ ∀ kind ∈ node.kind?, writer.LaysOut kind) :
    ∃ joint : Joint, value = joint.text ∧ writer.Meets parent state k m left right joint ∧
      (left.isDelimited = true → right.isDelimited = true →
        ∃ closing opening, left.delimiterRun? state.style = some closing ∧
          right.delimiterRun? state.style = some opening ∧ Delimits closing joint.first ∧
          Delimits opening joint.second ∧
          (Joins closing opening ↔ left.fusesWith state.style right = true)) ∧
      (left.isReference = true → right.isInline = true → right.isVoid = false →
        joint.first.getLast? = some ']' ∧
        ∀ c ∈ ['[', '('],
          ((joint.second ++ joint.back).head? = some c ↔
            right.OpensWith state.style (fun text =>
              EscapedAt writer.rules state.constructs text
                { before := joint.site.before, after := joint.site.after } 0) c) ∧
          (writer.rules = Rule.defaults →
            ((joint.second ++ joint.back).head? = some c ↔
              right.OpensWith state.style
                (fun _ => escapesBracket state.constructs (m == k + 1) c = true) c))) ∧
      (right.isVoid = true →
        (∀ node ∈ parent.children.drop (m + 1),
          node.isVoid = true ∧ ∀ kind ∈ node.kind?, writer.LaysOut kind) →
        joint.second ++ joint.back = []) := by
  obtain ⟨joint, hvalue, hmeets, hback⟩ := exists_joint h hlt hleft hright hbetween
  refine ⟨joint, hvalue, hmeets, hmeets.joins_iff hwriter hwriter',
    fun hreference hinline hvoid => ?_, fun hvoid hvoids => ?_⟩
  · obtain ⟨hlast, hbefore, hopens⟩ :=
      hmeets.opensWith_iff hwriter hwriter' hreference hinline hvoid
    refine ⟨hlast, fun c hc => ⟨hopens c hc, fun hrules => ?_⟩⟩
    rw [hopens c hc, hrules]
    exact Node.opensWith_congr fun text hhead => escapedAt_bracket_iff hbefore hc hhead
  · obtain ⟨text, start, behind, -, hrender, hshown⟩ := hmeets.right
    rw [hshown.eq_nil (eq_nil_of_isVoid hwriter' hvoid hrender), hback hvoids, List.append_nil]

end fusing

/-- A reference that is written as its text alone. -/
def shortReference : Node :=
  .branch (.linkReference { identifier := "a" } .shortcut) [.leaf (.text "a")]

/-- Emphasis, code, a reference, text that begins with a bracket, and the reference once more with a
text behind it that an empty one keeps apart from it. -/
def separateSiblings : Node :=
  .branch .paragraph
    [.branch .emphasis [.leaf (.text "a")], .leaf (.inlineCode "b"), shortReference,
      .leaf (.text "(b)"), shortReference, .leaf (.text ""), .leaf (.text "[c")]

/-- Its emphasis and code do not join, and the brackets behind the references are escaped. -/
theorem siblings_fuse_separateSiblings :
    Writer.standard.inlines separateSiblings (Writer.blockSite {}) paragraphState =
        (.ok "*a*`b`[a]\\(b)[a]\\[c".toList, paragraphState) ∧
      (∃ joint : Joint, "*a*`b`[a]\\(b)[a]\\[c".toList = joint.text ∧
        Delimits ['*'] joint.first ∧ Delimits ['\x60'] joint.second ∧
        ¬ Joins ['*'] ['\x60']) ∧
      (∃ joint : Joint, "*a*`b`[a]\\(b)[a]\\[c".toList = joint.text ∧
        joint.first.getLast? = some ']' ∧
        ∀ c ∈ ['[', '('], (joint.second ++ joint.back).head? ≠ some c) ∧
      ∃ joint : Joint, "*a*`b`[a]\\(b)[a]\\[c".toList = joint.text ∧
        joint.first.getLast? = some ']' ∧
        ∀ c ∈ ['[', '('], (joint.second ++ joint.back).head? ≠ some c := by
  have hrun : Writer.standard.inlines separateSiblings (Writer.blockSite {}) paragraphState =
      (.ok "*a*`b`[a]\\(b)[a]\\[c".toList, paragraphState) := by
    change @Eq (Except RenderError (List Char) × State) _ _
    decide +kernel
  have hwriter : ∀ kind, Writer.standard.LaysOut kind := Writer.laysOut_of_defaults rfl
  have hadjacent : ∀ k i : Nat, ∀ node : Node, k < i → i < k + 1 →
      separateSiblings.children[i]? = some node → node.isVoid = true ∧ ∀ kind ∈ node.kind?,
        Writer.standard.LaysOut kind := by
    intro k i node hlt hle
    omega
  refine ⟨hrun, ?_, ?_, ?_⟩
  · obtain ⟨joint, htext, -, hruns, -⟩ :=
      @Writer.siblings_fuse_iff _ _ _ _ _ _ _ _ 0 1 hrun Nat.zero_lt_one rfl rfl
      (fun kind _ => hwriter kind) (fun kind _ => hwriter kind) (hadjacent 0)
    obtain ⟨closing, opening, hclosing, hopening, hfirst, hsecond, hjoins⟩ := hruns rfl rfl
    obtain rfl : ['*'] = closing := Option.some.inj hclosing
    obtain rfl : ['\x60'] = opening := Option.some.inj hopening
    exact ⟨joint, htext, hfirst, hsecond, fun hjoined => absurd (hjoins.mp hjoined) (by decide)⟩
  · obtain ⟨joint, htext, -, -, hbrackets, -⟩ :=
      @Writer.siblings_fuse_iff _ _ _ _ _ _ _ _ 2 3 hrun (Nat.lt_succ_self 2)
      rfl rfl (fun kind _ => hwriter kind) (fun kind _ => hwriter kind) (hadjacent 2)
    obtain ⟨hlast, hopens⟩ := hbrackets rfl rfl rfl
    refine ⟨joint, htext, hlast, fun c hc hhead => ?_⟩
    have hopen := ((hopens c hc).2 rfl).mp hhead
    rcases (by simpa using hc : c = '[' ∨ c = '(') with rfl | rfl
    · exact absurd hopen.1 (by decide)
    · exact hopen.2 rfl
  · have hbetween : ∀ i node, 4 < i → i < 6 → separateSiblings.children[i]? = some node →
        node.isVoid = true ∧ ∀ kind ∈ node.kind?, Writer.standard.LaysOut kind := by
      intro i node hlt hle hnode
      obtain rfl : i = 5 := by omega
      obtain rfl : (.leaf (.text "") : Node) = node := Option.some.inj hnode
      exact ⟨rfl, fun kind _ => hwriter kind⟩
    obtain ⟨joint, htext, -, -, hbrackets, -⟩ :=
      @Writer.siblings_fuse_iff _ _ _ _ _ _ _ _ 4 6 hrun (by decide) rfl rfl
      (fun kind _ => hwriter kind) (fun kind _ => hwriter kind) hbetween
    obtain ⟨hlast, hopens⟩ := hbrackets rfl rfl rfl
    refine ⟨joint, htext, hlast, fun c hc hhead => ?_⟩
    have hopen := ((hopens c hc).2 rfl).mp hhead
    rcases (by simpa using hc : c = '[' ∨ c = '(') with rfl | rfl
    · exact hopen.2 rfl
    · exact absurd hopen.1 (by decide)

/-- Two emphases. -/
def adjacentEmphases : Node :=
  .branch .paragraph [.branch .emphasis [.leaf (.text "a")], .branch .emphasis [.leaf (.text "b")]]

/-- **Siblings that fuse.** The delimiter runs of two emphases become one. A link behind a reference
becomes the label of that, and text in parentheses becomes its destination: in the label of a link,
and behind an empty text. -/
theorem not_forall_apart :
    (¬ ∀ (parent left right : Node) (site : Site) (state after : State) (value : List Char)
      (k : Nat), Writer.standard.inlines parent site state = (.ok value, after) →
        parent.children[k]? = some left → parent.children[k + 1]? = some right →
          left.isDelimited = true → right.isDelimited = true →
            ∀ closing opening, left.delimiterRun? state.style = some closing →
              right.delimiterRun? state.style = some opening → ¬ Joins closing opening) ∧
      toMarkdown (.node {} []) adjacentEmphases = .ok "*a**b*\n" ∧
      toMarkdown (.node {} []) (.branch .paragraph
        [shortReference, .branch (.link { url := "c" }) [.leaf (.text "b")]]) = .ok "[a][b](c)\n" ∧
      toMarkdown (.node {} []) (.branch .paragraph
        [.branch (.link { url := "c" }) [shortReference, .leaf (.text "(b)")]]) =
          .ok "[[a](b)](c)\n" ∧
      toMarkdown (.node {} []) (.branch .paragraph [shortReference, .leaf (.text ""),
        .leaf (.text "(b)")]) = .ok "[a](b)\n" := by
  refine ⟨fun hclaim => ?_, by decide +kernel, by decide +kernel, by decide +kernel,
    by decide +kernel⟩
  have hrun : Writer.standard.inlines adjacentEmphases (Writer.blockSite {}) paragraphState =
      (.ok "*a**b*".toList, paragraphState) := by
    change @Eq (Except RenderError (List Char) × State) _ _
    decide +kernel
  refine hclaim _ _ _ _ _ _ _ 0 hrun rfl rfl rfl rfl ['*'] ['*'] rfl rfl ⟨'*', ?_⟩
  simp

end MarkdownWriter
