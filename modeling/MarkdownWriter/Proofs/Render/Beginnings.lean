import MarkdownWriter.Proofs.Render.Siblings

/-!
# What is known of a node before it is written

Most inline content is written behind an opening mark, which its kind knows from the node and the
style (`Kind.opensWithMark`). What is escaped in front of such a node relies on that mark, and so
the two have to agree: the mark that is told is the first character that is written
(`Writer.exists_peek_and_head?_renderAs`).

* **Layouts** (`Node.exists_peek_and_head?_layout`): the layout of a node of such a kind begins with
  the mark whatever comes of its children. A delimiter is as long as its contents require, but never
  empty (`Delimits.head?_eq_marker`, `Layout.head?_codeSpan`).
* **Links**: telling and writing both ask whether the link is an autolink, and in the same way.

Raw HTML is left out. It is said to begin with `<`, but it is written as it is, whatever it begins
with.
-/

namespace MarkdownWriter

open Render Text

/-- The kinds whose nodes are written behind a mark of their own. -/
def Kind.opensWithMark : Kind → Bool
  | .emphasis | .strong | .inlineCode | .link | .image | .linkReference | .imageReference => true
  | _ => false

/-! ## Layouts -/

/-- What stands between runs of the marker of a style begins with that marker. -/
theorem Delimits.head?_eq_marker {check : Style → Except StyleError Char} {style : Style}
    {marker : Char} {run : Char → List Char} {text : List Char} (hmarker : check style = .ok marker)
    (h : ∃ written, check style = .ok written ∧ Delimits (written :: run written) text) :
    text.head? = some marker := by
  obtain ⟨written, hwritten, inner, rfl⟩ := h
  obtain rfl := Except.ok.inj (hmarker.symm.trans hwritten)
  rfl

/-- A code span has a fence, whatever is in it. -/
theorem Layout.head?_codeSpan (rules : List Rule) (value : List Char) :
    (codeSpan rules value).head? = some '\x60' := by
  have hfence : shortestMissingRun '\x60' value ≠ 0 :=
    Nat.ne_of_gt (shortestMissingRun_spec '\x60' value).1
  unfold codeSpan
  rw [List.append_assoc, List.head?_append, List.head?_replicate, if_neg hfence, Option.some_or]

/-- The mark that a node is known to open with is the first character of its layout, whatever comes
of its children. -/
theorem Node.exists_peek_and_head?_layout {node : Node} {kind : Kind}
    (hkind : kind.opensWithMark = true) (hnode : node.kind? = some kind) {style : Style}
    (hstyle : style.Provides) :
    ∃ c, kind.peek node style = .ok (some c) ∧
      ∀ {rules parent site blocks inline state after text}, state.style = style →
        node.layout references rules parent site blocks inline state = (.ok text, after) →
        text.head? = some c := by
  cases node with
  | leaf content =>
      obtain rfl := Option.some.inj hnode
      cases content with
      | inlineCode value =>
          refine ⟨'\x60', rfl, fun _ h => ?_⟩
          obtain ⟨rfl, -⟩ := pure_eq_ok.mp h
          exact Layout.head?_codeSpan _ _
      | image target alt => exact ⟨'!', rfl, fun _ h => Layout.head?_image h⟩
      | imageReference association form alt =>
          refine ⟨'!', rfl, fun _ h => ?_⟩
          obtain ⟨context, hreference⟩ := Layout.isReference_of_imageReference h
          exact hreference.head?
      | _ => contradiction
  | branch content children =>
      cases content with
      | emphasis =>
          obtain rfl := Option.some.inj hnode
          obtain ⟨marker, hmarker⟩ := hstyle.emphasis
          exact ⟨marker, congrArg (some <$> ·) hmarker, fun hstate h =>
            Delimits.head?_eq_marker (hstate ▸ hmarker) (Layout.delimits_of_emphasis h)⟩
      | strong =>
          obtain rfl := Option.some.inj hnode
          obtain ⟨marker, hmarker⟩ := hstyle.strong
          exact ⟨marker, congrArg (some <$> ·) hmarker, fun hstate h =>
            Delimits.head?_eq_marker (hstate ▸ hmarker) (Layout.delimits_of_strong h)⟩
      | link target =>
          obtain rfl := Option.some.inj hnode
          refine ⟨_, rfl, fun hstate h => ?_⟩
          rw [Layout.head?_link h, hstate]
      | linkReference association form =>
          obtain rfl := Option.some.inj hnode
          refine ⟨'[', rfl, fun _ h => ?_⟩
          obtain ⟨context, hreference⟩ := Layout.isReference_of_linkReference h
          exact hreference.head?
      | custom name value => contradiction
      | _ =>
          obtain rfl := Option.some.inj hnode
          contradiction

/-! ## Nodes -/

/-- **What is told is what is written.** With an accepted style the kinds of emphasis, code, links,
images and references tell a first character for every node of theirs, and whenever the node is
written, with whatever handlers and rules, in whatever state with that style and between whatever
neighbours, its text begins with that character. -/
theorem Writer.exists_peek_and_head?_renderAs (writer : Writer) {kind : Kind}
    (hkind : kind.opensWithMark = true) {node : Node} (hnode : node.kind? = some kind)
    {style : Style} (hstyle : style.validate = .ok ()) :
    ∃ c, kind.peek node style = .ok (some c) ∧
      ∀ {parent site state after text}, state.style = style →
        writer.renderAs kind node parent site state = (.ok text, after) → text.head? = some c := by
  obtain ⟨c, hpeek, hhead⟩ :=
    Node.exists_peek_and_head?_layout hkind hnode (Style.provides_of_validate hstyle)
  refine ⟨c, hpeek, fun {parent site state after text} hstate h => ?_⟩
  rw [renderAs_eq_layout hnode] at h
  exact hhead hstate h

/-- Strong emphasis around an autolink and a code span with a backtick in it. -/
def linkedStrong : Node :=
  .branch .strong [.branch (.link { url := "mailto:a@b.c" }) [.leaf (.text "a@b.c")],
    .leaf (.inlineCode "\x60")]

/-- Strong emphasis is told by the chosen marker, and is written with it. -/
theorem head?_renderAs_linkedStrong :
    Kind.opensWithMark .strong = true ∧ linkedStrong.kind? = some .strong ∧
      Style.validate { strong := some '_' } = .ok () ∧
      Kind.peek .strong linkedStrong { strong := some '_' } = .ok (some '_') ∧
      ∃ text, (Writer.standard.renderAs .strong linkedStrong none (Writer.blockSite {})
        { style := { strong := some '_' } }).1 = .ok text ∧ text.head? = some '_' := by
  obtain ⟨c, hpeek, hhead⟩ :=
    @Writer.exists_peek_and_head?_renderAs Writer.standard .strong rfl linkedStrong rfl
      { strong := some '_' } rfl
  obtain rfl : c = '_' := Option.some.inj (Except.ok.inj hpeek).symm
  have hrun : (Writer.standard.renderAs .strong linkedStrong none (Writer.blockSite {})
      { style := { strong := some '_' } }).1 = .ok "__<a@b.c>\x60\x60 \x60 \x60\x60__".toList := by
    decide +kernel
  exact ⟨rfl, rfl, rfl, hpeek, _, hrun, hhead rfl (Prod.ext hrun rfl)⟩

end MarkdownWriter
