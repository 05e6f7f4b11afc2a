import MarkdownWriter.Proofs.Text.Rows

/-!
# Lines that are rewritten one by one

What is put in front of every line of a text stands in front of the same lines when the result is
cut again: a map that writes no line breaks keeps the line endings as they are
(`Lines.ofText_mapLines`). It must not empty a line either, because a `\r` before an empty line that
ends in `\n` would become one ending with it. `Lines.Keeps` is both conditions.

A text is cut from its front, character by character, and so are the proofs: an opened line
(`Lines.mapIdx_openLine`) and a character put in front of the first line (`Lines.mapIdx_push`) are
rewritten as the map says, with the index moved by one behind an opened line (`Lines.Keeps.shift`).
`Lines.ofText_append` and `Lines.ofText_append_lineFeed` say where a text put together from two is
cut.
-/

namespace MarkdownWriter.Text

namespace Lines

/-- A text without line breaks, then a line ending, then another text. -/
theorem ofText_append {line : List Char} (hline : ∀ c ∈ line, isLineBreak c = false)
    (text : List Char) :
    ofText (line ++ text) = { ofText text with first := line ++ (ofText text).first } := by
  induction line with
  | nil => rfl
  | cons c line ih =>
      have hc := hline c List.mem_cons_self
      have hcr : c ≠ '\r' := by rintro rfl; contradiction
      have hlf : c ≠ '\n' := by rintro rfl; contradiction
      rw [List.cons_append, ofText.eq_3 _ _ (fun _ h => absurd h hcr), if_neg hcr, if_neg hlf,
        ih fun d hd => hline d (List.mem_cons_of_mem _ hd)]
      rfl

/-- A line ending at the front of a text ends an empty line, unless it is half of one. -/
theorem ofText_lineEnding {ending : LineEnding} {text : List Char}
    (h : ending = .cr → text.head? ≠ some '\n') :
    ofText (ending.toText ++ text) = (ofText text).openLine ending := by
  cases ending with
  | lf => rfl
  | crlf => rfl
  | cr =>
      have hnext : ∀ rest, text ≠ '\n' :: rest := by
        rintro rest rfl
        exact h rfl rfl
      rw [LineEnding.toText, List.singleton_append, ofText.eq_3 _ _ fun rest _ => hnext rest,
        if_pos rfl]

/-- The first line has no line breaks in it. -/
theorem isLineBreak_of_mem_first {text : List Char} :
    ∀ c ∈ (ofText text).first, isLineBreak c = false := by
  fun_induction ofText text with
  | case1 => simp
  | case2 text ih => simp [openLine]
  | case3 text _ ih => simp [openLine]
  | case4 text _ _ ih => simp [openLine]
  | case5 c text _ hcr hlf ih =>
      intro d hd
      rcases List.mem_cons.mp hd with rfl | hd
      · simp [isLineBreak, hcr, hlf]
      · exact ih d hd

/-- A line feed ends the last line of a text, unless it completes the ending of that line. -/
theorem ofText_append_lineFeed {text : List Char} (h : text.getLast? ≠ some '\r')
    (more : List Char) :
    ofText (text ++ '\n' :: more) =
      ⟨(ofText text).first,
        (ofText text).rest ++ (.lf, (ofText more).first) :: (ofText more).rest⟩ := by
  have hnext : ∀ {c : Char} {text : List Char}, (c :: text).getLast? ≠ some '\r' →
      text.getLast? ≠ some '\r' := by
    intro c text h
    rcases text with _ | ⟨d, text⟩
    · simp
    · exact h
  fun_induction ofText text with
  | case1 => rfl
  | case2 text ih =>
      rw [List.cons_append, List.cons_append, ofText, ih (hnext (hnext h))]
      rfl
  | case3 text hlf ih =>
      have hne : text ≠ [] := by
        rintro rfl
        exact h rfl
      have hhead : ∀ rest, text ++ '\n' :: more ≠ '\n' :: rest := by
        obtain ⟨d, text, rfl⟩ := List.exists_cons_of_ne_nil hne
        rintro rest heq
        obtain rfl := (List.cons.inj heq).1
        exact hlf text rfl rfl
      rw [List.cons_append, ofText.eq_3 _ _ fun rest _ => hhead rest, if_pos rfl, ih (hnext h)]
      rfl
  | case4 text hlf _ ih =>
      rw [List.cons_append, ofText.eq_3 _ _ (by simp), if_neg (by decide), if_pos rfl, ih (hnext h)]
      rfl
  | case5 c text _ hcr hlf ih =>
      rw [List.cons_append, ofText.eq_3 _ _ (fun _ heq => absurd heq hcr), if_neg hcr, if_neg hlf,
        ih (hnext h)]
      rfl

/-- Every line of a text is a part of it. -/
theorem infix_of_mem_lines {text line : List Char}
    (h : line = (ofText text).first ∨ line ∈ (ofText text).rest.map Prod.snd) : line <:+: text := by
  rw [← toText_ofText text]
  unfold toText
  rcases h with rfl | h
  · exact (List.prefix_append _ _).isInfix
  · obtain ⟨⟨ending, line⟩, hmem, rfl⟩ := List.mem_map.mp h
    obtain ⟨front, back, hrest⟩ := List.append_of_mem hmem
    rw [hrest]
    exact ⟨(ofText text).first ++ front.flatMap (fun next => next.1.toText ++ next.2) ++
      ending.toText, back.flatMap fun next => next.1.toText ++ next.2, by simp⟩

/-- An opened line is rewritten as the first one, and every other line as the one behind its own. -/
theorem mapIdx_openLine (f : Nat → List Char → List Char) (ending : LineEnding) (lines : Lines) :
    (lines.openLine ending).mapIdx f =
      { (lines.mapIdx fun i => f (i + 1)).openLine ending with first := f 0 [] } := by
  simp [mapIdx, openLine, List.mapIdx_cons]

theorem mapIdx_push (f : Nat → List Char → List Char) (c : Char) (lines : Lines) :
    (lines.push c).mapIdx f = lines.mapIdx fun i line => if i = 0 then f 0
      (c :: line) else f i line := by
  simp [mapIdx, push]

theorem toText_openLine_first (line : List Char) (ending : LineEnding) (lines : Lines) :
    Lines.toText { lines.openLine ending with first := line } =
      line ++ (ending.toText ++ lines.toText) := by
  simp [toText, openLine]

/-- A map of lines that writes no line breaks and empties no line. -/
structure Keeps (f : Nat → List Char → List Char) : Prop where
  free : ∀ i line, (∀ c ∈ line, isLineBreak c = false) → ∀ c ∈ f i line, isLineBreak c = false
  eq_nil : ∀ i line, f i line = [] → line = []

namespace Keeps

variable {f : Nat → List Char → List Char}

theorem shift (hf : Keeps f) : Keeps fun i => f (i + 1) :=
  ⟨fun i => hf.free (i + 1), fun i => hf.eq_nil (i + 1)⟩

theorem push (hf : Keeps f) {c : Char} (hc : isLineBreak c = false) :
    Keeps fun i line => if i = 0 then f 0 (c :: line) else f i line where
  free := fun i line hline => by
    split
    · exact hf.free 0 _ (List.forall_mem_cons.mpr ⟨hc, hline⟩)
    · exact hf.free i _ hline
  eq_nil := fun i line h => by
    split at h
    · exact absurd (hf.eq_nil 0 _ h) (List.cons_ne_nil c line)
    · exact hf.eq_nil i _ h

end Keeps

/-- A line ending does not come to the front when lines are rewritten. -/
theorem head?_toText_mapIdx {f : Nat → List Char → List Char} (hf : Keeps f) {text : List Char}
    (h : ((ofText text).mapIdx f).toText.head? = some '\n') : text.head? = some '\n' := by
  have hfree := hf.free 0 _ (@isLineBreak_of_mem_first text)
  unfold mapIdx toText at h
  rcases hfirst : f 0 (ofText text).first with _ | ⟨c, line⟩
  · have hnil := hf.eq_nil 0 _ hfirst
    rw [← toText_ofText text, toText, hnil]
    rw [hfirst] at h
    cases hrest : (ofText text).rest with
    | nil => simp [hrest] at h
    | cons next rest => cases hending : next.1 <;> simp_all [LineEnding.toText, List.mapIdx_cons]
  · rw [hfirst] at h hfree
    obtain rfl : c = '\n' := by simpa using h
    exact absurd (hfree '\n' List.mem_cons_self) (by decide)

/-- **Lines are rewritten one by one.** Cut again, the result of a map of lines is what the map
makes of each line. -/
theorem ofText_mapLines {f : Nat → List Char → List Char} (hf : Keeps f) (text : List Char) :
    ofText (mapLines f text) = (ofText text).mapIdx f := by
  unfold mapLines
  -- What is put into the first line before a line ending is free of line breaks, and the lines
  -- behind it are counted from one, so the induction is for all maps.
  have hopen {g : Nat → List Char → List Char} (hg : Keeps g) {ending : LineEnding}
      {text : List Char}
      (ih : ofText ((ofText text).mapIdx fun i => g (i + 1)).toText = (ofText text).mapIdx fun i =>
        g (i + 1))
      (hnext : ending = .cr → text.head? ≠ some '\n') :
      ofText (((ofText text).openLine ending).mapIdx g).toText =
        ((ofText text).openLine ending).mapIdx g := by
    have hhead : ending = .cr →
        ((ofText text).mapIdx fun i => g (i + 1)).toText.head? ≠ some '\n' :=
      fun hcr hlf => hnext hcr (head?_toText_mapIdx hg.shift hlf)
    rw [mapIdx_openLine, toText_openLine_first, ofText_append (hg.free 0 [] (by simp)),
      ofText_lineEnding hhead, ih]
    simp [openLine]
  fun_induction ofText text generalizing f with
  | case1 =>
      have h := ofText_append (hf.free 0 [] (by simp)) []
      simpa [mapIdx, toText, ofText] using h
  | case2 text ih => exact hopen hf (ih hf.shift) (by simp)
  | case3 text hnext ih =>
      refine hopen hf (ih hf.shift) fun _ hlf => ?_
      obtain ⟨rest, rfl⟩ := List.head?_eq_some_iff.mp hlf
      exact hnext rest rfl rfl
  | case4 text _ _ ih => exact hopen hf (ih hf.shift) (by simp)
  | case5 c text _ hcr hlf ih =>
      have hc : isLineBreak c = false := by simp [isLineBreak, hcr, hlf]
      rw [mapIdx_push]
      exact ih (hf.push hc)

end Lines

end MarkdownWriter.Text
