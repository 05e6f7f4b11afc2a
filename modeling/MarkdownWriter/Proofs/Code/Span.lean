import MarkdownWriter.Proofs.Code.Blanking
import MarkdownWriter.Proofs.Text.Runs

/-!
# Code spans read back

A code span is delimited by two runs of backticks of one length, none in between having that length.
Its contents are read with a space for every line ending, and then lose a space at both ends unless
they are nothing but spaces (`readCodeSpan`).

Written with Markdown's own rules a value comes back with its line endings read as spaces
(`readCodeSpan_codeSpan`):

* **Padding** is what a reader takes off (`stripSpan_spaced_paddedSpan`), and it is no backtick, so
  it leaves the runs as they are (`runs_paddedSpan`).
* **The passes** over the contents replace line endings in front of markers. That keeps the runs of
  backticks and the lines in a row (`Blanks.runs_eq`, `Blanks.spaced_eq`), so all of it is an
  invariant of one step (`KeepsClear`, `blankedBy_paddedSpan`).
* **The end** of the contents is found at the closing run (`untilRun_append_fence`), because no run
  in them has the length of the fence.
-/

namespace MarkdownWriter

open Text Layout

/-! ## Reading -/

/-- A code span as it is read, with what follows it. -/
structure CodeSpan where
  /-- The number of backticks on either side. -/
  fence : Nat
  content : List Char
  rest : List Char
  deriving DecidableEq, Repr

/-- The text up to the next maximal run of `n` backticks, and what follows that run. It matters
whether the character before the text is a backtick, since then a run at the front of it is only a
part of one. -/
def untilRun (n : Nat) (inRun : Bool) : List Char → Option (List Char × List Char)
  | [] => none
  | c :: text =>
      if c = '\x60' ∧ inRun = false ∧ ((c :: text).takeWhile (· == '\x60')).length = n then
        some ([], (c :: text).dropWhile (· == '\x60'))
      else (untilRun n (c == '\x60') text).map fun (content, rest) => (c :: content, rest)

/-- A text without a space at both ends, if there is one and there is more than spaces. -/
def stripSpan (text : List Char) : List Char :=
  if text.head? = some ' ' ∧ text.getLast? = some ' ' ∧ text.any (· != ' ') = true then
    text.tail.dropLast
  else text

/-- Read the code span that a text begins with. -/
def readCodeSpan (text : List Char) : Option CodeSpan :=
  match (text.takeWhile (· == '\x60')).length with
  | 0 => none
  | fence + 1 =>
      (untilRun (fence + 1) false (text.dropWhile (· == '\x60'))).map fun (content, rest) =>
        ⟨fence + 1, stripSpan (spaced content), rest⟩

/-! ## Delimiters -/

/-- A run ends within a text that does not end with a backtick. -/
theorem takeWhile_append_of_getLast? {text : List Char} (hne : text ≠ [])
    (hlast : text.getLast? ≠ some '\x60') (more : List Char) :
    (text ++ more).takeWhile (· == '\x60') = text.takeWhile (· == '\x60') := by
  obtain ⟨front, c, rfl⟩ := (List.eq_nil_or_concat text).resolve_left hne
  rw [List.concat_eq_append] at hlast ⊢
  have hc : c ≠ '\x60' := by
    rintro rfl
    exact hlast List.getLast?_concat
  have hcons := @takeWhile_append_cons _ (· == '\x60') c (by simpa using hc) front
  rw [List.append_assoc, List.singleton_append, hcons, hcons]

/-- Contents without a run of the length of the fence, and without a backtick at their end, go up to
the fence. -/
theorem untilRun_append_fence {n : Nat} (hn : 0 < n) {content : List Char} {inRun : Bool}
    (hlast : content.getLast? ≠ some '\x60') (hne : inRun = true → content ≠ [])
    (hruns : n ∉ runs '\x60' (if inRun = true then content.dropWhile (· == '\x60') else content)) :
    untilRun n inRun (content ++ List.replicate n '\x60') = some (content, []) := by
  induction content generalizing inRun with
  | nil =>
      obtain ⟨m, rfl⟩ := Nat.exists_eq_succ_of_ne_zero (Nat.ne_of_gt hn)
      obtain rfl : inRun = false := by simpa using hne
      simp [untilRun, List.replicate_succ]
  | cons c content ih =>
      have hown :=
        takeWhile_append_of_getLast? (List.cons_ne_nil c content) hlast (List.replicate n '\x60')
      rw [List.cons_append] at hown
      have hrest : content.getLast? ≠ some '\x60' := by
        cases content with
        | nil => simp
        | cons d content => exact hlast
      rw [List.cons_append, untilRun, hown]
      by_cases hc : c = '\x60'
      · subst hc
        have hmore : content ≠ [] := by
          rintro rfl
          exact hlast rfl
        have hbehind : n ∉ runs '\x60' (content.dropWhile (· == '\x60')) ∧
            ¬ (inRun = false ∧ (('\x60' :: content).takeWhile (· == '\x60')).length = n) := by
          cases inRun with
          | true => exact ⟨hruns, by simp⟩
          | false =>
              rw [if_neg Bool.false_ne_true, runs_eq_cons, List.mem_cons, not_or] at hruns
              exact ⟨hruns.2, fun h => hruns.1 h.2.symm⟩
        have hcontent := @ih true hrest (fun _ => hmore) hbehind.1
        rw [if_neg fun h => hbehind.2 h.2, beq_self_eq_true, hcontent]
        rfl
      · have hfree : n ∉ runs '\x60' content := by
          rw [List.dropWhile_cons_of_neg (by simpa using hc), ite_self, runs_cons_of_ne hc] at hruns
          exact hruns
        have hcontent := @ih false hrest (fun h => absurd h Bool.false_ne_true) hfree
        rw [if_neg fun h => hc h.1, beq_false_of_ne hc, hcontent]
        rfl

/-! ## Contents -/

/-- What is not a space or a part of a line ending is not lost, and nothing else is more than a
space. -/
theorem any_spaced (text : List Char) :
    (spaced text).any (· != ' ') = text.any (!isSpanEdge ·) := by
  unfold spaced
  fun_induction Lines.ofText text with
  | case1 => rfl
  | case2 text ih => simp [ih, isSpanEdge, isLineBreak]
  | case3 text _ ih => simp [ih, isSpanEdge, isLineBreak]
  | case4 text _ _ ih => simp [ih, isSpanEdge, isLineBreak]
  | case5 c text _ hcr hlf ih =>
      have hc : (c != ' ') = !isSpanEdge c := by simp [isSpanEdge, isLineBreak, hcr, hlf, bne]
      rw [Lines.inRow_push, List.any_cons, List.any_cons, ih, hc]

theorem isSpanEdge_of_head?_spaced {text : List Char} (h : (spaced text).head? = some ' ') :
    text.head?.any isSpanEdge = true := by
  cases text with
  | nil => contradiction
  | cons c text =>
      by_cases hc : isLineBreak c = true
      · simp [isSpanEdge, hc]
      · rw [spaced_cons (by simpa using hc), List.head?_cons] at h
        simp [isSpanEdge, Option.some.inj h]

theorem isSpanEdge_of_getLast?_spaced {text : List Char} (h : (spaced text).getLast? = some ' ') :
    text.getLast?.any isSpanEdge = true := by
  rcases List.eq_nil_or_concat text with rfl | ⟨front, c, rfl⟩
  · contradiction
  · rw [List.concat_eq_append] at h ⊢
    by_cases hc : isLineBreak c = true
    · simp [isSpanEdge, hc]
    · have hlf : [c].head? ≠ some '\n' := by
        rintro heq
        rw [List.head?_singleton, Option.some_inj] at heq
        rw [heq] at hc
        contradiction
      rw [spaced_append fun _ => hlf, spaced_cons (by simpa using hc), spaced_nil,
        List.getLast?_concat] at h
      simp [isSpanEdge, Option.some.inj h]

/-- **Padding is stripped.** What a value is padded with is what a reader takes off, and nothing is
taken off a value that is not padded. -/
theorem stripSpan_spaced_paddedSpan (value : List Char) :
    stripSpan (spaced (paddedSpan value)) = spaced value := by
  unfold paddedSpan
  dsimp only
  split
  · next hpad =>
      have hfill := (Bool.and_eq_true_iff.mp hpad).1
      rw [List.cons_append, spaced_cons rfl, spaced_append (by simp), spaced_cons rfl, spaced_nil]
      unfold stripSpan
      rw [if_pos]
      · rw [List.tail_cons, List.dropLast_concat]
      · refine ⟨rfl, ?_, ?_⟩
        · rw [← List.cons_append, List.getLast?_concat]
        · simp [any_spaced, hfill]
  · next hpad =>
      unfold stripSpan
      rw [if_neg]
      rintro ⟨hhead, hlast, hany⟩
      rw [any_spaced] at hany
      rw [hany, isSpanEdge_of_head?_spaced hhead, isSpanEdge_of_getLast?_spaced hlast] at hpad
      simp at hpad

/-- Padding is no backtick, and parts no runs. -/
theorem runs_paddedSpan (value : List Char) :
    runs '\x60' (paddedSpan value) = runs '\x60' value := by
  unfold paddedSpan
  dsimp only
  split
  · rw [List.cons_append, runs_cons_of_ne (by decide), runs_append_cons (by decide)]
    exact List.append_nil _
  · rfl

/-- The contents of a code span keep clear of the fences. -/
def KeepsClear (content : List Char) : Prop :=
  content ≠ [] ∧ content.head? ≠ some '\x60' ∧ content.getLast? ≠ some '\x60'

/-- A padded value is clear of the backticks around it. -/
theorem keepsClear_paddedSpan {value : List Char} (hvalue : value ≠ []) :
    KeepsClear (paddedSpan value) := by
  unfold paddedSpan
  dsimp only
  split
  · refine ⟨List.cons_ne_nil _ _, by simp, ?_⟩
    rw [List.getLast?_concat]
    decide
  · next hpad =>
      -- a backtick at an end would be content enough to be padded
      have hfill : ∀ c ∈ value, c = '\x60' → value.any (!isSpanEdge ·) = true := by
        rintro c hc rfl
        exact List.any_eq_true.mpr ⟨'\x60', hc, rfl⟩
      refine ⟨hvalue, fun hhead => ?_, fun hlast => ?_⟩
      · rw [hfill _ (List.mem_of_head? hhead) rfl, hhead] at hpad
        simp at hpad
      · rw [hfill _ (List.mem_of_getLast? hlast) rfl, hlast] at hpad
        simp at hpad

/-! ## Passes -/

namespace LineRule.Blanks

variable {line : LineRule} {text text' : List Char}

/-- A line ending is read as a space anyway. -/
theorem spaced_eq (hline : line ∈ lineRules) (h : line.Blanks text text') :
    spaced text' = spaced text := by
  obtain ⟨above, ending, front, back, hwhole, hfronts⟩ := h
  have hhead : (front ++ line.character :: back).head? ≠ some '\n' := by
    intro hlf
    have hmem : '\n' ∈ front ++ [line.character] := by
      cases front with
      | nil => exact List.mem_singleton.mpr (Option.some.inj hlf).symm
      | cons c front => exact List.mem_cons.mpr (.inl (Option.some.inj hlf).symm)
    rcases List.mem_append.mp hmem with hfront | hcharacter
    · exact absurd (hfronts.isLineBreak_eq_false _ hfront) (by decide)
    · have hbreak := (character_of_mem_lineRules line hline).1
      rw [← List.mem_singleton.mp hcharacter] at hbreak
      contradiction
  have hnext : above.getLast? = some '\r' →
      (ending.toText ++ (front ++ line.character :: back)).head? ≠ some '\n' := by
    cases ending with
    | lf => exact fun hlast => absurd hlast (hwhole rfl)
    | cr => exact fun _ => by simp [LineEnding.toText]
    | crlf => exact fun _ => by simp [LineEnding.toText]
  rw [spaced_append hnext, spaced_lineEnding fun _ => hhead, spaced_append fun _ => by simp,
    spaced_cons rfl]

/-- A line ending is part of no run. -/
theorem runs_eq (h : line.Blanks text text') : runs '\x60' text' = runs '\x60' text := by
  obtain ⟨above, ending, front, back, -, -⟩ := h
  have hending :
      ∀ rest, runs '\x60' (above ++ (ending.toText ++ rest)) =
        runs '\x60' above ++ runs '\x60' rest := by
    intro rest
    cases ending with
    | lf => exact runs_append_cons (by decide) above rest
    | cr => exact runs_append_cons (by decide) above rest
    | crlf =>
        refine (runs_append_cons (by decide) above ('\n' :: rest)).trans ?_
        rw [runs_cons_of_ne (by decide)]
  rw [hending, runs_append_cons (by decide)]

/-- The space is no backtick, and the end stays what it was. -/
theorem keepsClear (h : line.Blanks text text') (hclear : KeepsClear text) : KeepsClear text' := by
  obtain ⟨above, ending, front, back, -, -⟩ := h
  obtain ⟨-, hhead, hlast⟩ := hclear
  refine ⟨List.append_ne_nil_of_right_ne_nil above (List.cons_ne_nil _ _), ?_, ?_⟩
  · cases above with
    | nil => simp
    | cons c above => exact hhead
  · rw [← List.append_assoc] at hlast
    rw [List.append_cons]
    rwa [List.getLast?_append_of_ne_nil _ (by simp)] at hlast ⊢

end LineRule.Blanks

/-- The contents of a code span are the padded value but for line endings, with the same runs of
backticks, and clear of the fences. -/
theorem blankedBy_paddedSpan {value : List Char} (hvalue : value ≠ []) :
    spaced (blankedBy lineRules (paddedSpan value)) = spaced (paddedSpan value) ∧
      runs '\x60' (blankedBy lineRules (paddedSpan value)) = runs '\x60' value ∧
        KeepsClear (blankedBy lineRules (paddedSpan value)) := by
  refine ⟨?_, ?_, ?_⟩
  · exact invariant_blankedBy (P := fun text => spaced text = spaced (paddedSpan value))
      (fun _ => id)
      (fun line hline _ _ hblanks heq => (hblanks.spaced_eq hline).trans heq) rfl
  · exact invariant_blankedBy (P := fun text => runs '\x60' text = runs '\x60' value) (fun _ => id)
      (fun line _ _ _ hblanks heq => hblanks.runs_eq.trans heq) (runs_paddedSpan value)
  · exact invariant_blankedBy (fun _ => id) (fun line _ _ _ hblanks => hblanks.keepsClear)
      (keepsClear_paddedSpan hvalue)

/-- **Code spans read back.** A code span begins with as many backticks as the shortest length that
no run in the value has; it ends with the next run of that length, behind which nothing is left, and
its contents are read as the value with a space for every line ending. -/
theorem readCodeSpan_codeSpan {value : List Char} (hvalue : value ≠ []) :
    readCodeSpan (codeSpan Rule.defaults value) =
      some ⟨shortestMissingRun '\x60' value, spaced value, []⟩ := by
  obtain ⟨hspaced, hruns, hne, hhead, hlast⟩ := blankedBy_paddedSpan hvalue
  obtain ⟨hpos, hmissing⟩ := shortestMissingRun_spec '\x60' value
  rw [codeSpan_defaults]
  generalize shortestMissingRun '\x60' value = n at hpos hmissing ⊢
  generalize blankedBy lineRules (paddedSpan value) = content at hspaced hruns hne hhead hlast ⊢
  obtain ⟨m, rfl⟩ := Nat.exists_eq_succ_of_ne_zero (Nat.ne_of_gt hpos)
  -- the fence in front is a whole run, as the contents do not begin with a backtick
  have hstop : ∀ back : List Char, (content ++ back).takeWhile (· == '\x60') = [] ∧
      (content ++ back).dropWhile (· == '\x60') = content ++ back := by
    intro back
    obtain ⟨c, rest, rfl⟩ := List.exists_cons_of_ne_nil hne
    have hc : c ≠ '\x60' := fun h => hhead (congrArg some h)
    exact ⟨List.takeWhile_cons_of_neg (by simpa using hc),
      List.dropWhile_cons_of_neg (by simpa using hc)⟩
  have hbackticks : ∀ c ∈ List.replicate (m + 1) '\x60', (c == '\x60') = true := by
    intro c hc
    rw [List.eq_of_mem_replicate hc]
    rfl
  have hfree :
      m + 1 ∉ runs '\x60' (if false = true then content.dropWhile (· == '\x60') else content) := by
    rw [if_neg Bool.false_ne_true, hruns]
    exact hmissing
  have huntil := untilRun_append_fence hpos hlast (fun h => absurd h Bool.false_ne_true) hfree
  unfold readCodeSpan
  rw [List.append_assoc, List.takeWhile_append_of_pos hbackticks,
    List.dropWhile_append_of_pos hbackticks, (hstop _).1, (hstop _).2, List.append_nil,
    List.length_replicate]
  dsimp only
  rw [huntil, Option.map_some, hspaced, stripSpan_spaced_paddedSpan]

/-- A backtick at the front and a line ending before a marker. -/
theorem readCodeSpan_codeSpan_marker :
    "\x60a\n# b".toList ≠ [] ∧
      readCodeSpan (codeSpan Rule.defaults "\x60a\n# b".toList) =
        some ⟨2, "\x60a # b".toList, []⟩ :=
  ⟨by decide, readCodeSpan_codeSpan (by decide)⟩

end MarkdownWriter
