import MarkdownWriter.Proofs.Escape.LineBreaks
import MarkdownWriter.Proofs.Render.Definitions

/-!
# Destinations of links and images

A destination stands between angle brackets or is bare (`readDestination`), and is written in the
form its url asks for.

* **Reading what is written** (`scan_writeLetters`): a reader that takes escapes as wholes, and
  stops neither at the characters of references nor at those that are left alone, passes a text as
  it is written.
* **Angle brackets** (`Layout.exists_readDestination_enclosed`): in them every url reads back, since
  brackets and line endings are escaped there.
* **Bare destinations** (`Layout.readDestination_bare_iff`): parentheses are escaped in them, spaces
  and controls do not occur, but no rule is about angle brackets. A url that begins with `<` is not
  read back, unless the destination stands in another one, where that is escaped.

Both are joined in `Layout.readDestination_resource_iff`.
-/

namespace MarkdownWriter

open Text

/-! ## Reading -/

/-- What a reader passes of a text and the state it comes to. It takes a backslash and the
punctuation behind it together; of every other character a step says whether it stops there, or the
state it goes on in. -/
def scan {σ : Type} (step : σ → Char → Option σ) (s : σ) : List Char → List Char × σ
  | [] => ([], s)
  | c :: text =>
      if c = '\\' then
        match text with
        | d :: rest =>
            if isPunctuation d then ((scan step s rest).map (fun taken => c :: d :: taken) id)
            else ((scan step s (d :: rest)).map (c :: ·) id)
        | [] => ([c], s)
      else
        match step s c with
        | none => ([], s)
        | some next => ((scan step next text).map (c :: ·) id)

/-- In angle brackets there is neither a bracket nor a line ending. -/
def enclosedStep (_ : Unit) (c : Char) : Option Unit :=
  if c == '<' || c == '>' || isLineBreak c then none else some ()

/-- In a bare destination there is no space and no control, and as many parentheses are closed as
are open. -/
def bareStep (depth : Nat) (c : Char) : Option Nat :=
  if c ≤ ' ' || c == '\x7f' then none
  else if c == '(' then some (depth + 1)
  else if c == ')' then if depth = 0 then none else some (depth - 1)
  else some depth

/-- The destination a text begins with, without its angle brackets if it has any, and what stands
behind it. A bare one may be empty, but does not begin with `<`. -/
def readDestination : List Char → Option (List Char × List Char)
  | '<' :: text =>
      let inner := (scan enclosedStep () text).1
      match text.drop inner.length with
      | '>' :: behind => some (inner, behind)
      | _ => none
  | text =>
      let (taken, depth) := scan bareStep 0 text
      if depth = 0 then some (taken, text.drop taken.length) else none

section scanning

variable {σ : Type} {step : σ → Char → Option σ} {s next : σ} {c : Char} {text rest : List Char}

/-- A backslash and the punctuation behind it are passed together. -/
theorem scan_escape (h : isPunctuation c = true) :
    scan step s ('\\' :: c :: text) = (scan step s text).map
      (fun taken => '\\' :: c :: taken) id := by
  rw [scan]
  simp only [if_true, if_pos h]

/-- A backslash in front of anything else is passed as it is. -/
theorem scan_backslash (h : text.head?.any isPunctuation = false) :
    scan step s ('\\' :: text) = (scan step s text).map ('\\' :: ·) id := by
  rw [scan.eq_def]
  cases text with
  | nil => rfl
  | cons d text =>
      have hd : ¬ isPunctuation d = true := by simpa using h
      simp only [if_true, if_neg hd]

/-- A character is passed if the step goes on. -/
theorem scan_plain (hc : c ≠ '\\') (hstep : step s c = some next) :
    scan step s (c :: text) = (scan step next text).map (c :: ·) id := by
  rw [scan.eq_def]
  simp only [if_neg hc, hstep]

/-- The reader stops where the step does. -/
theorem scan_stop (hc : c ≠ '\\') (hstep : step s c = none) :
    scan step s (c :: text) = ([], s) := by
  rw [scan.eq_def]
  simp only [if_neg hc, hstep]

/-- What is passed stands in front. -/
theorem scan_isPrefix (step : σ → Char → Option σ) (s : σ) (text : List Char) :
    (scan step s text).1 <+: text := by
  fun_induction scan step s text with
  | case1 => exact List.nil_prefix
  | case2 s d rest hd ih =>
      exact List.cons_prefix_cons.mpr ⟨rfl, List.cons_prefix_cons.mpr ⟨rfl, ih⟩⟩
  | case3 s d rest hd ih => exact List.cons_prefix_cons.mpr ⟨rfl, ih⟩
  | case4 => exact List.prefix_rfl
  | case5 => exact List.nil_prefix
  | case6 s c text hc next hstep ih => exact List.cons_prefix_cons.mpr ⟨rfl, ih⟩

/-- Characters that do not change the state are passed one by one. -/
theorem scan_append {taken : List Char} (hbackslash : '\\' ∉ taken)
    (htaken : ∀ c ∈ taken, step s c = some s) :
    scan step s (taken ++ rest) = (scan step s rest).map (taken ++ ·) id := by
  induction taken with
  | nil => rfl
  | cons c taken ih =>
      rw [List.mem_cons, not_or] at hbackslash
      obtain ⟨hc, htaken⟩ := List.forall_mem_cons.mp htaken
      rw [List.cons_append, scan_plain (Ne.symm hbackslash.1) hc, ih hbackslash.2 htaken]
      rfl

/-- A reader that stays in its state at all that is written unescaped, and at references, passes
letters as they are written. -/
theorem scan_writeLetters (encode : List Char)
    (hreference : ∀ c, isReferenceSign c = true → step s c = some s)
    {all : List Letter} (h : WellEscaped rest.head? all)
    (hall : ∀ letter ∈ all, letter.escaped = false → letter.char ≠ '\\' →
      step s letter.char = some s) :
    scan step s (writeLetters encode rest.head? all ++ rest) =
      (scan step s rest).map (writeLetters encode rest.head? all ++ ·) id := by
  induction all with
  | nil => rfl
  | cons letter all ih =>
      obtain ⟨hletter, hothers⟩ := List.forall_mem_cons.mp hall
      have ih := ih h.tail hothers
      obtain ⟨c, escaped⟩ := letter
      rw [writeLetters_cons, List.append_assoc]
      rcases h.written_cases encode with
        ⟨hescaped, hwritten⟩ | ⟨-, hsign, hwritten⟩ | ⟨-, hreferenceable, hwritten⟩
      · -- a character left alone
        obtain rfl : escaped = false := hescaped
        rw [hwritten]
        by_cases hc : c = '\\'
        · subst hc
          rw [plainChar_backslash]
          split
          · rw [List.cons_append, List.singleton_append, scan_escape rfl, ih]
            rfl
          · next hbehind =>
              rw [Bool.not_eq_true] at hbehind
              rw [List.singleton_append,
                scan_backslash (head?_writeLetters_append_of_behind hbehind), ih]
              rfl
        · rw [plainChar_of_ne hc, List.singleton_append, scan_plain hc (hletter rfl hc), ih]
          rfl
      · -- an escape by a backslash
        rw [hwritten, List.cons_append, List.singleton_append, scan_escape hsign, ih]
        rfl
      · -- an escape by a reference
        have hsigns : ∀ d ∈ characterReference c, isReferenceSign d = true :=
          List.all_eq_true.mp (all_isReferenceSign_characterReference c)
        rw [hwritten, scan_append (not_mem_characterReference rfl) fun d hd =>
          hreference d (hsigns d hd), ih]
        simp [Prod.map]

end scanning

/-- No character of a reference ends a destination in angle brackets. -/
theorem enclosedStep_of_isReferenceSign (c : Char) (h : isReferenceSign c = true) :
    enclosedStep () c = some () := by
  unfold enclosedStep
  rw [if_neg]
  simp only [Bool.or_eq_true, beq_iff_eq, isLineBreak_iff]
  rintro ((rfl | rfl) | rfl | rfl) <;> contradiction

/-- Outside of parentheses a visible character that is none of them is passed. -/
theorem bareStep_eq_some {c : Char} (hbarred : ¬ (c ≤ ' ' ∨ c = '\x7f')) (hopen : c ≠ '(')
    (hclose : c ≠ ')') : bareStep 0 c = some 0 := by
  simp only [not_or] at hbarred
  simp [bareStep, hbarred, hopen, hclose]

/-- All characters of a reference are visible. -/
theorem not_le_space_of_isReferenceSign {c : Char} (h : isReferenceSign c = true) : ¬ c ≤ ' ' := by
  intro hle
  have hfrom : ∀ d, ¬ d ≤ ' ' → ¬ d ≤ c := fun d hd hge => hd (Char.le_trans hge hle)
  simp only [isReferenceSign, isLetter, isDigit, Bool.or_eq_true, Bool.and_eq_true,
    decide_eq_true_eq, List.contains_iff_mem, List.mem_cons, List.not_mem_nil, or_false] at h
  rcases h with ((rfl | rfl | rfl) | ⟨hge, -⟩ | ⟨hge, -⟩) | ⟨hge, -⟩
  · exact absurd hle (by decide)
  · exact absurd hle (by decide)
  · exact absurd hle (by decide)
  · exact hfrom _ (by decide) hge
  · exact hfrom _ (by decide) hge
  · exact hfrom _ (by decide) hge

/-- Nor does one end a bare destination or open a parenthesis in it. -/
theorem bareStep_of_isReferenceSign (c : Char) (h : isReferenceSign c = true) :
    bareStep 0 c = some 0 := by
  refine bareStep_eq_some ?_ ?_ ?_
  · rintro (hle | rfl)
    · exact not_le_space_of_isReferenceSign h hle
    · contradiction
  · rintro rfl
    contradiction
  · rintro rfl
    contradiction

/-! ## Writing -/

section written

variable {stack : List Construct} {url rest : List Char} {around : Surroundings}

/-- A character that is unsafe anywhere in a construct is escaped there. -/
theorem escaped_of_anywhereIn {inside : List Construct} {construct : Construct} {c : Char}
    (hmem : Rule.anywhereIn inside c ∈ Rule.defaults) (hinside : construct ∈ inside)
    (hstack : construct ∈ stack) {letter : Letter}
    (hletter : letter ∈ lettersBetween Rule.defaults stack url around) (hc : letter.char = c) :
    letter.escaped = true :=
  escaped_of_anywhere (fun _ h => h) hmem (Rule.applies_make hinside hstack c false none none) rfl
    rfl letter hletter hc

/-- A reader in angle brackets passes the whole url. -/
theorem scan_enclosed (hstack : .destinationLiteral ∈ stack)
    (hrest : rest.head? = around.after.head?) :
    scan enclosedStep () (escapeLiteral Rule.defaults stack url around ++ rest) =
      (scan enclosedStep () rest).map (escapeLiteral Rule.defaults stack url around ++ ·) id := by
  have hmem : ∀ c ∈ ['<', '>', '\n', '\r'], ∃ inside, Rule.anywhereIn inside c ∈ Rule.defaults ∧
      .destinationLiteral ∈ inside := by
    simp only [List.forall_mem_cons]
    refine ⟨⟨[.destinationLiteral], ?_, by decide⟩, ⟨[.destinationLiteral], ?_, by decide⟩,
      ⟨Rule.singleLine, ?_, by decide⟩, ⟨Rule.singleLine, ?_, by decide⟩, by simp⟩
    all_goals simp [Rule.defaults, Rule.whitespaceRules, Rule.punctuationRules]
  unfold escapeLiteral
  rw [← hrest]
  refine scan_writeLetters around.encode enclosedStep_of_isReferenceSign
    (hrest ▸ wellEscaped_lettersBetween)
    fun letter hletter hplain _ => ?_
  unfold enclosedStep
  rw [if_neg]
  intro hc
  obtain ⟨inside, hrule, hinside⟩ :=
    hmem letter.char (by simpa [isLineBreak_iff, or_assoc] using hc)
  exact Bool.false_ne_true (hplain.symm.trans
    (escaped_of_anywhereIn hrule hinside hstack hletter rfl))

/-- A reader of a bare destination passes the whole url, with no parentheses open behind it. -/
theorem scan_bare (hstack : .destinationRaw ∈ stack) (hurl : needsEnclosing url = false)
    (hrest : rest.head? = around.after.head?) :
    scan bareStep 0 (escapeLiteral Rule.defaults stack url around ++ rest) =
      (scan bareStep 0 rest).map (escapeLiteral Rule.defaults stack url around ++ ·) id := by
  have hmem : ∀ c, c = '(' ∨ c = ')' → Rule.anywhereIn [.destinationRaw] c ∈ Rule.defaults := by
    rintro c (rfl | rfl) <;> simp [Rule.defaults, Rule.whitespaceRules, Rule.punctuationRules]
  unfold escapeLiteral
  rw [← hrest]
  refine scan_writeLetters around.encode bareStep_of_isReferenceSign
    (hrest ▸ wellEscaped_lettersBetween)
    fun letter hletter hplain _ => ?_
  have hparenthesis : ¬ (letter.char = '(' ∨ letter.char = ')') := by
    intro hc
    have hescaped :=
      escaped_of_anywhereIn (hmem _ hc) (List.mem_singleton_self _) hstack hletter rfl
    exact Bool.false_ne_true (hplain.symm.trans hescaped)
  have hurl := List.any_eq_false.mp hurl letter.char (by
    rw [← map_char_lettersBetween Rule.defaults stack around url]
    exact List.mem_map_of_mem hletter)
  obtain ⟨hopen, hclose⟩ := not_or.mp hparenthesis
  exact bareStep_eq_some (by simpa using hurl) hopen hclose

end written

/-! ## Destinations -/

/-- A destination in angle brackets is read if nothing in it ends it before its bracket. -/
theorem readDestination_enclosed {written : List Char} {more : List Char}
    (h : scan enclosedStep () (written ++ '>' :: more) =
      (scan enclosedStep () ('>' :: more)).map (written ++ ·) id) :
    readDestination ('<' :: written ++ '>' :: more) = some (written, more) := by
  rw [scan_stop (by decide) rfl, Prod.map_apply, List.append_nil] at h
  rw [List.cons_append, readDestination]
  simp only [h, List.drop_left]

/-- What is read in angle brackets stands between them. -/
theorem eq_of_readDestination_enclosed {text inner behind : List Char}
    (h : readDestination ('<' :: text) = some (inner, behind)) : text = inner ++ '>' :: behind := by
  rw [readDestination] at h
  have hprefix := List.prefix_iff_eq_append.mp (scan_isPrefix enclosedStep () text)
  split at h
  · next heq =>
      obtain ⟨rfl, rfl⟩ := Prod.mk.inj (Option.some.inj h)
      rw [heq] at hprefix
      exact hprefix.symm
  · contradiction

/-- A bare destination is read if nothing in it ends it before the space or parenthesis behind it.
-/
theorem readDestination_bare {written rest : List Char} (hhead : (written ++ rest).head? ≠ some '<')
    (hrest : rest.head? = some ' ' ∨ rest.head? = some ')')
    (h : scan bareStep 0 (written ++ rest) = (scan bareStep 0 rest).map (written ++ ·) id) :
    readDestination (written ++ rest) = some (written, rest) := by
  have hstop : scan bareStep 0 rest = ([], 0) := by
    rcases hrest with hrest | hrest
    · obtain ⟨more, rfl⟩ := List.head?_eq_some_iff.mp hrest
      exact scan_stop (by decide) rfl
    · obtain ⟨more, rfl⟩ := List.head?_eq_some_iff.mp hrest
      exact scan_stop (by decide) rfl
  rw [hstop, Prod.map_apply, List.append_nil] at h
  unfold readDestination
  split
  · next heq =>
      rw [heq] at hhead
      exact absurd rfl hhead
  · simp only [h, id, if_true, List.drop_left]

/-- The front of readable letters is readable in front of the others. -/
theorem Readable.of_append {after : Option Char} {all more : List Letter}
    (h : Readable after (all ++ more)) : Readable (behind after more) all where
  toWellEscaped := h.toWellEscaped.of_append
  ampersand := fun rest hrest => by
    have hnext := h.ampersand (rest ++ more) (List.suffix_append_self_iff.mpr hrest)
    cases rest with
    | nil => rfl
    | cons letter rest => exact hnext

section back

variable {references : References} {stack : List Construct} {url rest : List Char}
  {around : Surroundings}

/-- A bare destination that begins with an angle bracket does not come back. -/
theorem decodeWith_ne_of_bracket (hreferences : references.IsStandard)
    (hphrasing : .phrasing ∈ stack) (hraw : .destinationRaw ∈ stack)
    (hliteral : .destinationLiteral ∉ stack) {front : List Char}
    (hbefore : around.before = front ++ [']', '(']) (hurl : needsEnclosing url = false)
    (hhead : url.head? = some '<') {inner : List Char}
    (h : readDestination (escapeLiteral Rule.defaults stack url around ++ rest) =
      some (inner, rest)) :
    decodeWith references inner ≠ url := by
  have hbrackets :=
    @escaped_of_bracket url stack around (front ++ [']']) [] '(' hraw hliteral (by simp [hbefore])
    (by decide) (fun _ hc => absurd hc List.not_mem_nil) hurl
  have hreadable := @readable_lettersBetween stack url around hphrasing
  have hchars := map_char_lettersBetween Rule.defaults stack around url
  have hfirst : (escapeLiteral Rule.defaults stack url around).head? = some '<' := by
    obtain ⟨escaped, hletter, hiff⟩ :=
      exists_letter Rule.defaults stack around (List.head?_eq_getElem? ▸ hhead)
    obtain rfl : escaped = false := hbrackets _ (List.mem_of_getElem? hletter) (.inl rfl)
    refine (head?_escapeLiteral_eq_some_iff (by decide) (by decide)).mpr ⟨hhead, fun hescaped => ?_⟩
    exact Bool.false_ne_true (hiff.mpr hescaped)
  obtain ⟨tail, htail⟩ := List.head?_eq_some_iff.mp hfirst
  rw [htail, List.cons_append] at h
  have hinner : tail = inner ++ ['>'] := by
    have happend := eq_of_readDestination_enclosed h
    rw [← List.singleton_append, ← List.append_assoc] at happend
    exact List.append_cancel_right happend
  have hlast : url.getLast? = some '>' := by
    refine @getLast?_escapeLiteral Rule.defaults stack url around '>' (by decide) ?_
    rw [htail, hinner, ← List.cons_append]
    exact List.getLast?_concat
  unfold escapeLiteral at htail
  obtain ⟨letters, hall⟩ := exists_brackets hbrackets hchars hhead hlast
  rw [hall] at hreadable hchars htail
  rw [writeLetters_brackets, hinner, List.cons_append] at htail
  have hwritten := List.append_cancel_right (List.cons.inj htail).2
  have hletters : Readable (some '>') letters := Readable.of_append hreadable.tail
  rw [← hwritten, decodeWith_writeLetters hreferences around.encode hletters]
  intro heq
  have hlength := congrArg List.length (heq.trans hchars.symm)
  simp only [List.length_map, List.length_cons, List.length_append] at hlength
  omega

end back

namespace Layout

variable {rules : List Rule} {references : References} {state : State} {stack : List Construct}
  {quote : Char}
  {target : Resource} {url : List Char}

/-- The destination of a link or image, as it is written behind `written`. -/
def resourceDestination (rules : List Rule) (stack : List Construct) (target : Resource)
    (written : List Char) : List Char :=
  destinationText rules stack
    ((target.url.toList.isEmpty && (nonEmpty target.title).isSome) ||
      needsEnclosing target.url.toList)
    (if (nonEmpty target.title).isSome then [' '] else [')']) target.url.toList written

/-- The title behind it, if there is one. -/
def resourceTitle (rules : List Rule) (stack : List Construct) (quote : Char) (target : Resource)
    (written : List Char) : List Char :=
  (nonEmpty target.title).elim [] fun caption =>
    [' ', quote] ++
      titleText rules stack quote caption.toList
        (written ++ resourceDestination rules stack target written) ++ [quote]

/-- The text of a resource: what is written so far, the destination and the title. -/
theorem resource_run (written : List Char) :
    resource rules quote target written state =
      (.ok (written ++ resourceDestination rules state.constructs target written ++
        resourceTitle rules state.constructs quote target written), state) := by
  unfold resource
  rw [Render.bind_run_ok (destination_run _ _ _ _), title_run]
  rfl

/-- What stands behind the destination is what it was written in front of. -/
theorem head?_resourceTitle (stack : List Construct) (written more : List Char) :
    (resourceTitle rules stack quote target written ++ ')' :: more).head? =
      (if (nonEmpty target.title).isSome then [' '] else [')']).head? := by
  unfold resourceTitle
  cases nonEmpty target.title <;> rfl

/-- In angle brackets every url reads back. -/
theorem exists_readDestination_enclosed (hreferences : references.IsStandard)
    (hphrasing : .phrasing ∈ stack) (after written rest : List Char) :
    ∃ inner, readDestination (destinationText Rule.defaults stack true after url written ++ rest) =
      some (inner, rest) ∧ decodeWith references inner = url := by
  rw [destinationText, if_pos rfl, List.append_assoc, List.singleton_append]
  exact ⟨_, readDestination_enclosed (scan_enclosed List.mem_cons_self rfl),
    decodeWith_escapeLiteral hreferences (List.mem_cons_of_mem _ hphrasing)⟩

/-- Behind the opening parenthesis a bare url reads back unless it begins with an angle bracket, and
that is not escaped. -/
theorem readDestination_bare_iff (hreferences : references.IsStandard)
    (hphrasing : .phrasing ∈ stack) (hurl : needsEnclosing url = false) {after rest : List Char}
    (hrest : rest.head? = after.head?) (hend : after = [' '] ∨ after = [')']) (front : List Char) :
    (∃ inner, readDestination (destinationText Rule.defaults stack false after url
      (front ++ [']', '(']) ++ rest) = some (inner, rest) ∧
        decodeWith references inner = url) ↔
      (url.head? = some '<' → .destinationLiteral ∈ stack) := by
  rw [destinationText, if_neg Bool.false_ne_true]
  have hphrasing : .phrasing ∈ .destinationRaw :: stack := List.mem_cons_of_mem _ hphrasing
  constructor
  · rintro ⟨inner, hread, hdecode⟩ hhead
    by_contra hliteral
    have hliteral : .destinationLiteral ∉ .destinationRaw :: stack := by simp [hliteral]
    exact decodeWith_ne_of_bracket hreferences hphrasing List.mem_cons_self hliteral rfl hurl hhead
      hread hdecode
  · intro hbracket
    have hend : rest.head? = some ' ' ∨ rest.head? = some ')' := by
      rw [hrest]
      exact hend.imp (congrArg List.head?) (congrArg List.head?)
    refine ⟨_, readDestination_bare (fun hhead => ?_) hend
      (scan_bare List.mem_cons_self hurl hrest), decodeWith_escapeLiteral hreferences hphrasing⟩
    rw [List.head?_append, Option.or_eq_some_iff] at hhead
    rcases hhead with hhead | ⟨-, hhead⟩
    · -- the angle bracket would be escaped
      obtain ⟨hhead, hplain⟩ := (head?_escapeLiteral_eq_some_iff (by decide) (by decide)).mp hhead
      obtain ⟨escaped, hletter, hiff⟩ := exists_letter Rule.defaults (.destinationRaw :: stack)
        { before := front ++ [']', '('], after := after } (List.head?_eq_getElem? ▸ hhead)
      have hmem : Rule.anywhereIn [.destinationLiteral] '<' ∈ Rule.defaults := by
        simp [Rule.defaults, Rule.whitespaceRules, Rule.punctuationRules]
      exact hplain (hiff.mp (@escaped_of_anywhereIn _ _ _ [.destinationLiteral] .destinationLiteral
        '<' hmem
        List.mem_cons_self (List.mem_cons_of_mem _ (hbracket hhead)) _
          (List.mem_of_getElem? hletter) rfl))
    · rw [hhead] at hend
      revert hend
      decide

/-- **Destinations read back.** Inside inline content the destination of a link or image ends where
its url does and is decoded to it, but for a bare one that begins with an angle bracket: that is
taken for the beginning of one in angle brackets, unless the constructs around have it escaped. -/
theorem readDestination_resource_iff (hreferences : references.IsStandard)
    (hphrasing : .phrasing ∈ state.constructs) (front more : List Char) :
    let written := front ++ [']', '(']
    let destination := resourceDestination Rule.defaults state.constructs target written
    let behind := resourceTitle Rule.defaults state.constructs quote target written
    resource Rule.defaults quote target written state =
      (.ok (written ++ destination ++ behind), state) ∧
        ((∃ inner, readDestination (destination ++ (behind ++ ')' :: more)) =
          some (inner, behind ++ ')' :: more) ∧ decodeWith references inner = target.url.toList) ↔
        (target.url.toList.head? = some '<' →
          needsEnclosing target.url.toList = true ∨ .destinationLiteral ∈ state.constructs)) := by
  intro written destination behind
  refine ⟨resource_run _, ?_⟩
  have hrest : (behind ++ ')' :: more).head? = _ := head?_resourceTitle _ written more
  unfold destination resourceDestination
  by_cases henclosed :
    (target.url.toList.isEmpty && (nonEmpty target.title).isSome ||
      needsEnclosing target.url.toList)
  · rw [henclosed]
    refine iff_of_true (exists_readDestination_enclosed hreferences hphrasing _ _ _) fun hhead =>
      .inl ?_
    obtain ⟨tail, htail⟩ := List.head?_eq_some_iff.mp hhead
    rw [htail] at henclosed ⊢
    simpa using henclosed
  · rw [Bool.not_eq_true] at henclosed
    have hurl := (Bool.or_eq_false_iff.mp henclosed).2
    rw [henclosed, readDestination_bare_iff hreferences hphrasing hurl hrest ?_, hurl]
    · simp only [Bool.false_eq_true, false_or]
    · cases nonEmpty target.title with
      | none => exact .inr rfl
      | some caption => exact .inl rfl

end Layout

/-! ## A link -/

/-- A url with a space, an opening parenthesis behind a backslash and a closing one, and a title. -/
def spacedResource : Resource where
  url := "<a \\(b)"
  title := some "c"

/-- Its destination comes back, although it begins with an angle bracket. -/
theorem readDestination_spacedResource :
    let state : State := { constructs := [.link, .phrasing, .paragraph] }
    let behind :=
      Layout.resourceTitle Rule.defaults state.constructs '"' spacedResource "[d](".toList
    Construct.phrasing ∈ state.constructs ∧ ∃ destination inner,
      Layout.resource Rule.defaults '"' spacedResource "[d](".toList state =
        (.ok ("[d](".toList ++ destination ++ behind), state) ∧
      readDestination (destination ++ (behind ++ [')'])) = some (inner, behind ++ [')']) ∧
      decode inner = spacedResource.url.toList := by
  intro state behind
  have hphrasing : Construct.phrasing ∈ state.constructs := by decide
  obtain ⟨hrun, hread⟩ :=
    @Layout.readDestination_resource_iff htmlReferences state '"' spacedResource
    isStandard_htmlReferences hphrasing "[d".toList []
  obtain ⟨inner, hinner, hdecode⟩ := hread.mpr fun _ => .inl (by decide)
  exact ⟨hphrasing, _, inner, hrun, hinner, hdecode⟩

/-- A link with a text as its only child, in a paragraph. -/
def linkParagraph (url text : String) : Node :=
  .branch .paragraph [.branch (.link { url := url }) [.leaf (.text text)]]

/-- A destination that begins with an angle bracket may be read as none at all, or without the
bracket. -/
theorem toMarkdown_bracketDestinations :
    (¬ ∀ target : Resource, ∃ destination inner,
      Layout.resource Rule.defaults '"' target "[a](".toList
          { constructs := [.link, .phrasing, .paragraph] } =
        (.ok ("[a](".toList ++ destination), { constructs := [.link, .phrasing, .paragraph] }) ∧
      readDestination (destination ++ [')']) = some (inner, [')']) ∧
      decode inner = target.url.toList) ∧
      toMarkdown (.node {} []) (linkParagraph "<b" "a") = .ok "[a](<b)\n" ∧
      readDestination "<b)".toList = none ∧
      toMarkdown (.node {} []) (linkParagraph "<b>" "a") = .ok "[a](<b>)\n" ∧
      readDestination "<b>)".toList = some (['b'], [')']) := by
  refine ⟨fun hall => ?_, by decide +kernel, by decide +kernel, by decide +kernel,
    by decide +kernel⟩
  obtain ⟨destination, inner, hrun, hread, -⟩ := hall { url := "<b" }
  have hwritten : (Layout.resource Rule.defaults '"' { url := "<b" } "[a](".toList
      { constructs := [.link, .phrasing, .paragraph] }).1 = .ok ("[a](".toList ++ "<b".toList) := by
        decide +kernel
  rw [hrun, Except.ok.injEq] at hwritten
  obtain rfl := List.append_cancel_left hwritten
  have hnone : readDestination ("<b".toList ++ [')']) = none := by decide +kernel
  rw [hnone] at hread
  contradiction

end MarkdownWriter
