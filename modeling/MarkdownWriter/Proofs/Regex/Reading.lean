import MarkdownWriter.Proofs.Regex.Tokens

/-!
# Reading expressions piece by piece

The expression of a rule is put together as text from its parts, each in a group of its own, and is
then read as a whole. This module says when the parts are read as they would be alone: if each of
them can be read alone (`Reading.readText_grouped`).

* **One token** (`Reading.step_inside`): what a token does inside of open groups is what it does
  without them, if it does not close one of them.
* **A text** (`Reading.foldlM_inside`, `Reading.readText_inside`): so do all tokens of a part, one
  after the other. Only the mark may be taken already, and then no group of the part is marked
  (`Regex.remarked`), which changes nothing of what the part takes (`takes_remarked`).
* **Group by group** (`Reading.readText_append`, `Reading.readText_openPlain`,
  `Reading.readText_openMarked`, `Reading.readText_close`): a text is read part by part if each of
  them can be read where it begins, and a closed group is one more item of the group around it.

This needs a part that is well formed. One that closes a group it has not opened goes on in a group
around it, and the whole may be well formed all the same.
-/

namespace MarkdownWriter.Regex

/-! ## Marks -/

/-- An expression with its groups unmarked. -/
def unmarked : Regex → Regex
  | .empty => .empty
  | .set s => .set s
  | .start => .start
  | .finish => .finish
  | .seq first second => .seq first.unmarked second.unmarked
  | .alt left right => .alt left.unmarked right.unmarked
  | .marked body => body.unmarked
  | .repeated body least most greedy => .repeated body.unmarked least most greedy

/-- Then none of them is marked. -/
theorem isUnmarked_unmarked (regex : Regex) : regex.unmarked.isUnmarked = true := by
  induction regex with
  | empty | set | start | finish => rfl
  | seq _ _ ihfirst ihsecond | alt _ _ ihfirst ihsecond =>
      exact Bool.and_eq_true_iff.mpr ⟨ihfirst, ihsecond⟩
  | marked _ ih | repeated _ _ _ _ ih => exact ih

/-- Where no group is marked nothing changes. -/
theorem unmarked_of_isUnmarked {regex : Regex} (h : regex.isUnmarked = true) :
    regex.unmarked = regex := by
  induction regex with
  | empty | set | start | finish => rfl
  | seq first second ihfirst ihsecond | alt first second ihfirst ihsecond =>
      obtain ⟨hfirst, hsecond⟩ := Bool.and_eq_true_iff.mp h
      rw [unmarked, ihfirst hfirst, ihsecond hsecond]
  | marked => contradiction
  | repeated body least most greedy ih => rw [unmarked, ih h]

/-- Marks say nothing about what is taken. -/
theorem takes_unmarked (regex : Regex) : regex.unmarked.Takes = regex.Takes := by
  induction regex with
  | empty | set | start | finish => rfl
  | seq first second ihfirst ihsecond | alt first second ihfirst ihsecond =>
      funext offset taken rest
      simp only [unmarked, Takes, ihfirst, ihsecond]
  | marked body ih => exact ih
  | repeated body least most greedy ih =>
      funext offset taken rest
      simp only [unmarked, Takes, ih]

/-- The expressions of a sequence, one by one. -/
theorem unmarked_sequence (all : List Regex) :
    (sequence all).unmarked = sequence (all.map unmarked) := by
  fun_induction sequence all with
  | case1 | case2 => rfl
  | case3 regex rest hrest ih =>
      obtain ⟨second, rest, rfl⟩ := List.exists_cons_of_ne_nil hrest
      exact congrArg (Regex.seq regex.unmarked) ih

/-- The expressions of a choice, one by one. -/
theorem unmarked_choice (all : List Regex) : (choice all).unmarked = choice (all.map unmarked) := by
  fun_induction choice all with
  | case1 | case2 => rfl
  | case3 regex rest hrest ih =>
      obtain ⟨second, rest, rfl⟩ := List.exists_cons_of_ne_nil hrest
      exact congrArg (Regex.alt regex.unmarked) ih

/-- An expression as it is read where the mark may be taken already. -/
def remarked (taken : Bool) (regex : Regex) : Regex :=
  if taken then regex.unmarked else regex

/-- The same is taken, be the mark taken already or not. -/
theorem takes_remarked (taken : Bool) (regex : Regex) :
    (regex.remarked taken).Takes = regex.Takes := by
  cases taken with
  | false => rfl
  | true => exact takes_unmarked regex

namespace Group

/-- An open group as it is read there. -/
def remarked (taken : Bool) (group : Group) : Group where
  marked := group.marked && !taken
  alternatives := group.alternatives.map (Regex.remarked taken)
  items := group.items.map (Regex.remarked taken)

/-- With the mark still to be had a group is read as it is. -/
theorem remarked_false (group : Group) : group.remarked false = group := by
  have hid : Regex.remarked false = id := rfl
  simp [remarked, hid]

/-- A bar begins the next alternative in either case. -/
theorem remarked_bar (taken : Bool) (group : Group) :
    group.bar.remarked taken = (group.remarked taken).bar := by
  cases taken with
  | false => rw [remarked_false, remarked_false]
  | true =>
      have hunmarked : Regex.remarked true = unmarked := rfl
      simp [remarked, bar, hunmarked, unmarked_sequence]

/-- When the group is closed its expression has a mark or not, as the group has. -/
theorem remarked_regex (taken : Bool) (group : Group) :
    group.regex.remarked taken = (group.remarked taken).regex := by
  cases taken with
  | false =>
      rw [remarked_false]
      rfl
  | true =>
      have hbody : (choice group.bar.alternatives.reverse).unmarked =
          choice (group.remarked true).bar.alternatives.reverse := by
        rw [← remarked_bar, unmarked_choice, List.map_reverse]
        rfl
      have hplain : (group.remarked true).marked = false := Bool.and_false _
      rw [regex, regex, hplain, ← hbody]
      unfold Regex.remarked
      cases group.marked <;> rfl

end Group

/-! ## Reading inside of open groups -/

namespace Reading

/-- What is read of a part, where the groups of `outer` are open around it and the mark may be taken
already. -/
def inside (reading : Reading) (outer : List Group) (taken : Bool) : Reading where
  current := reading.current.remarked taken
  outer := reading.outer.map (Group.remarked taken) ++ outer
  anyMarked := taken || reading.anyMarked

/-- **A token does the same inside of open groups**, if it does not close one of them. -/
theorem step_inside {reading next : Reading} {token : Token} (htoken : token.isUnmarked = true)
    (h : reading.step token = some next) (outer : List Group) (taken : Bool) :
    (reading.inside outer taken).step token = some (next.inside outer taken) := by
  cases token with
  | item regex =>
      obtain rfl := Option.some.inj h
      have hregex : regex.remarked taken = regex := by
        unfold remarked
        split
        · exact unmarked_of_isUnmarked htoken
        · rfl
      simp [step, inside, Group.push, Group.remarked, hregex]
  | bar =>
      obtain rfl := Option.some.inj h
      simp [step, inside, Group.remarked_bar]
  | openMarked =>
      obtain rfl := Option.some.inj h
      simp [step, inside, Group.remarked, Bool.and_comm]
  | openPlain =>
      obtain rfl := Option.some.inj h
      simp [step, inside, Group.remarked]
  | close =>
      cases hgroups : reading.outer with
      | nil => simp [step, hgroups] at h
      | cons group others =>
          simp only [step, hgroups, Option.some.injEq] at h
          subst h
          simpa [step, inside, hgroups, Group.push, Group.remarked] using
            (Group.remarked_regex taken reading.current).symm
  | repetition least most greedy =>
      cases hitems : reading.current.items with
      | nil => simp [step, hitems] at h
      | cons item items =>
          have hitem : (repeated item least most greedy).remarked taken =
              repeated (item.remarked taken) least most greedy := by
            cases taken <;> rfl
          simp only [step, hitems, Option.some.injEq] at h
          subst h
          simp [step, inside, Group.remarked, hitems, hitem]

/-- So do all tokens of a part that closes no more groups than it opens. -/
theorem foldlM_inside {all : List Token} (hall : ∀ token ∈ all, token.isUnmarked = true)
    {reading last : Reading} (h : all.foldlM step reading = some last) (outer : List Group)
    (taken : Bool) :
    all.foldlM step (reading.inside outer taken) = some (last.inside outer taken) := by
  induction all generalizing reading with
  | nil =>
      obtain rfl := Option.some.inj h
      rfl
  | cons token all ih =>
      obtain ⟨htoken, hall⟩ := List.forall_mem_cons.mp hall
      rw [List.foldlM_cons] at h ⊢
      obtain ⟨next, hnext, h⟩ := Option.bind_eq_some_iff.mp h
      rw [step_inside htoken hnext]
      exact ih hall h

/-! ## Reading on through a text -/

/-- Read one more text. -/
def readText (reading : Reading) (text : List Char) : Option Reading := do
  (← tokens (← symbols text)).foldlM step reading

/-- A text with tokens is read one token after the other. -/
theorem readText_eq_foldlM {text : List Char} {all : List Token}
    (h : (symbols text).bind tokens = some all) (reading : Reading) :
    reading.readText text = all.foldlM step reading := by
  obtain ⟨characters, hsymbols, htokens⟩ := Option.bind_eq_some_iff.mp h
  unfold readText
  rw [hsymbols]
  change (tokens characters).bind _ = _
  rw [htokens]
  rfl

/-- An expression is what is read from nothing, if no group is left open. -/
theorem read_eq_bind (text : List Char) :
    read text = (({} : Reading).readText text).bind fun last =>
      if last.outer.isEmpty then some last.current.regex else none := by
  simp [read, readText, Option.bind_assoc]

/-- A text that is read has symbols and tokens. -/
theorem readText_eq_some {reading last : Reading} {text : List Char}
    (h : reading.readText text = some last) :
    ∃ characters all, symbols text = some characters ∧ tokens characters = some all ∧
      all.foldlM step reading = some last := by
  obtain ⟨characters, hsymbols, h⟩ := Option.bind_eq_some_iff.mp h
  obtain ⟨all, htokens, h⟩ := Option.bind_eq_some_iff.mp h
  exact ⟨characters, all, hsymbols, htokens, h⟩

/-- Nothing is read from nothing. -/
theorem readText_nil (reading : Reading) : reading.readText [] = some reading := by
  refine @readText_eq_foldlM [] [] ?_ reading
  change tokens [] = some []
  rw [tokens]
  rfl

/-- Text by text the same is read as at once, if every text can be read where it begins. -/
theorem readText_append {reading middle : Reading} {front back : List Char}
    (h : reading.readText front = some middle) (hback : back.head? ≠ some '?') :
    reading.readText (front ++ back) = middle.readText back := by
  obtain ⟨characters, all, hsymbols, htokens, hfold⟩ := readText_eq_some h
  unfold readText
  rw [symbols_append hsymbols]
  cases hmore : symbols back with
  | none => rfl
  | some more =>
      change (tokens (characters ++ more)).bind _ = (tokens more).bind _
      rw [tokens_append htokens (keepsApart_symbols hmore hback)]
      cases tokens more with
      | none => rfl
      | some others =>
          change (all ++ others).foldlM step reading = others.foldlM step middle
          rw [List.foldlM_append, hfold]
          rfl

/-- What is read of a text does not depend on the groups around it, but for the mark. -/
theorem readText_inside {text : List Char} {reading last : Reading}
    (h : reading.readText text = some last) (outer : List Group) (taken : Bool) :
    (reading.inside outer taken).readText text = some (last.inside outer taken) := by
  obtain ⟨characters, all, hsymbols, htokens, hfold⟩ := readText_eq_some h
  rw [readText_eq_foldlM (by rw [hsymbols]; exact htokens)]
  exact foldlM_inside (isUnmarked_of_mem_tokens htokens) hfold outer taken

/-- One token at the front of a text. -/
theorem readText_token {reading next : Reading} {front rest : List Char} {characters : List Symbol}
    {token : Token} (hfront : symbols front = some characters)
    (htoken : ∀ more, symbols rest = some more →
      readToken (characters ++ more) = some (token, more))
    (hstep : reading.step token = some next) :
    reading.readText (front ++ rest) = next.readText rest := by
  unfold readText
  rw [symbols_append hfront]
  cases hmore : symbols rest with
  | none => rfl
  | some more =>
      change (tokens (characters ++ more)).bind _ = (tokens more).bind _
      rw [tokens_of_readToken (htoken more hmore)]
      cases tokens more with
      | none => rfl
      | some all =>
          change (token :: all).foldlM step reading = all.foldlM step next
          rw [List.foldlM_cons, hstep]
          rfl

/-- A group that is to have no mark is opened inside of what is read so far. -/
theorem readText_openPlain (reading : Reading) (rest : List Char) :
    reading.readText ('(' :: '?' :: ':' :: rest) =
      { reading with current := {}, outer := reading.current :: reading.outer : Reading }.readText
        rest :=
  @readText_token reading _ ['(', '?', ':'] rest _ _ rfl (fun _ _ => rfl) rfl

/-- A parenthesis alone opens the marked group, if there is none yet. -/
theorem readText_openMarked (reading : Reading) {rest : List Char} (hrest : rest.head? ≠ some '?') :
    reading.readText ('(' :: rest) =
      ({ current := { marked := !reading.anyMarked }, outer := reading.current :: reading.outer,
         anyMarked := true } : Reading).readText rest :=
  @readText_token reading _ ['('] rest _ _ rfl
    (fun _ hmore => readToken_group (keepsApart_symbols hmore hrest)) rfl

/-- A parenthesis closes the innermost group, which is one more item of the group around it. -/
theorem readText_close {reading : Reading} {group : Group} {outer : List Group}
    (h : reading.outer = group :: outer) (rest : List Char) :
    reading.readText (')' :: rest) =
      { reading with
        current := group.push reading.current.regex, outer := outer : Reading }.readText rest := by
  refine @readText_token reading _ [')'] rest _ .close rfl (fun _ _ => rfl) ?_
  simp only [step, h]

/-- The first group of all is marked. -/
theorem readText_marked {body : List Char} {group : Group} (hhead : body.head? ≠ some '?')
    (hbody : ∀ rest : List Char, rest.head? ≠ some '?' →
      ({ current := { marked := true }, outer := [{}], anyMarked := true } : Reading).readText
        (body ++ rest) = ({ current := group, outer := [{}], anyMarked := true } : Reading).readText
          rest)
    (rest : List Char) :
    ({} : Reading).readText (('(' :: body ++ [')']) ++ rest) =
      ({ current := ({} : Group).push group.regex, anyMarked := true } : Reading).readText
        rest := by
  have hclose : (')' :: rest).head? ≠ some '?' := by simp
  have htext : ('(' :: body ++ [')']) ++ rest = '(' :: (body ++ ')' :: rest) := by simp
  rw [htext, readText_openMarked _ (head?_append_ne hhead hclose)]
  exact (hbody _ hclose).trans (readText_close rfl rest)

/-- **A group of its own is read as it would be alone**, if it can be: it is one more item of the
group around it. -/
theorem readText_grouped {fragment : List Char} {regex : Regex} (h : read fragment = some regex)
    (reading : Reading) :
    ∃ anyMarked, (reading.anyMarked = true → anyMarked = true) ∧ ∀ rest : List Char,
      reading.readText ('(' :: '?' :: ':' :: (fragment ++ ')' :: rest)) =
        { reading with
          current := reading.current.push (regex.remarked reading.anyMarked)
          anyMarked := anyMarked : Reading }.readText rest := by
  obtain ⟨last, hlast, hregex⟩ : ∃ last, ({} : Reading).readText fragment = some last ∧
      (if last.outer.isEmpty then some last.current.regex else none) = some regex := by
    rw [read_eq_bind] at h
    exact Option.bind_eq_some_iff.mp h
  have houter : last.outer = [] := by
    rw [← List.isEmpty_iff]
    by_contra hopen
    rw [if_neg hopen] at hregex
    contradiction
  rw [houter] at hregex
  obtain rfl : last.current.regex = regex := Option.some.inj hregex
  refine ⟨reading.anyMarked || last.anyMarked, fun hmarked => by rw [hmarked, Bool.true_or],
    fun rest => ?_⟩
  have hbegin :
      { reading with current := {}, outer := reading.current :: reading.outer : Reading } =
      ({} : Reading).inside (reading.current :: reading.outer) reading.anyMarked := by
    simp [inside, Group.remarked]
  have hopen : (last.inside (reading.current :: reading.outer) reading.anyMarked).outer =
      reading.current :: reading.outer := by
    simp [inside, houter]
  rw [readText_openPlain, hbegin, readText_append (readText_inside hlast _ _) (by simp),
    readText_close hopen, Group.remarked_regex]
  rfl

end Reading

end MarkdownWriter.Regex
