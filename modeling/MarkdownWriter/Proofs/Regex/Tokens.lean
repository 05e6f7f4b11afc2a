import MarkdownWriter.Regex.Reader
import MarkdownWriter.Proofs.Regex.Matching

/-!
# Tokens of texts that are put together

The tokens of an expression are read from the front of its text on, each by a reader that sees all
that follows. A token still does not depend on what follows it (`reads_readToken`), up to one
exception: a `?` behind it can make a repetition sparing or tell the kind of a group
(`KeepsApart`).

* **What a reader takes** (`Reads`): a token, what is left of the input, and that both stay the same
  whatever else stands behind. There is one lemma for each kind of token: repetitions
  (`reads_readRepetition`), counts in braces (`reads_readCounts`), sets (`reads_readSet`).
* **Sets** are the one kind that is not read character by character: what is literal at the front of
  a set is cut off first (`setFront`, `readSet_eq`).
* **Texts together** (`symbols_append`, `tokens_append`): where a text is put together from others
  its symbols and its tokens are those of each of them, if each has tokens of its own.

The induction of `tokens_append` is on the tokens of the first text, as the reader goes through it.
-/

namespace MarkdownWriter.Regex

/-! ## What a reader takes -/

/-- Whether a token adds no marked group. -/
def Token.isUnmarked : Token → Bool
  | .item regex => regex.isUnmarked
  | _ => true

/-- What follows does not change the token before it: it makes no repetition sparing and tells no
kind of a group. -/
def KeepsApart (more : List Symbol) : Prop :=
  more.head? ≠ some (.bare '?')

/-- Two texts together begin as one of them. -/
theorem head?_append_ne {α : Type} {x : α} {front back : List α} (hfront : front.head? ≠ some x)
    (hback : back.head? ≠ some x) : (front ++ back).head? ≠ some x := by
  cases front with
  | nil => exact hback
  | cons y front => exact hfront

/-- `token` is read from the front of `input` whatever follows, and `rest` is left. -/
structure Reads (reader : List Symbol → Option (Token × List Symbol)) (input : List Symbol)
    (token : Token) (rest : List Symbol) : Prop where
  isUnmarked : token.isUnmarked = true
  length_le : rest.length ≤ input.length
  append : ∀ more, KeepsApart more → reader (input ++ more) = some (token, rest ++ more)

/-- What another reader goes on with behind the first symbols of a token. -/
theorem Reads.behind {reader : List Symbol → Option (Token × List Symbol)}
    {input rest : List Symbol} {token : Token} (h : Reads reader input token rest)
    {front : List Symbol} (hfront : front ≠ [])
    (hreader : ∀ more, readToken (front ++ (input ++ more)) = reader (input ++ more)) :
    Reads readToken (front ++ input) token rest ∧ rest.length < (front ++ input).length := by
  have hlt : rest.length < (front ++ input).length := by
    have := List.length_pos_iff.mpr hfront
    have := h.length_le
    rw [List.length_append]
    omega
  refine ⟨⟨h.isUnmarked, Nat.le_of_lt hlt, fun more hmore => ?_⟩, hlt⟩
  rw [List.append_assoc, hreader]
  exact h.append more hmore

/-! ## Repetitions -/

/-- A repetition is sparing only if a `?` stands in its own text. -/
theorem reads_readRepetition (least : Nat) (most : Option Nat) (input : List Symbol) :
    Reads (fun input => some (readRepetition least most input)) input
      (readRepetition least most input).1
      (readRepetition least most input).2 := by
  fun_cases readRepetition least most input with
  | case1 rest => exact ⟨rfl, Nat.le_succ _, fun _ _ => rfl⟩
  | case2 _ hgreedy =>
      refine ⟨rfl, Nat.le_refl _, fun more hmore => ?_⟩
      have hinput : input.head? ≠ some (.bare '?') := by
        rw [ne_eq, List.head?_eq_some_iff]
        rintro ⟨rest, rfl⟩
        exact hgreedy rest rfl
      have hnext : ∀ rest, input ++ more ≠ .bare '?' :: rest := by
        intro rest heq
        exact head?_append_ne hinput hmore (by rw [heq, List.head?_cons])
      simp [readRepetition]

/-- A repetition at the end of what a reader takes. -/
theorem Reads.of_readRepetition {reader : List Symbol → Option (Token × List Symbol)} {least : Nat}
    {most : Option Nat} {input after : List Symbol} (hlength : after.length ≤ input.length)
    (h : ∀ more, reader (input ++ more) = some (readRepetition least most (after ++ more))) :
    Reads reader input (readRepetition least most after).1 (readRepetition least most after).2 := by
  have hlast := reads_readRepetition least most after
  refine ⟨hlast.isUnmarked, Nat.le_trans hlast.length_le hlength, fun more hmore => ?_⟩
  rw [h]
  exact hlast.append more hmore

/-- A front that ends before the end of a list is that of a longer list. -/
theorem span_append {α : Type} {p : α → Bool} {front : List α} (h : front.dropWhile p ≠ [])
    (back : List α) :
    (front ++ back).takeWhile p = front.takeWhile p ∧
      (front ++ back).dropWhile p = front.dropWhile p ++ back := by
  induction front with
  | nil => exact absurd rfl h
  | cons x front ih =>
      rw [List.dropWhile_cons] at h
      rw [List.cons_append, List.takeWhile_cons, List.takeWhile_cons, List.dropWhile_cons,
        List.dropWhile_cons]
      split
      · next hx =>
          rw [if_pos hx] at h
          obtain ⟨htake, hdrop⟩ := ih h
          exact ⟨by rw [htake], hdrop⟩
      · exact ⟨rfl, rfl⟩

/-- A number that something follows. -/
theorem readNumber_append {input rest : List Symbol} {n : Nat}
    (h : readNumber input = some (n, rest)) (hrest : rest ≠ []) :
    rest.length ≤ input.length ∧ ∀ more, readNumber (input ++ more) = some (n, rest ++ more) := by
  unfold readNumber at h ⊢
  dsimp only at h ⊢
  split at h
  · contradiction
  · next hdigits =>
      obtain ⟨rfl, rfl⟩ := Prod.mk.inj (Option.some.inj h)
      refine ⟨(List.dropWhile_suffix _).length_le, fun more => ?_⟩
      obtain ⟨htake, hdrop⟩ := span_append hrest more
      rw [htake, hdrop, if_neg hdigits]

/-- Counts in braces end with the brace, and with what makes them sparing. -/
theorem reads_readCounts {input rest : List Symbol} {token : Token}
    (h : readCounts input = some (token, rest)) :
    Reads readCounts input token rest := by
  unfold readCounts at h
  obtain ⟨⟨least, middle⟩, hleast, h⟩ := Option.bind_eq_some_iff.mp h
  dsimp only at h
  split at h
  · -- the same number at least and at most
    next after =>
      obtain ⟨hlength, hnumber⟩ := readNumber_append hleast (List.cons_ne_nil _ _)
      obtain ⟨rfl, rfl⟩ := Prod.mk.inj (Option.some.inj h)
      refine Reads.of_readRepetition (Nat.le_of_succ_le hlength) fun more => ?_
      unfold readCounts
      rw [hnumber]
      rfl
  · -- no number at most
    next after =>
      obtain ⟨hlength, hnumber⟩ := readNumber_append hleast (List.cons_ne_nil _ _)
      obtain ⟨rfl, rfl⟩ := Prod.mk.inj (Option.some.inj h)
      refine Reads.of_readRepetition (Nat.le_of_succ_le (Nat.le_of_succ_le hlength)) fun more => ?_
      unfold readCounts
      rw [hnumber]
      rfl
  · next bound hopen =>
      obtain ⟨hlength, hnumber⟩ := readNumber_append hleast (List.cons_ne_nil _ _)
      obtain ⟨⟨most, last⟩, hmost, h⟩ := Option.bind_eq_some_iff.mp h
      dsimp only at h
      split at h
      · next after =>
          obtain ⟨hlength', hnumber'⟩ := readNumber_append hmost (List.cons_ne_nil _ _)
          split at h
          · next hle =>
              obtain ⟨rfl, rfl⟩ := Prod.mk.inj (Option.some.inj h)
              rw [List.length_cons] at hlength hlength'
              refine Reads.of_readRepetition (by omega) fun more => ?_
              have hopen' : ∀ others, bound ++ more ≠ .bare '\x7d' :: others := by
                intro others heq
                cases bound with
                | nil => contradiction
                | cons symbol bound => exact hopen _ (by rw [(List.cons.inj heq).1])
              unfold readCounts
              rw [hnumber]
              simp [hnumber', hle]
          · contradiction
      · contradiction
  · contradiction

/-! ## Sets -/

/-- The literal characters that a set begins with, and what follows them. -/
def setFront (input : List Symbol) : List Symbol × List Symbol :=
  match input.takeWhile (Symbol.isBare '-'), input.dropWhile (Symbol.isBare '-') with
  | [], .bare ']' :: rest => ([.literal ']'], rest)
  | _, _ =>
      ((input.takeWhile (Symbol.isBare '-')).map fun _ => .literal '-',
        input.dropWhile (Symbol.isBare '-'))

/-- A set is what stands up to its bracket, behind what is literal at its front. -/
theorem readSet_eq (negated : Bool) (input : List Symbol) :
    readSet negated input =
      match (setFront input).2.dropWhile (!Symbol.isBare ']' ·) with
      | _ :: rest => do
          let ranges ← setRanges ((setFront input).1 ++ (setFront input).2.takeWhile
            (!Symbol.isBare ']' ·))
          return (.item (.set ⟨negated, ranges⟩), rest)
      | [] => none :=
  rfl

/-- What is literal at the front of a set does not depend on what follows. -/
theorem setFront_append {input : List Symbol} (h : (setFront input).2 ≠ []) :
    (setFront input).2.length ≤ input.length ∧
      ∀ more, setFront (input ++ more) = ((setFront input).1, (setFront input).2 ++ more) := by
  have hspan : input.dropWhile (Symbol.isBare '-') ≠ [] := by
    intro hnil
    unfold setFront at h
    simp [hnil] at h
  have hlength := (@List.dropWhile_suffix _ input (Symbol.isBare '-')).length_le
  have happend := span_append hspan
  unfold setFront
  simp only [happend]
  generalize input.takeWhile (Symbol.isBare '-') = hyphens
  generalize input.dropWhile (Symbol.isBare '-') = body at hlength hspan
  split
  · exact ⟨Nat.le_of_succ_le hlength, fun _ => rfl⟩
  · next hnot =>
      refine ⟨hlength, fun more => ?_⟩
      obtain ⟨symbol, body, rfl⟩ := List.exists_cons_of_ne_nil hspan
      split
      · next heq =>
          obtain ⟨rfl, -⟩ := List.cons.inj heq
          exact (hnot _ rfl rfl).elim
      · rfl

/-- A set ends with its bracket. -/
theorem reads_readSet {negated : Bool} {input rest : List Symbol} {token : Token}
    (h : readSet negated input = some (token, rest)) :
    Reads (readSet negated) input token rest := by
  rw [readSet_eq] at h
  split at h
  · next last after hlast =>
      have hclosed : (setFront input).2.dropWhile (!Symbol.isBare ']' ·) ≠ [] := by
        rw [hlast]
        exact List.cons_ne_nil last after
      have hfront : (setFront input).2 ≠ [] := by
        intro hnil
        rw [hnil] at hclosed
        contradiction
      obtain ⟨ranges, hranges, h⟩ := Option.bind_eq_some_iff.mp h
      obtain ⟨rfl, rfl⟩ := Prod.mk.inj (Option.some.inj h)
      obtain ⟨hlength, happend⟩ := setFront_append hfront
      have hafter := (@List.dropWhile_suffix _ (setFront input).2 (!Symbol.isBare ']' ·)).length_le
      rw [hlast, List.length_cons] at hafter
      refine ⟨rfl, by omega, fun more _ => ?_⟩
      obtain ⟨htake, hdrop⟩ := span_append hclosed more
      rw [readSet_eq, happend]
      dsimp only
      rw [hdrop, hlast, htake, hranges]
      rfl
  · contradiction

/-! ## All tokens -/

/-- The characters that mean something where they stand bare, but for the backslash. -/
def signs : List Char :=
  ['.', '^', '$', '|', '(', ')', '*', '+', '?', '\x7b', '[']

/-- A parenthesis that no `?` follows opens a group that may be marked. -/
theorem readToken_group {more : List Symbol} (h : KeepsApart more) :
    readToken (.bare '(' :: more) = some (.openMarked, more) := by
  have hnot : ∀ rest, more ≠ .bare '?' :: rest := by
    rintro rest rfl
    exact h rfl
  cases more with
  | nil => rfl
  | cons symbol more => simp [readToken, hnot]

/-- A bracket that no `^` follows opens a set of the characters in it. -/
theorem readToken_set {more : List Symbol} (h : more.head? ≠ some (.bare '^')) :
    readToken (.bare '[' :: more) = readSet false more := by
  have hnot : ∀ rest, more ≠ .bare '^' :: rest := by
    rintro rest rfl
    exact h rfl
  cases more with
  | nil => rfl
  | cons symbol more => simp [readToken]

/-- Any other character that stands bare is a literal one. -/
theorem readToken_character {c : Char} (h : c ∉ signs) (more : List Symbol) :
    readToken (.bare c :: more) = some (.item (character c), more) := by
  simp only [signs, List.mem_cons, List.not_mem_nil, or_false, not_or] at h
  simp [readToken, h]

/-- **A token does not depend on what follows it**, and reading one takes at least one symbol. -/
theorem reads_readToken {input rest : List Symbol} {token : Token}
    (h : readToken input = some (token, rest)) :
    Reads readToken input token rest ∧ rest.length < input.length := by
  fun_cases readToken input with
  | case1 => contradiction
  | case8 after hkind => simp [readToken] at h
  | case2 c after | case3 after | case4 after | case5 after | case6 after | case10 after =>
      obtain ⟨rfl, rfl⟩ := Prod.mk.inj (Option.some.inj h)
      exact ⟨⟨rfl, Nat.le_succ _, fun _ _ => rfl⟩, Nat.lt_succ_self _⟩
  | case7 after =>
      obtain ⟨rfl, rfl⟩ := Prod.mk.inj (Option.some.inj h)
      have hlt : after.length < after.length + 3 := Nat.lt_add_of_pos_right (Nat.succ_pos 2)
      exact ⟨⟨rfl, Nat.le_of_lt hlt, fun _ _ => rfl⟩, hlt⟩
  | case9 after _ hkind =>
      have hafter : KeepsApart after := by
        rw [KeepsApart, ne_eq, List.head?_eq_some_iff]
        rintro ⟨tail, rfl⟩
        exact hkind tail rfl
      rw [readToken_group hafter] at h
      obtain ⟨rfl, rfl⟩ := Prod.mk.inj (Option.some.inj h)
      exact ⟨⟨rfl, Nat.le_succ _, fun more hmore => readToken_group (head?_append_ne hafter hmore)⟩,
        Nat.lt_succ_self _⟩
  | case11 after | case12 after | case13 after =>
      obtain ⟨rfl, rfl⟩ := Prod.mk.inj (Option.some.inj h)
      exact (reads_readRepetition _ _ after).behind (List.cons_ne_nil _ []) fun _ => rfl
  | case14 after => exact (reads_readCounts h).behind (List.cons_ne_nil _ []) fun _ => rfl
  | case15 after =>
      exact (reads_readSet h).behind (List.cons_ne_nil (.bare '[') [.bare '^']) fun _ => rfl
  | case16 after hnegated =>
      cases after with
      | nil => contradiction
      | cons symbol after =>
          have hsymbol : symbol ≠ .bare '^' := by
            rintro rfl
            exact hnegated after rfl
          have hset : ∀ more, readToken (.bare '[' :: (symbol :: after ++ more)) =
              readSet false (symbol :: after ++ more) :=
            fun more => readToken_set (by simpa using hsymbol)
          rw [readToken_set (by simpa using hsymbol)] at h
          exact (reads_readSet h).behind (List.cons_ne_nil _ []) hset
  | case17 c after =>
      have hc : c ∉ signs := by simp_all [signs]
      rw [readToken_character hc] at h
      obtain ⟨rfl, rfl⟩ := Prod.mk.inj (Option.some.inj h)
      exact ⟨⟨rfl, Nat.le_succ _, fun more _ => readToken_character hc _⟩, Nat.lt_succ_self _⟩

/-! ## Texts next to each other -/

/-- The first token is read, and then all others. -/
theorem tokens_of_readToken {input rest : List Symbol} {token : Token}
    (h : readToken input = some (token, rest)) : tokens input = (tokens rest).map (token :: ·) := by
  have hinput : input.isEmpty = false := by
    cases input with
    | nil => contradiction
    | cons symbol input => rfl
  rw [tokens, hinput, h]
  exact if_pos (reads_readToken h).2

/-- The tokens of two texts, if the second one does not change the last token of the first. -/
theorem tokens_append {front back : List Symbol} {all : List Token} (h : tokens front = some all)
    (hback : KeepsApart back) : tokens (front ++ back) = (tokens back).map (all ++ ·) := by
  fun_induction tokens front generalizing all with
  | case1 input hinput =>
      obtain rfl := List.isEmpty_iff.mp hinput
      obtain rfl := Option.some.inj h
      simp
  | case2 => contradiction
  | case3 input _ token rest hread _ ih =>
      obtain ⟨others, hothers, rfl⟩ := Option.map_eq_some_iff.mp h
      rw [tokens_of_readToken ((reads_readToken hread).1.append back hback), ih hothers,
        Option.map_map]
      rfl
  | case4 => contradiction

/-- Tokens bring no marks: it is the groups that do. -/
theorem isUnmarked_of_mem_tokens {input : List Symbol} {all : List Token}
    (h : tokens input = some all) : ∀ token ∈ all, token.isUnmarked = true := by
  fun_induction tokens input generalizing all with
  | case1 =>
      obtain rfl := Option.some.inj h
      simp
  | case2 => contradiction
  | case3 input _ token rest hread _ ih =>
      obtain ⟨others, hothers, rfl⟩ := Option.map_eq_some_iff.mp h
      exact List.forall_mem_cons.mpr ⟨(reads_readToken hread).1.isUnmarked, ih hothers⟩
  | case4 => contradiction

/-- A character that is no backslash is a symbol of its own. -/
theorem symbols_bare {c : Char} (hc : c ≠ '\\') (text : List Char) :
    symbols (c :: text) = (symbols text).map (Symbol.bare c :: ·) := by
  rw [symbols]
  · cases symbols text <;> rfl
  · rintro rfl
    contradiction
  · rintro _ _ rfl
    contradiction

/-- The first symbol of a text is its first character, or it takes two of them. -/
theorem symbols_cons_eq_some {c : Char} {text : List Char} {all : List Symbol}
    (h : symbols (c :: text) = some all) :
    (c ≠ '\\' ∧ ∃ others, symbols text = some others ∧ all = .bare c :: others) ∨
      ∃ d e rest others, c = '\\' ∧ text = d :: rest ∧ escaped d = some e ∧
      symbols rest = some others ∧ all = .literal e :: others := by
  by_cases hc : c = '\\'
  · subst hc
    cases text with
    | nil => contradiction
    | cons d rest =>
        obtain ⟨e, he, h⟩ := Option.bind_eq_some_iff.mp h
        obtain ⟨others, hothers, h⟩ := Option.bind_eq_some_iff.mp h
        exact .inr ⟨d, e, rest, others, rfl, rfl, he, hothers, (Option.some.inj h).symm⟩
  · rw [symbols_bare hc] at h
    obtain ⟨others, hothers, rfl⟩ := Option.map_eq_some_iff.mp h
    exact .inl ⟨hc, others, hothers, rfl⟩

/-- The symbols of two texts, unless a backslash at the end of the first one is left without a
character. -/
theorem symbols_append {front : List Char} {all : List Symbol} (h : symbols front = some all)
    (back : List Char) : symbols (front ++ back) = (symbols back).map (all ++ ·) := by
  induction hlength : front.length using Nat.strongRecOn generalizing front all with
  | ind length ih =>
      cases front with
      | nil =>
          obtain rfl := Option.some.inj h
          simp
      | cons c text =>
          rcases symbols_cons_eq_some h with ⟨hc, others, hothers, rfl⟩ |
            ⟨d, e, rest, others, rfl, rfl, he, hothers, rfl⟩
          · rw [List.cons_append, symbols_bare hc,
              ih _ (by rw [← hlength]; exact Nat.lt_succ_self _) hothers rfl,
              Option.map_map]
            rfl
          · rw [List.cons_append, List.cons_append, symbols, he,
              ih rest.length (by rw [← hlength, List.length_cons, List.length_cons]; omega) hothers
                rfl]
            cases symbols back <;> rfl

/-- A text that does not begin with `?` does not change the token in front of it. -/
theorem keepsApart_symbols {text : List Char} {all : List Symbol} (h : symbols text = some all)
    (htext : text.head? ≠ some '?') : KeepsApart all := by
  cases text with
  | nil =>
      obtain rfl := Option.some.inj h
      exact nofun
  | cons c text =>
      rcases symbols_cons_eq_some h with ⟨-, others, -, rfl⟩ |
          ⟨d, e, rest, others, rfl, rfl, -, -, rfl⟩
      · simpa [KeepsApart] using htext
      · exact nofun

end MarkdownWriter.Regex
