import MarkdownWriter.Proofs.Escape.Defaults

/-!
# Delimiters are never bare

A character that some rule of Markdown flags wherever it stands cannot end the construct around a
literal text (`guarded_escapeLiteral`).

* **Odd runs** (`Guarded`): wherever it occurs in what is written, an odd number of backslashes
  stands before it.
* **Readers pass it** (`Guarded.passed`): a reader that takes a backslash and the punctuation behind
  it together goes through the whole text without meeting the delimiter, whatever follows the text.

The parity of a run of backslashes depends on all letters the run is written for. What is carried
along is that it is even whenever the next letter begins with punctuation
(`Guarding.append_writeLetters`).
-/

namespace MarkdownWriter

open Text

/-! ## Runs of backslashes -/

/-- The number of backslashes at the end of a text. -/
def trailingBackslashes (text : List Char) : Nat :=
  (text.reverse.takeWhile (· == '\\')).length

@[simp] theorem trailingBackslashes_backslash (text : List Char) :
    trailingBackslashes (text ++ ['\\']) = trailingBackslashes text + 1 := by
  simp [trailingBackslashes]

@[simp] theorem trailingBackslashes_concat {text : List Char} {c : Char} (h : c ≠ '\\') :
    trailingBackslashes (text ++ [c]) = 0 := by
  simp [trailingBackslashes, h]

/-- Every `delimiter` in a text stands behind an odd number of backslashes. -/
def Guarded (delimiter : Char) (text : List Char) : Prop :=
  ∀ pre post, text = pre ++ delimiter :: post → trailingBackslashes pre % 2 = 1

/-- There is nothing to guard in the empty text. -/
theorem guarded_nil (delimiter : Char) : Guarded delimiter [] := by
  intro pre post h
  exact absurd h.symm (List.append_ne_nil_of_right_ne_nil pre (List.cons_ne_nil delimiter post))

/-- A text is guarded character by character. -/
theorem guarded_concat {delimiter c : Char} {text : List Char} :
    Guarded delimiter (text ++ [c]) ↔
      Guarded delimiter text ∧ (c = delimiter → trailingBackslashes text % 2 = 1) := by
  constructor
  · intro h
    constructor
    · intro pre post htext
      exact h pre (post ++ [c]) (by rw [htext, List.append_assoc, List.cons_append])
    · rintro rfl
      exact h text [] rfl
  · rintro ⟨htext, hlast⟩ pre post heq
    rcases List.eq_nil_or_concat post with rfl | ⟨front, d, rfl⟩
    · obtain ⟨rfl, hc⟩ := List.append_inj' heq rfl
      exact hlast (List.cons.inj hc).1
    · rw [List.concat_eq_append, ← List.cons_append, ← List.append_assoc] at heq
      exact htext pre front (List.append_inj' heq rfl).1

/-- Text without the delimiter changes nothing. -/
theorem Guarded.append {delimiter : Char} {text more : List Char} (h : Guarded delimiter text)
    (hmore : delimiter ∉ more) : Guarded delimiter (text ++ more) := by
  induction more generalizing text with
  | nil => rwa [List.append_nil]
  | cons c more ih =>
      rw [List.mem_cons, not_or] at hmore
      rw [← List.singleton_append, ← List.append_assoc]
      exact ih (guarded_concat.mpr ⟨h, fun hc => absurd hc.symm hmore.1⟩) hmore.2

/-! ## Readers -/

/-- What a reader passes before it comes to a `delimiter` that is not escaped. -/
def untilBare (delimiter : Char) : List Char → List Char
  | [] => []
  | c :: text =>
      if c = '\\' then
        match text with
        | d :: rest =>
            if isPunctuation d then c :: d :: untilBare delimiter rest else c :: untilBare delimiter
              (d :: rest)
        | [] => [c]
      else if c = delimiter then [] else c :: untilBare delimiter text

section reading

variable {delimiter c : Char} {text rest : List Char}

/-- A reader takes a backslash and punctuation together. -/
theorem untilBare_escape (h : isPunctuation c = true) :
    untilBare delimiter ('\\' :: c :: text) = '\\' :: c :: untilBare delimiter text := by
  rw [untilBare]
  simp only [if_true, if_pos h]

/-- A backslash before anything else is taken alone. -/
theorem untilBare_backslash (h : text.head?.any isPunctuation = false) :
    untilBare delimiter ('\\' :: text) = '\\' :: untilBare delimiter text := by
  rw [untilBare.eq_def]
  cases text with
  | nil => rfl
  | cons d text =>
      have hd : ¬ isPunctuation d = true := by simpa using h
      simp only [if_true, if_neg hd]

/-- A reader does not stop at anything but the delimiter. -/
theorem untilBare_plain (hbackslash : c ≠ '\\') (hdelimiter : c ≠ delimiter) :
    untilBare delimiter (c :: text) = c :: untilBare delimiter text := by
  rw [untilBare.eq_def]
  dsimp only
  rw [if_neg hbackslash, if_neg hdelimiter]

/-- A backslash is always passed. -/
theorem backslash_prefix_untilBare : ['\\'] <+: untilBare delimiter ('\\' :: text) := by
  cases text with
  | nil => exact List.prefix_rfl
  | cons c text =>
      by_cases hc : isPunctuation c = true
      · rw [untilBare_escape hc]
        exact List.prefix_append ['\\'] _
      · rw [untilBare_backslash (by simpa using hc)]
        exact List.prefix_append ['\\'] _

/-- A reader passes a guarded text, whatever follows it. It comes to each character behind an even
number of backslashes, unless that character is no punctuation. -/
theorem Guarded.passed_behind {done : List Char} (h : Guarded delimiter (done ++ text))
    (hdelimiter : delimiter ∈ text → isPunctuation delimiter = true)
    (hdone : trailingBackslashes done % 2 = 0 ∨ text.head?.any isPunctuation = false) :
    text <+: untilBare delimiter (text ++ rest) := by
  induction hlength : text.length using Nat.strongRecOn generalizing done text with
  | ind n ih =>
      subst hlength
      match text with
      | [] => exact List.nil_prefix
      | c :: text =>
          have hnext : Guarded delimiter (done ++ [c] ++ text) := by
            rwa [List.append_assoc, List.singleton_append]
          have htail : delimiter ∈ text → isPunctuation delimiter = true :=
            fun hin => hdelimiter (List.mem_cons_of_mem c hin)
          by_cases hbackslash : c = '\\'
          · subst hbackslash
            have heven : trailingBackslashes done % 2 = 0 :=
              hdone.resolve_right Bool.false_ne_true.symm
            match text with
            | [] => exact backslash_prefix_untilBare
            | d :: text =>
                by_cases hsign : isPunctuation d = true
                · -- an escape; if it is one of a backslash, the run before it has grown by two
                  have hboth : trailingBackslashes (done ++ ['\\'] ++ [d]) % 2 = 0 := by
                    by_cases hd : d = '\\'
                    · subst hd
                      rw [trailingBackslashes_backslash, trailingBackslashes_backslash]
                      omega
                    · rw [trailingBackslashes_concat hd]
                  rw [List.cons_append, List.cons_append, untilBare_escape hsign,
                    List.cons_prefix_cons, List.cons_prefix_cons]
                  refine ⟨rfl, rfl,
                    ih text.length (Nat.lt_add_of_pos_right Nat.two_pos) ?_ ?_ (.inl hboth) rfl⟩
                  · rwa [List.append_assoc _ [d], List.singleton_append]
                  · exact fun hin =>
                      hdelimiter (List.mem_cons_of_mem _ (List.mem_cons_of_mem d hin))
                · rw [Bool.not_eq_true] at hsign
                  rw [List.cons_append, untilBare_backslash (by exact hsign), List.cons_prefix_cons]
                  exact ⟨rfl, ih (d :: text).length (Nat.lt_succ_self _) hnext htail
                    (.inr hsign) rfl⟩
          · have hother : c ≠ delimiter := by
              rintro rfl
              have hodd := h done text rfl
              rcases hdone with heven | hsign
              · omega
              · rw [List.head?_cons, Option.any_some, hdelimiter List.mem_cons_self] at hsign
                contradiction
            have hrun : trailingBackslashes (done ++ [c]) % 2 = 0 := by
              rw [trailingBackslashes_concat hbackslash]
            rw [List.cons_append, untilBare_plain hbackslash hother, List.cons_prefix_cons]
            exact ⟨rfl, ih text.length (Nat.lt_succ_self _) hnext htail (.inl hrun) rfl⟩

/-- A reader passes a guarded text, whatever follows it. -/
theorem Guarded.passed (h : Guarded delimiter text)
    (hdelimiter : delimiter ∈ text → isPunctuation delimiter = true) :
    text <+: untilBare delimiter (text ++ rest) :=
  @passed_behind _ _ _ [] h hdelimiter (.inl rfl)

end reading

/-! ## Letters -/

/-- What guards a delimiter when letters are written before `after`: it is always escaped. -/
structure Guarding (delimiter : Char) (after : Option Char) (all : List Letter) : Prop extends
    WellEscaped after all where
  escaped : ∀ letter ∈ all, letter.char = delimiter → letter.escaped = true

theorem Guarding.tail {delimiter : Char} {after : Option Char} {letter : Letter}
    {rest : List Letter} (h : Guarding delimiter after (letter :: rest)) :
    Guarding delimiter after rest where
  toWellEscaped := h.toWellEscaped.tail
  escaped := fun other hother => h.escaped other (List.mem_cons_of_mem letter hother)

/-- A reference does not end in a backslash. -/
theorem trailingBackslashes_characterReference (text : List Char) (c : Char) :
    trailingBackslashes (text ++ characterReference c) = 0 := by
  rw [characterReference_eq, ← List.cons_append, ← List.append_assoc]
  exact trailingBackslashes_concat (by decide)

section writing

variable {delimiter : Char} {encode : List Char} {after : Option Char}

/-- What one letter adds to a guarded text: the text stays guarded, and it ends in an even number of
backslashes unless what comes next is no punctuation. -/
theorem Guarding.append_written (encode : List Char) (hbackslash : delimiter ≠ '\\')
    (hreference : isReferenceSign delimiter = false) {letter : Letter} {rest : List Letter}
    (h : Guarding delimiter after (letter :: rest)) {done : List Char}
    (hdone : Guarded delimiter done)
    (hrun : trailingBackslashes done % 2 = 0 ∨ isPunctuation letter.front = false) :
    Guarded delimiter (done ++ letter.written encode (behind after rest)) ∧
      (trailingBackslashes (done ++ letter.written encode (behind after rest)) % 2 = 0 ∨
        (behind after rest).any isPunctuation = false) := by
  obtain ⟨c, escaped⟩ := letter
  rcases h.written_cases encode with
    ⟨hescaped, hwritten⟩ | ⟨hescaped, -, hwritten⟩ | ⟨-, hreferenceable, hwritten⟩
  · -- a character left alone is not the delimiter
    obtain rfl : escaped = false := hescaped
    have hother : c ≠ delimiter := by
      intro hc
      exact absurd (h.escaped _ List.mem_cons_self hc) Bool.false_ne_true
    rw [hwritten]
    by_cases hc : c = '\\'
    · subst hc
      rw [plainChar_backslash]
      split
      · have heven : trailingBackslashes done % 2 = 0 := hrun.resolve_right Bool.false_ne_true.symm
        refine ⟨hdone.append (by simpa using hbackslash), .inl ?_⟩
        rw [← List.singleton_append, ← List.append_assoc, trailingBackslashes_backslash,
          trailingBackslashes_backslash]
        omega
      · next hbehind =>
          exact ⟨hdone.append (by simpa using hbackslash), .inr (by simpa using hbehind)⟩
    · rw [plainChar_of_ne hc, trailingBackslashes_concat hc]
      exact ⟨hdone.append (by simpa using hother.symm), .inl rfl⟩
  · -- an escape by a backslash, which makes an even run odd
    obtain rfl : escaped = true := hescaped
    have heven : trailingBackslashes done % 2 = 0 := hrun.resolve_right Bool.false_ne_true.symm
    rw [hwritten, ← List.singleton_append, ← List.append_assoc]
    constructor
    · refine guarded_concat.mpr ⟨hdone.append (by simpa using hbackslash), fun _ => ?_⟩
      rw [trailingBackslashes_backslash]
      omega
    · left
      by_cases hc : c = '\\'
      · subst hc
        rw [trailingBackslashes_backslash, trailingBackslashes_backslash]
        omega
      · rw [trailingBackslashes_concat hc]
  · -- an escape by a reference
    rw [hwritten, trailingBackslashes_characterReference]
    exact ⟨hdone.append (not_mem_characterReference hreference), .inl rfl⟩

/-- Letters written behind a guarded text leave it guarded. -/
theorem Guarding.append_writeLetters (hbackslash : delimiter ≠ '\\')
    (hreference : isReferenceSign delimiter = false) {all : List Letter}
    (h : Guarding delimiter after all) {done : List Char} (hdone : Guarded delimiter done)
    (hrun : trailingBackslashes done % 2 = 0 ∨ (behind after all).any isPunctuation = false) :
    Guarded delimiter (done ++ writeLetters encode after all) := by
  induction all generalizing done with
  | nil => rwa [writeLetters, List.append_nil]
  | cons letter rest ih =>
      obtain ⟨hnext, hrunNext⟩ := h.append_written encode hbackslash hreference hdone hrun
      rw [writeLetters_cons, ← List.append_assoc]
      exact ih h.tail hnext hrunNext

/-- A delimiter that is no punctuation is written as a reference wherever it occurs. -/
theorem Guarding.not_mem_writeLetters (hsign : isPunctuation delimiter = false)
    (hreference : isReferenceSign delimiter = false) {all : List Letter}
    (h : Guarding delimiter after all) : delimiter ∉ writeLetters encode after all := by
  have hbackslash : delimiter ≠ '\\' := by
    rintro rfl
    contradiction
  refine MarkdownWriter.not_mem_writeLetters hbackslash hreference ?_ h.escaped
  rw [hsign]
  exact fun h => absurd h Bool.false_ne_true

end writing

/-! ## Literal texts -/

section literal

variable {stack : List Construct} {input : List Char} {around : Surroundings} {rule : Rule}

/-- The letters of a text guard the character of every rule that applies and has no condition. -/
theorem guarding_lettersBetween (input : List Char) (around : Surroundings)
    (hmem : rule ∈ Rule.defaults) (happlies : rule.applies stack = true)
    (hleading : rule.leading = false) (htrailing : rule.trailing = false) :
    Guarding rule.character around.after.head? (lettersBetween Rule.defaults stack input around)
      where
  toWellEscaped := wellEscaped_lettersBetween
  escaped := escaped_of_anywhere (fun _ h => h) hmem happlies hleading htrailing

/-- **Delimiters are never bare.** The character of a rule that applies and has no condition stands
behind an odd number of backslashes wherever it is written, is not written at all if it is no
punctuation, and does not stop a reader inside the text, whatever follows. -/
theorem guarded_escapeLiteral (hmem : rule ∈ Rule.defaults) (happlies : rule.applies stack = true)
    (hleading : rule.leading = false) (htrailing : rule.trailing = false) :
    Guarded rule.character (escapeLiteral Rule.defaults stack input around) ∧
      (isPunctuation rule.character = false →
        rule.character ∉ escapeLiteral Rule.defaults stack input around) ∧
      ∀ rest, escapeLiteral Rule.defaults stack input around <+:
        untilBare rule.character (escapeLiteral Rule.defaults stack input around ++ rest) := by
  have hcharacter : ∀ rule ∈ Rule.defaults, rule.leading = false → rule.trailing = false →
      rule.character ≠ '\\' ∧ isReferenceSign rule.character = false := by
    decide
  obtain ⟨hbackslash, hreference⟩ := hcharacter rule hmem hleading htrailing
  have hguarding := guarding_lettersBetween input around hmem happlies hleading htrailing
  have hguarded : Guarded rule.character (escapeLiteral Rule.defaults stack input around) :=
    hguarding.append_writeLetters hbackslash hreference (guarded_nil _) (.inl rfl)
  have habsent : isPunctuation rule.character = false →
      rule.character ∉ escapeLiteral Rule.defaults stack input around :=
    fun hsign => hguarding.not_mem_writeLetters hsign hreference
  refine ⟨hguarded, habsent, fun rest => hguarded.passed ?_⟩
  intro hin
  by_contra hsign
  exact habsent (by simpa using hsign) hin

end literal

/-- The label of a link with brackets behind one and two backslashes and a backslash at its end: a
reader of the link comes to the end of the label. -/
theorem guarded_escapeLiteral_label :
    escapeLiteral Rule.defaults [.label, .phrasing] "\\]\\\\]\\".toList ⟨['['], "](b)".toList, []⟩ =
        "\\\\\\]\\\\\\\\\\]\\\\".toList ∧
      Guarded ']' "\\\\\\]\\\\\\\\\\]\\\\".toList ∧
      "\\\\\\]\\\\\\\\\\]\\\\".toList <+: untilBare ']' "\\\\\\]\\\\\\\\\\]\\\\](b)".toList := by
  have hwritten :
      escapeLiteral Rule.defaults [.label, .phrasing] "\\]\\\\]\\".toList
        ⟨['['], "](b)".toList, []⟩ = "\\\\\\]\\\\\\\\\\]\\\\".toList := by
    decide +kernel
  have hrule : Rule.anywhereIn [.label, .reference] ']' ∈ Rule.defaults := by
    simp [Rule.defaults, Rule.whitespaceRules, Rule.punctuationRules]
  have hguarded :=
    @guarded_escapeLiteral [.label, .phrasing] "\\]\\\\]\\".toList
      ⟨['['], "](b)".toList, []⟩ _ hrule
    rfl rfl rfl
  rw [hwritten] at hguarded
  exact ⟨hwritten, hguarded.1, hguarded.2.2 "](b)".toList⟩

end MarkdownWriter
