import MarkdownWriter.Text.Entities
import Mathlib.Tactic.Common

/-!
# Reading escapes and references back

Equations of `decodeWith`, one for each way a text can begin, and what has to be known about a table
of references so that the references the library writes are read back (`References.IsStandard`). The
table of HTML is one such (`isStandard_htmlReferences`).

The library writes references only for characters that rules flag, which are tabs, line breaks and
printable ASCII characters. So that is all the first field asks for. The second says that names
begin with letters: an ampersand the library leaves alone may be followed by a digit.

* **What a reference is** (`readReference_eq_some_iff`): a body of letters and digits, or of `#` and
  more of them, that the table knows, up to a semicolon. So a space cuts a text in two that are
  decoded apart (`decodeWith_append_space`).
* **Texts with references in them** (`resolveReferences_eq_self_iff`): resolving the references of a
  text, and nothing else, changes it exactly if it holds one.
-/

namespace MarkdownWriter.Text

/-! ## Equations -/

section equations

variable {references : References} {text value rest : List Char} {c : Char}

@[simp] theorem decodeWith_nil : decodeWith references [] = [] := by
  rw [decodeWith]

/-- A backslash before punctuation is an escape. -/
theorem decodeWith_escape (h : isPunctuation c = true) :
    decodeWith references ('\\' :: c :: text) = c :: decodeWith references text := by
  rw [decodeWith.eq_def]
  simp only [if_true, if_pos h]

/-- A backslash before anything else stands for itself. -/
theorem decodeWith_backslash (h : text.head?.any isPunctuation = false) :
    decodeWith references ('\\' :: text) = '\\' :: decodeWith references text := by
  rw [decodeWith.eq_def]
  cases text with
  | nil => rw [decodeWith_nil]; rfl
  | cons d text =>
      have hd : ¬ isPunctuation d = true := by simpa using h
      simp only [if_true, if_neg hd]

/-- A reference. -/
theorem decodeWith_reference (h : readReference references text = some (value, rest)) :
    decodeWith references ('&' :: text) = value ++ decodeWith references rest := by
  rw [decodeWith.eq_def]
  dsimp only
  rw [if_neg (by decide), if_pos rfl]
  split
  · next heq =>
      obtain ⟨rfl, rfl⟩ := Prod.mk.inj (Option.some.inj (heq.symm.trans h))
      rfl
  · next heq =>
      rw [h] at heq
      contradiction

/-- An ampersand that begins no reference. -/
theorem decodeWith_ampersand (h : readReference references text = none) :
    decodeWith references ('&' :: text) = '&' :: decodeWith references text := by
  rw [decodeWith.eq_def]
  dsimp only
  rw [if_neg (by decide), if_pos rfl]
  split
  · next heq =>
      rw [h] at heq
      contradiction
  · rfl

/-- Any other character. -/
theorem decodeWith_plain (hbackslash : c ≠ '\\') (hampersand : c ≠ '&') :
    decodeWith references (c :: text) = c :: decodeWith references text := by
  rw [decodeWith.eq_def]
  dsimp only
  rw [if_neg hbackslash, if_neg hampersand]

end equations

/-! ## References as they are written -/

/-- What stands between `&` and `;` in the reference of a character. -/
def referenceBody (c : Char) : List Char :=
  '#' :: 'x' :: (hexadecimal c.toNat).map Char.toUpper

/-- A reference stands between an ampersand and a semicolon. -/
theorem characterReference_eq (c : Char) :
    characterReference c = '&' :: (referenceBody c ++ [';']) :=
  rfl

/-- Tabs, line breaks and printable ASCII characters, whose numeric references everyone reads alike.
-/
def isReferenceable (c : Char) : Bool :=
  c == '\t' || c == '\n' || c == '\r' || (' ' ≤ c && c ≤ '~')

/-- What holds of the first 128 characters holds of every referenceable one. -/
theorem forall_isReferenceable {p : Char → Prop}
    (h : ∀ n < 128, isReferenceable (Char.ofNat n) = true → p (Char.ofNat n)) :
    ∀ c, isReferenceable c = true → p c := by
  intro c hc
  have hascii : c.toNat < 128 := by
    simp only [isReferenceable, Bool.or_eq_true, Bool.and_eq_true, beq_iff_eq,
      decide_eq_true_eq] at hc
    rcases hc with ((rfl | rfl) | rfl) | ⟨-, hle⟩
    · decide
    · decide
    · decide
    · exact Nat.lt_of_le_of_lt hle (by decide)
  have hall := h c.toNat hascii
  rw [Char.ofNat_toNat] at hall
  exact hall hc

/-- A written reference has the form of one. -/
theorem hasReferenceForm_referenceBody : ∀ c, isReferenceable c = true →
    hasReferenceForm (referenceBody c) = true :=
  forall_isReferenceable (by decide +kernel)

/-! ## Tables of references -/

/-- A table that knows the numeric references of referenceable characters, and no name that begins
with a digit. -/
structure References.IsStandard (references : References) : Prop where
  numeric : ∀ c, isReferenceable c = true → references (referenceBody c) = some [c]
  unknown : ∀ d name, isDigit d = true → references (d :: name) = none

/-- A table in which every reference is longer than what it stands for; it has an ampersand and a
semicolon besides what stands between them. -/
def References.Shorten (references : References) : Prop :=
  ∀ body value, references body = some value → value.length ≤ body.length + 1

/-- The names of HTML begin with letters. -/
theorem namedReference_of_isDigit {d : Char} (hd : isDigit d = true) (name : List Char) :
    namedReference d name = none := by
  have hreferenceable : isReferenceable d = true := by
    simp only [isDigit, isReferenceable, Bool.and_eq_true, Bool.or_eq_true,
      decide_eq_true_eq] at hd ⊢
    exact .inr ⟨Char.le_trans (by decide) hd.1, Char.le_trans hd.2 (by decide)⟩
  have hsingle : referencesWith d = [] :=
    forall_isReferenceable (p := fun c => isDigit c = true → referencesWith c = [])
      (by decide +kernel) d
      hreferenceable hd
  rw [namedReference, hsingle, List.lookup_nil]

/-- The table of HTML is a standard one. -/
theorem isStandard_htmlReferences : References.IsStandard htmlReferences where
  numeric := forall_isReferenceable (by decide +kernel)
  unknown := by
    intro d name hd
    have hhtml : htmlReferences (d :: name) = (namedReference d name).map fun c => [c] := by
      unfold htmlReferences
      split
      · next heq =>
          rw [(List.cons.inj heq).1] at hd
          exact absurd hd (by decide)
      · next heq =>
          obtain ⟨rfl, rfl⟩ := List.cons.inj heq
          rfl
      · contradiction
    rw [hhtml, namedReference_of_isDigit hd, Option.map_none]

/-- Every reference in the table of HTML stands for one character. -/
theorem shorten_htmlReferences : References.Shorten htmlReferences := by
  intro body value h
  unfold htmlReferences at h
  split at h
  · obtain ⟨c, -, rfl⟩ := Option.map_eq_some_iff.mp h
    exact Nat.le_add_left 1 _
  · obtain ⟨c, -, rfl⟩ := Option.map_eq_some_iff.mp h
    exact Nat.le_add_left 1 _
  · contradiction

/-! ## Reading references back -/

/-- The characters that an ampersand has to be escaped before. -/
def startsReference (c : Char) : Bool :=
  c == '#' || isLetter c

/-- What stands between `&` and `;` is made of letters and digits, behind a `#` if it is a number.
-/
theorem cases_of_hasReferenceForm {body : List Char} (h : hasReferenceForm body = true) :
    (∀ c ∈ body, isLetter c = true ∨ isDigit c = true) ∨
      ∃ d digits, body = '#' :: d :: digits ∧ ∀ c ∈ d :: digits, isLetter c = true ∨
      isDigit c = true := by
  have hhex : ∀ c, isHexDigit c = true → isLetter c = true ∨ isDigit c = true := by
    intro c hc
    simp only [isHexDigit, isLetter, Bool.or_eq_true, Bool.and_eq_true, decide_eq_true_eq] at hc ⊢
    rcases hc with (hc | hc) | hc
    · exact .inr hc
    · exact .inl (.inl ⟨hc.1, Char.le_trans hc.2 (by decide)⟩)
    · exact .inl (.inr ⟨hc.1, Char.le_trans hc.2 (by decide)⟩)
  unfold hasReferenceForm at h
  split at h
  · next d digits =>
      refine .inr ⟨d, digits, rfl, ?_⟩
      split at h
      · next hx =>
          simp only [Bool.and_eq_true, List.all_eq_true] at h
          have hd : isLetter d = true := by
            rcases (by simpa using hx : d = 'x' ∨ d = 'X') with rfl | rfl <;> rfl
          exact List.forall_mem_cons.mpr ⟨.inl hd, fun c hc => hhex c (h.2 c hc)⟩
      · simp only [Bool.and_eq_true, List.all_eq_true] at h
        exact fun c hc => .inr (h.2 c hc)
  · simp only [Bool.and_eq_true, List.all_eq_true, Bool.or_eq_true] at h
    exact .inl h.2

/-- What stands between `&` and `;` has no character in it that is neither `#` nor a letter or
digit. -/
theorem not_mem_of_hasReferenceForm {body : List Char} (h : hasReferenceForm body = true) {c : Char}
    (hhash : c ≠ '#') (hletter : isLetter c = false) (hdigit : isDigit c = false) : c ∉ body := by
  have hnone : ¬ (isLetter c = true ∨ isDigit c = true) := by simp [hletter, hdigit]
  intro hmem
  rcases cases_of_hasReferenceForm h with hall | ⟨d, digits, rfl, hall⟩
  · exact hnone (hall c hmem)
  · rcases List.mem_cons.mp hmem with hc | hmem
    · exact hhash hc
    · exact hnone (hall c hmem)

/-- Behind `&` a reference holds nothing but letters and digits, `#` and its semicolon. -/
theorem not_mem_reference {body : List Char} (h : hasReferenceForm body = true) {c : Char}
    (hsign : c ≠ '#' ∧ c ≠ ';' ∧ isLetter c = false ∧ isDigit c = false) : c ∉ body ++ [';'] := by
  intro hmem
  rcases List.mem_append.mp hmem with hmem | hmem
  · exact not_mem_of_hasReferenceForm h hsign.1 hsign.2.2.1 hsign.2.2.2 hmem
  · exact hsign.2.1 (List.mem_singleton.mp hmem)

section reading

variable {references : References} {text value rest : List Char} {c : Char}

/-- **What a reference is.** -/
theorem readReference_eq_some_iff :
    readReference references text = some (value, rest) ↔
      ∃ body, text = body ++ ';' :: rest ∧ hasReferenceForm body = true ∧
        references body = some value := by
  unfold readReference
  constructor
  · intro h
    split at h
    · next d rest' hdrop =>
        dsimp only at h
        split at h
        · next hform =>
            obtain ⟨c', hc', hpair⟩ := Option.map_eq_some_iff.mp h
            obtain ⟨rfl, rfl⟩ := Prod.mk.inj hpair
            have hd : d = ';' := by
              have hhead := List.head?_dropWhile_not (· != ';') text
              rw [hdrop] at hhead
              simpa using hhead
            subst hd
            exact ⟨_, by rw [← hdrop, List.takeWhile_append_dropWhile], hform, hc'⟩
        · contradiction
    · contradiction
  · rintro ⟨body, rfl, hform, hc⟩
    have hbody : ∀ d ∈ body, (d != ';') = true := by
      intro d hd
      rw [bne_iff_ne]
      rintro rfl
      exact not_mem_of_hasReferenceForm hform (by decide) (by decide) (by decide) hd
    rw [List.dropWhile_append_of_pos hbody, List.takeWhile_append_of_pos hbody]
    simp [hform, hc]

/-- A written reference is read back as its character. -/
theorem decodeWith_characterReference (h : references.IsStandard) (hc : isReferenceable c = true) :
    decodeWith references (characterReference c ++ text) = c :: decodeWith references text := by
  rw [characterReference_eq, List.cons_append, List.append_assoc]
  exact decodeWith_reference (readReference_eq_some_iff.mpr
    ⟨_, rfl, hasReferenceForm_referenceBody c hc, h.numeric c hc⟩)

/-- An ampersand begins no reference unless `#` or a letter follows it. -/
theorem readReference_eq_none (h : references.IsStandard)
    (hhead : text.head?.any startsReference = false) :
    readReference references text = none := by
  rw [Option.eq_none_iff_forall_ne_some]
  rintro ⟨c, rest⟩ hread
  obtain ⟨body, rfl, hform, hc⟩ := readReference_eq_some_iff.mp hread
  rcases cases_of_hasReferenceForm hform with hall | ⟨d, digits, rfl, -⟩
  · cases body with
    | nil => contradiction
    | cons d name =>
        rcases hall d List.mem_cons_self with hletter | hdigit
        · rw [List.cons_append, List.head?_cons, Option.any_some, startsReference, hletter,
            Bool.or_true] at hhead
          contradiction
        · rw [h.unknown d name hdigit] at hc
          contradiction
  · contradiction

/-- A reference does not reach beyond a space. -/
theorem readReference_append_space (more : List Char) :
    readReference references (text ++ ' ' :: more) =
      (readReference references text).map fun read => (read.1, read.2 ++ ' ' :: more) := by
  cases hread : readReference references text with
  | some read =>
      obtain ⟨body, rfl, hform, hc⟩ := readReference_eq_some_iff.mp hread
      exact readReference_eq_some_iff.mpr ⟨body, by simp, hform, hc⟩
  | none =>
      rw [Option.map_none, Option.eq_none_iff_forall_ne_some]
      rintro ⟨c, rest⟩ hread'
      obtain ⟨body, htext, hform, hc⟩ := readReference_eq_some_iff.mp hread'
      rw [List.append_cons body] at htext
      have hshort : ∃ tail, text = (body ++ [';']) ++ tail := by
        rcases List.append_eq_append_iff.mp htext with ⟨tail, hbody, htail⟩ | ⟨tail, heq, -⟩
        · cases tail with
          | nil => exact ⟨[], by rw [hbody, List.append_nil, List.append_nil]⟩
          | cons d tail =>
              obtain ⟨rfl, -⟩ := List.cons.inj htail
              refine absurd ?_ (not_mem_reference hform (by decide) : ' ' ∉ body ++ [';'])
              rw [hbody]
              exact List.mem_append_right text List.mem_cons_self
        · exact ⟨tail, heq⟩
      obtain ⟨tail, rfl⟩ := hshort
      rw [List.append_assoc, List.singleton_append] at hread
      rw [readReference_eq_some_iff.mpr ⟨body, rfl, hform, hc⟩] at hread
      contradiction

/-- A space cuts a text in two that are read on their own. -/
theorem decodeWith_append_space (more : List Char) :
    decodeWith references (text ++ ' ' :: more) = decodeWith references text ++ ' ' :: decodeWith
      references more := by
  fun_induction decodeWith references text with
  | case1 => rw [List.nil_append, decodeWith_plain (by decide) (by decide), List.nil_append]
  | case2 d text hd ih =>
      rw [List.cons_append, List.cons_append, decodeWith_escape hd, ih, List.cons_append]
  | case3 d text hd ih =>
      have hnone : (d :: text ++ ' ' :: more).head?.any isPunctuation = false := by simpa using hd
      rw [List.cons_append, decodeWith_backslash hnone, ih, List.cons_append]
  | case4 =>
      rw [List.singleton_append, decodeWith_backslash rfl, decodeWith_plain (by decide) (by decide)]
      rfl
  | case5 text value rest hfound _ ih =>
      have hread := (readReference_append_space more).trans (congrArg _ hfound)
      rw [List.cons_append, decodeWith_reference hread, ih, List.append_assoc]
  | case6 text hfound _ ih =>
      have hread := (readReference_append_space more).trans (congrArg _ hfound)
      rw [List.cons_append, decodeWith_ampersand hread, ih, List.cons_append]
  | case7 c text hbackslash hampersand ih =>
      rw [List.cons_append, decodeWith_plain hbackslash hampersand, ih, List.cons_append]

end reading

/-! ## Texts with references in them -/

/-- A text with every character reference of a table resolved, and nothing else changed. -/
def resolveReferences (references : References) : List Char → List Char
  | [] => []
  | c :: text =>
      if c = '&' then
        match _found : readReference references text with
        | some (value, rest) => value ++ resolveReferences references rest
        | none => c :: resolveReferences references text
      else c :: resolveReferences references text
termination_by text => text.length
decreasing_by
  · exact Nat.lt_succ_of_lt (length_of_readReference ‹_›)
  · exact Nat.lt_succ_self _
  · exact Nat.lt_succ_self _

/-- Whether a character reference of a table stands somewhere in a text. -/
def holdsReference (references : References) : List Char → Bool
  | [] => false
  | c :: text =>
      (c == '&' && (readReference references text).isSome) || holdsReference references text

section resolving

variable {references : References} {text value rest : List Char} {c : Char}

/-- A reference is replaced by what it stands for. -/
theorem resolveReferences_reference (h : readReference references text = some (value, rest)) :
    resolveReferences references ('&' :: text) = value ++ resolveReferences references rest := by
  rw [resolveReferences.eq_def]
  dsimp only
  rw [if_pos rfl]
  split
  · next heq =>
      obtain ⟨rfl, rfl⟩ := Prod.mk.inj (Option.some.inj (heq.symm.trans h))
      rfl
  · next heq =>
      rw [h] at heq
      contradiction

/-- An ampersand that begins none is kept. -/
theorem resolveReferences_ampersand (h : readReference references text = none) :
    resolveReferences references ('&' :: text) = '&' :: resolveReferences references text := by
  rw [resolveReferences.eq_def]
  dsimp only
  rw [if_pos rfl]
  split
  · next heq =>
      rw [h] at heq
      contradiction
  · rfl

/-- So is every other character. -/
theorem resolveReferences_plain (h : c ≠ '&') :
    resolveReferences references (c :: text) = c :: resolveReferences references text := by
  rw [resolveReferences.eq_def]
  dsimp only
  rw [if_neg h]

/-- Behind its ampersand a reference is not shorter than what it stands for. -/
theorem length_value_of_readReference (hshorten : references.Shorten)
    (h : readReference references text = some (value, rest)) :
    value.length + rest.length ≤ text.length := by
  obtain ⟨body, rfl, -, hvalue⟩ := readReference_eq_some_iff.mp h
  have := hshorten body value hvalue
  rw [List.length_append, List.length_cons]
  omega

/-- Resolving references makes no text longer. -/
theorem length_resolveReferences_le (hshorten : references.Shorten) :
    (resolveReferences references text).length ≤ text.length := by
  fun_induction resolveReferences references text with
  | case1 => exact Nat.le_refl _
  | case2 text value rest hfound ih =>
      have := length_value_of_readReference hshorten hfound
      rw [List.length_append, List.length_cons]
      omega
  | case3 text hfound ih => exact Nat.succ_le_succ ih
  | case4 c text hc ih => exact Nat.succ_le_succ ih

/-- A text stays what it is exactly if it has no reference in it. -/
theorem resolveReferences_eq_self_iff (hshorten : references.Shorten) :
    resolveReferences references text = text ↔ holdsReference references text = false := by
  fun_induction resolveReferences references text with
  | case1 => exact iff_of_true rfl rfl
  | case2 text value rest hfound ih =>
      refine iff_of_false ?_ (by simp [holdsReference, hfound])
      intro heq
      have hlength := congrArg List.length heq
      rw [List.length_append, List.length_cons] at hlength
      have := length_value_of_readReference hshorten hfound
      have := @length_resolveReferences_le references rest hshorten
      omega
  | case3 text hfound ih => simp [holdsReference, hfound, ih]
  | case4 c text hc ih => simp [holdsReference, hc, ih]

end resolving

end MarkdownWriter.Text
