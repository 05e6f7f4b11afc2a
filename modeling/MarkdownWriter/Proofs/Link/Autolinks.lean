import MarkdownWriter.Proofs.Heading.OneLine

/-!
# Autolinks

An autolink holds an absolute URI or an email address between angle brackets, and backslashes in it
are no escapes (`readAutolink`). A link is written in that form if its only child is a text with its
url.

* **Writing** (`Layout.escapeLiteral_autolink`): nothing is escaped in such a text, since it holds
  no line endings, but a backslash in front of punctuation is still doubled.
* **Reading** (`readAutolink_autolinkText_iff`): so the autolink leads elsewhere if there is such a
  backslash. It also does if the scheme is longer than a scheme may be, or if what stands behind
  `mailto:` is no email address. In all other cases it leads to the url of the link
  (`Writer.LaysOut.readAutolink_iff`).
-/

namespace MarkdownWriter

open Text

/-! ## Reading -/

/-- Whether a text is the scheme of an autolink: two to 32 letters, digits and `+`, `.`, `-`, a
letter first. -/
def isScheme (text : List Char) : Bool :=
  2 ≤ text.length && text.length ≤ 32 && text.head?.any isLetter &&
    text.all fun c => isLetter c || isDigit c || c == '+' || c == '.' || c == '-'

/-- Whether a character may not stand in an autolink: spaces, controls and angle brackets. -/
def isBarredFromUri (c : Char) : Bool :=
  c ≤ ' ' || c == '<' || c == '>' || c == '\x7f'

/-- Whether a text is an absolute URI as autolinks have them: a scheme, a colon, and anything that
is not barred. -/
def isUri (text : List Char) : Bool :=
  text.contains ':' && isScheme (text.takeWhile (· != ':')) && !text.any isBarredFromUri

/-- Whether a character may stand in front of the `@` of an email address. -/
def isMailboxCharacter (c : Char) : Bool :=
  isLetter c || isDigit c ||
    ['.', '!', '#', '$', '%', '&', '\'', '*', '+', '/', '=', '?', '^', '_', '\x60', '\x7b', '|',
      '\x7d', '~', '-'].contains c

/-- Whether a text may stand between the dots of a domain: 63 letters, digits and `-` at most, no
`-` at either end. -/
def isDomainLabel (text : List Char) : Bool :=
  text.length ≤ 63 && text.all (fun c => isLetter c || isDigit c || c == '-') &&
    text.head?.any (fun c => isLetter c || isDigit c) && text.getLast?.any fun c =>
      isLetter c || isDigit c

/-- Whether a text is an email address as autolinks have them. -/
def isEmail (text : List Char) : Bool :=
  match text.dropWhile (· != '@') with
  | [] => false
  | _ :: domain =>
      !(text.takeWhile (· != '@')).isEmpty && (text.takeWhile (· != '@')).all isMailboxCharacter &&
        (domain.splitOnP (· == '.')).all isDomainLabel

/-- Where an autolink with such a text leads. -/
def autolinkTarget (text : List Char) : Option (List Char) :=
  if isUri text then some text
  else if isEmail text then some ("mailto:".toList ++ text)
  else none

/-- Where the autolink leads that a text begins with, and what stands behind it. Backslashes are not
read as escapes. -/
def readAutolink : List Char → Option (List Char × List Char)
  | '<' :: rest =>
      match rest.dropWhile (· != '>') with
      | [] => none
      | _ :: more => (autolinkTarget (rest.takeWhile (· != '>'))).map (·, more)
  | _ => none

section reading

variable {text : List Char}

/-- An autolink is read up to the first closing bracket. -/
theorem readAutolink_eq (h : '>' ∉ text) (more : List Char) :
    readAutolink ('<' :: text ++ '>' :: more) = (autolinkTarget text).map (·, more) := by
  have hall : ∀ c ∈ text, (c != '>') = true := fun c hc => by
    rw [bne_iff_ne]
    rintro rfl
    exact h hc
  rw [List.cons_append, readAutolink, List.dropWhile_append_of_pos hall,
    List.takeWhile_append_of_pos hall]
  simp

/-- What a text is split at does not take other characters away. -/
theorem exists_mem_splitOnP {p : Char → Bool} {c : Char} (hc : p c = false) (hmem : c ∈ text) :
    ∃ part ∈ text.splitOnP p, c ∈ part := by
  induction text with
  | nil => contradiction
  | cons d text ih =>
      rw [List.splitOnP_cons_eq_if_modifyHead]
      split
      · next hd =>
          rcases List.mem_cons.mp hmem with rfl | hmem
          · rw [hc] at hd
            contradiction
          · obtain ⟨part, hpart, hcpart⟩ := ih hmem
            exact ⟨part, List.mem_cons_of_mem _ hpart, hcpart⟩
      · obtain ⟨first, parts, hparts⟩ := List.exists_cons_of_ne_nil (List.splitOnP_ne_nil p text)
        rw [hparts, List.modifyHead_cons]
        rcases List.mem_cons.mp hmem with rfl | hmem
        · exact ⟨_, List.mem_cons_self, List.mem_cons_self⟩
        · obtain ⟨part, hpart, hcpart⟩ := ih hmem
          rw [hparts] at hpart
          rcases List.mem_cons.mp hpart with rfl | hpart
          · exact ⟨_, List.mem_cons_self, List.mem_cons_of_mem _ hcpart⟩
          · exact ⟨part, List.mem_cons_of_mem _ hpart, hcpart⟩

/-- Around its `@` an email address is made of few characters. -/
theorem isMailboxCharacter_of_isEmail (h : isEmail text = true) {c : Char} (hmem : c ∈ text) :
    isMailboxCharacter c = true ∨ c = '@' := by
  unfold isEmail at h
  split at h
  · contradiction
  · next sign domain hdomain =>
      simp only [Bool.and_eq_true, List.all_eq_true] at h
      obtain ⟨⟨-, hname⟩, hlabels⟩ := h
      rw [← @List.takeWhile_append_dropWhile _ (· != '@') text, hdomain, List.mem_append,
        List.mem_cons] at hmem
      rcases hmem with hmem | rfl | hmem
      · exact .inl (hname c hmem)
      · have hsign := List.head?_dropWhile_not (· != '@') text
        rw [hdomain] at hsign
        exact .inr (by simpa using hsign)
      · by_cases hdot : c = '.'
        · exact .inl (hdot ▸ rfl)
        · obtain ⟨label, hlabel, hc⟩ :=
            @exists_mem_splitOnP domain (· == '.') c (beq_eq_false_iff_ne.mpr hdot) hmem
          have hlabel := hlabels label hlabel
          simp only [isDomainLabel, Bool.and_eq_true, List.all_eq_true, Bool.or_eq_true,
            beq_iff_eq] at hlabel
          rcases hlabel.1.1.2 c hc with (hc | hc) | rfl
          · exact .inl (by simp [isMailboxCharacter, hc])
          · exact .inl (by simp [isMailboxCharacter, hc])
          · exact .inl rfl

/-- An address has neither a colon nor a backslash in it. -/
theorem not_mem_of_isEmail (h : isEmail text = true) : ':' ∉ text ∧ '\\' ∉ text :=
  ⟨fun hmem => absurd (isMailboxCharacter_of_isEmail h hmem) (by decide),
    fun hmem => absurd (isMailboxCharacter_of_isEmail h hmem) (by decide)⟩

end reading

/-! ## Writing -/

/-- The text of an autolink as it is written: nothing is escaped, but backslashes are doubled where
they would escape what follows. -/
def Layout.autolinkText (text : List Char) : List Char :=
  writeLetters [] (some '>') (text.map .plain)

namespace Layout

section writing

variable {text : List Char}

/-- The text of an autolink, character by character. -/
theorem autolinkText_cons (c : Char) (text : List Char) :
    autolinkText (c :: text) = plainChar c (text ++ ['>']).head? ++ autolinkText text := by
  unfold autolinkText
  rw [List.map_cons, writeLetters_cons]
  cases text <;> rfl

/-- Backslashes are written for backslashes only. -/
theorem mem_autolinkText {c : Char} : c ∈ autolinkText text ↔ c ∈ text := by
  induction text with
  | nil => rfl
  | cons d text ih => rw [autolinkText_cons, List.mem_append, mem_plainChar, ih, List.mem_cons]

/-- Other characters are written once. -/
theorem filter_autolinkText : (autolinkText text).filter (· != '\\') = text.filter (· != '\\') := by
  induction text with
  | nil => rfl
  | cons c text ih =>
      rw [autolinkText_cons, List.filter_append, ih, List.filter_cons]
      by_cases hc : c = '\\'
      · subst hc
        rw [plainChar_backslash]
        split <;> simp
      · simp [plainChar_of_ne hc, hc]

/-- A character is written once or twice. -/
theorem plainChar_cases (c : Char) (next : Option Char) :
    plainChar c next = [c] ∨ plainChar c next = [c, c] := by
  unfold plainChar
  split
  · exact .inr rfl
  · exact .inl rfl

/-- Nothing of an autolink is lost. -/
theorem length_le_autolinkText (text : List Char) : text.length ≤ (autolinkText text).length := by
  induction text with
  | nil => exact Nat.le_refl _
  | cons c text ih =>
      rw [autolinkText_cons, List.length_append, List.length_cons]
      rcases plainChar_cases c (text ++ ['>']).head? with hc | hc
      · rw [hc, List.length_singleton]
        omega
      · rw [hc, List.length_cons]
        omega

/-- A character is doubled if it is a backslash in front of punctuation. -/
theorem plainChar_eq_singleton_iff {c : Char} {rest : List Char} :
    plainChar c rest.head? = [c] ↔ ∀ d, isPunctuation d = true → ¬ ['\\', d] <+: c :: rest := by
  by_cases hc : c = '\\'
  · subst hc
    rw [plainChar_backslash]
    cases rest with
    | nil => simp
    | cons d rest =>
        cases hd : isPunctuation d with
        | true => simp [hd]
        | false =>
            simp only [List.head?_cons, Option.any_some, hd, Bool.false_eq_true, if_false, true_iff]
            rintro e he h
            obtain rfl : e = d := by simpa using h
            rw [hd] at he
            contradiction
  · simp [plainChar_of_ne hc, Ne.symm hc]

/-- A text is written as it is unless there is a backslash in front of punctuation, the closing
bracket included. -/
theorem autolinkText_eq_self_iff :
    autolinkText text = text ↔ ∀ d, isPunctuation d = true → ¬ ['\\', d] <:+: text ++ ['>'] := by
  induction text with
  | nil =>
      refine iff_of_true rfl fun d _ h => ?_
      have hlength := h.length_le
      simp at hlength
  | cons c text ih =>
      simp only [List.cons_append, List.infix_cons_iff, not_or, forall_and,
        ← plainChar_eq_singleton_iff, ← ih]
      rw [autolinkText_cons]
      constructor
      · intro h
        rcases plainChar_cases c (text ++ ['>']).head? with hplain | hplain
        · rw [hplain] at h
          exact ⟨hplain, (List.cons.inj h).2⟩
        · have hlength := congrArg List.length h
          rw [hplain, List.length_append, List.length_cons, List.length_singleton,
            List.length_cons] at hlength
          have hle := length_le_autolinkText text
          omega
      · rintro ⟨hplain, htext⟩
        rw [hplain, htext]
        rfl

/-- In an autolink no rule about unsafe characters flags anything: all that apply are about the
start of a line. -/
theorem escapeLiteral_autolink (htext : ∀ c ∈ text, isLineBreak c = false) :
    escapeLiteral Rule.defaults [.autolink] text ⟨['<'], ['>'], []⟩ = autolinkText text := by
  have hrules : ∀ rule ∈ Rule.defaults, rule.applies [.autolink] = true → rule.atBreak = true := by
    decide
  have hplain : ∀ letter ∈ lettersBetween Rule.defaults [.autolink] text ⟨['<'], ['>'], []⟩,
      letter.escaped = false := by
    intro letter hletter
    rw [← Bool.not_eq_true]
    intro hescaped
    obtain ⟨i, hi⟩ := List.mem_iff_getElem?.mp hletter
    obtain ⟨hc, hiff⟩ := getElem?_lettersBetween_eq_some.mp hi
    obtain ⟨rule, hmem, hflags⟩ := (hiff.mp hescaped).1
    have htake :
        (Surroundings.enclose ⟨['<'], ['>'], []⟩ text).take (1 + i) = [] ++ '<' :: text.take i := by
      have hlt := (List.getElem?_eq_some_iff.mp hc).1
      rw [Surroundings.enclose, List.append_assoc, Nat.add_comm, List.singleton_append,
        List.take_succ_cons, List.take_append_of_le_length (Nat.le_of_lt hlt), List.nil_append]
    exact not_mem_positions_of_take hmem (hrules rule hmem hflags.1) htake (by decide)
      (fun d hd => htext d (List.mem_of_mem_take hd)) hflags.2
  unfold escapeLiteral autolinkText
  rw [eq_map_plain hplain, map_char_lettersBetween]
  rfl

end writing

end Layout

/-! ## Links that are autolinks -/

/-- What is known of a link that is written as an autolink. -/
theorem Resource.exists_url_of_isAutolink {target : Resource} {style : Style} {children : List Node}
    (h : target.isAutolink style children = true) :
    ∃ value : String, children = [.leaf (.text value)] ∧
      (value.toList = target.url.toList ∨ "mailto:".toList ++ value.toList = target.url.toList) ∧
      hasScheme target.url.toList = true ∧ target.url.toList.any isBarredFromUri = false := by
  unfold isAutolink at h
  split at h
  · next value =>
      simp only [Bool.and_eq_true, Bool.or_eq_true, Bool.not_eq_true', beq_iff_eq] at h
      exact ⟨value, rfl, h.1.1.2, h.1.2, h.2⟩
  · contradiction

/-- A text with a scheme in which nothing is barred is a URI if the scheme is not too long. -/
theorem isUri_iff {text : List Char} (hscheme : hasScheme text = true)
    (hplain : text.any isBarredFromUri = false) :
    isUri text = true ↔ (text.takeWhile (· != ':')).length ≤ 32 := by
  simp only [hasScheme, Bool.and_eq_true, decide_eq_true_eq, List.all_eq_true,
    Bool.or_eq_true] at hscheme
  obtain ⟨⟨⟨hcolon, hhead⟩, hlong⟩, hall⟩ := hscheme
  have hcharacters : ∀ c ∈ text.takeWhile (· != ':'),
      (((isLetter c = true ∨ isDigit c = true) ∨ (c == '+') = true) ∨ (c == '.') = true) ∨
        (c == '-') = true := by
    intro c hc
    rcases hall c hc with ((hc | hc) | hc) | hc <;> simp [hc]
  simp only [isUri, isScheme, hcolon, hplain, hhead, hlong, Bool.and_eq_true, decide_eq_true_eq,
    List.all_eq_true, Bool.or_eq_true]
  constructor
  · rintro ⟨⟨-, ⟨⟨-, hshort⟩, -⟩, -⟩, -⟩
    exact hshort
  · intro hshort
    exact ⟨⟨trivial, ⟨⟨trivial, hshort⟩, trivial⟩, hcharacters⟩, rfl⟩

/-- Without backslashes a text is written as it is. -/
theorem Layout.autolinkText_eq_self {text : List Char} (h : '\\' ∉ text) :
    autolinkText text = text := by
  have hplain {text : List Char} (h : '\\' ∉ text) : text.filter (· != '\\') = text :=
    List.filter_eq_self.mpr fun c hc => bne_iff_ne.mpr fun heq => h (heq ▸ hc)
  calc
    autolinkText text = (autolinkText text).filter (· != '\\') :=
      (hplain (mt mem_autolinkText.mp h)).symm
    _ = text.filter (· != '\\') := filter_autolinkText
    _ = text := hplain h

/-- **What an autolink is read as.** It leads to the url exactly if its text is written as it is,
and is the url with a scheme that is not too long or an email address. -/
theorem readAutolink_autolinkText_iff {value url : List Char}
    (hurl : value = url ∨ "mailto:".toList ++ value = url)
    (hscheme : hasScheme url = true) (hplain : url.any isBarredFromUri = false) (more : List Char) :
    readAutolink ('<' :: Layout.autolinkText value ++ '>' :: more) = some (url, more) ↔
      Layout.autolinkText value = value ∧
        ((value = url ∧ (url.takeWhile (· != ':')).length ≤ 32) ∨
          ("mailto:".toList ++ value = url ∧ isEmail value = true)) := by
  have hbracket : '>' ∉ Layout.autolinkText value := by
    rw [Layout.mem_autolinkText]
    intro hmem
    have hmem : '>' ∈ url := by
      rcases hurl with rfl | rfl
      · exact hmem
      · exact List.mem_append_right _ hmem
    exact absurd (List.any_eq_false.mp hplain _ hmem) (by decide)
  have hread : readAutolink ('<' :: Layout.autolinkText value ++ '>' :: more) = some (url, more) ↔
      autolinkTarget (Layout.autolinkText value) = some url := by
    rw [readAutolink_eq hbracket]
    simp
  rw [hread]
  unfold autolinkTarget
  constructor
  · intro h
    split at h
    · next huri =>
        have hwritten := Option.some.inj h
        rcases hurl with rfl | rfl
        · rw [hwritten] at huri
          exact ⟨hwritten, .inl ⟨rfl, (isUri_iff hscheme hplain).mp huri⟩⟩
        · have hfilter := congrArg (List.filter (· != '\\')) hwritten
          rw [Layout.filter_autolinkText, List.filter_append] at hfilter
          have hlength := congrArg List.length hfilter
          simp only [List.length_append] at hlength
          have hmailto : ("mailto:".toList.filter (· != '\\')).length = 7 := by decide
          omega
    · split at h
      · next hemail =>
          have hbackslash := (not_mem_of_isEmail hemail).2
          rw [Layout.mem_autolinkText] at hbackslash
          have hself := Layout.autolinkText_eq_self hbackslash
          rw [hself] at h hemail
          exact ⟨hself, .inr ⟨Option.some.inj h, hemail⟩⟩
      · contradiction
  · rintro ⟨hself, ⟨rfl, hshort⟩ | ⟨rfl, hemail⟩⟩
    · rw [hself, if_pos ((isUri_iff hscheme hplain).mpr hshort)]
    · have huri : ¬ isUri value = true := by
        intro huri
        simp only [isUri, Bool.and_eq_true, List.contains_iff_mem] at huri
        exact (not_mem_of_isEmail hemail).1 huri.1.1
      rw [hself, if_neg huri, if_pos hemail]

namespace Writer

variable {writer : Writer}

/-- **How an autolink is written, and where it leads.** Between the brackets stands the text of the
link, as it is if it has no backslash in front of punctuation. The autolink leads to the url of the
link exactly if the text is written as it is, and is either the url, with a scheme of 32 characters
at most, or an email address that `mailto:` is left out of. -/
theorem LaysOut.readAutolink_iff (hlink : writer.LaysOut .link) (htext : writer.LaysOut .text)
    (hrules : writer.rules = Rule.defaults) {target : Resource} {children : List Node}
    {state : State} (hstyle : state.style.validate = .ok ())
    (hautolink : target.isAutolink state.style children = true)
    (parent : Option Node) (site : Site) :
    ∃ (value : String) (written : List Char), children = [.leaf (.text value)] ∧
      writer.render (.branch (.link target) children) parent site state =
        (.ok ('<' :: written ++ ['>']), state) ∧
      (written = value.toList ↔
        ∀ d, isPunctuation d = true → ¬ ['\\', d] <:+: value.toList ++ ['>']) ∧
      ∀ more, readAutolink ('<' :: written ++ '>' :: more) = some (target.url.toList, more) ↔
        written = value.toList ∧
          ((value = target.url ∧ (target.url.toList.takeWhile (· != ':')).length ≤ 32) ∨
            ("mailto:" ++ value = target.url ∧ isEmail value.toList = true)) := by
  obtain ⟨value, rfl, hurl, hscheme, hplain⟩ := Resource.exists_url_of_isAutolink hautolink
  obtain ⟨_, hchildren, hline⟩ := Resource.exists_text_of_isAutolink hautolink
  obtain rfl : value = _ := by simpa using hchildren
  refine ⟨value, Layout.autolinkText value.toList, rfl, ?_, Layout.autolinkText_eq_self_iff,
    fun more => ?_⟩
  · obtain ⟨quote, hquote⟩ := (Style.provides_of_validate hstyle).quote
    have hbreaks : ∀ c ∈ value.toList, isLineBreak c = false := hasLineEnding_eq_false_iff.mp hline
    rw [hlink.render_eq_layout rfl]
    change Layout.link _ _ _ _ _ state = _
    unfold Layout.link
    rw [Render.bind_run_ok (Render.ofStyle_eq_ok.mpr ⟨hquote, rfl⟩),
      Render.bind_run_ok (Render.get_run _), if_pos hautolink]
    refine Render.isolated_eq_ok.mpr ⟨{ state with constructs := [] }, Render.entering_run ?_, rfl⟩
    rw [Render.bind_run_ok (htext.inlines_text rfl _ _), hrules,
      Layout.escapeLiteral_autolink hbreaks]
    rfl
  · rw [readAutolink_autolinkText_iff hurl hscheme hplain, ← String.toList_inj, ← String.toList_inj,
      String.toList_append]

end Writer

/-! ## Links with a text -/

/-- A link with a text as its only child. -/
def textLink (url text : String) : Node :=
  .branch (.link { url := url }) [.leaf (.text text)]

/-- An email address is written as it is and leads to the url. -/
theorem readAutolink_emailLink :
    ∃ written,
      Writer.standard.render (textLink "mailto:a.b@c.d" "a.b@c.d") none (Writer.blockSite {})
        {} = (.ok ('<' :: written ++ ['>']), {}) ∧
      readAutolink ('<' :: written ++ ['>']) = some ("mailto:a.b@c.d".toList, []) := by
  obtain ⟨value, written, hchildren, hrender, hself, hread⟩ :=
    @Writer.LaysOut.readAutolink_iff Writer.standard
    (Writer.laysOut_of_defaults rfl _) (Writer.laysOut_of_defaults rfl _) rfl
      { url := "mailto:a.b@c.d" }
    [.leaf (.text "a.b@c.d")] {} (by decide) (by decide +kernel) none (Writer.blockSite {})
  obtain rfl : value = "a.b@c.d" := by simpa using hchildren.symm
  refine ⟨written, hrender,
    (hread []).mpr ⟨hself.mpr fun d _ hinfix => ?_, .inr ⟨by decide, by decide +kernel⟩⟩⟩
  have hbackslash : '\\' ∈ "a.b@c.d".toList ++ ['>'] := hinfix.subset List.mem_cons_self
  revert hbackslash
  decide

/-- The text of an autolink may be written with one backslash more, be no email address, or have a
scheme that is too long. Then it is read as another url, or as none. -/
theorem render_misreadLinks :
    (¬ ∀ (target : Resource) (value : String), target.isAutolink {} [.leaf (.text value)] = true →
      (Writer.standard.render (.branch (.link target) [.leaf (.text value)]) none
        (Writer.blockSite {}) {}).1 = .ok ('<' :: value.toList ++ ['>']) ∧
      readAutolink ('<' :: value.toList ++ ['>']) = some (target.url.toList, [])) ∧
      toMarkdown (.node {} []) (textLink "https://a.b/\\*" "https://a.b/\\*") =
        .ok "<https://a.b/\\\\*>\n" ∧
      readAutolink "<https://a.b/\\\\*>".toList = some ("https://a.b/\\\\*".toList, []) ∧
      toMarkdown (.node {} []) (textLink "mailto:ab" "ab") = .ok "<ab>\n" ∧
      readAutolink "<ab>".toList = none ∧
      toMarkdown (.node {} [])
          (textLink "aaaaaaaaaaaaaaaaaaaaaaaaaaaaaaaaa:b" "aaaaaaaaaaaaaaaaaaaaaaaaaaaaaaaaa:b") =
        .ok "<aaaaaaaaaaaaaaaaaaaaaaaaaaaaaaaaa:b>\n" ∧
      readAutolink "<aaaaaaaaaaaaaaaaaaaaaaaaaaaaaaaaa:b>".toList = none := by
  refine ⟨fun hall => ?_, by decide +kernel, by decide +kernel, by decide +kernel,
    by decide +kernel, by decide +kernel, by decide +kernel⟩
  have hread := (hall { url := "mailto:ab" } "ab" (by decide +kernel)).2
  revert hread
  decide +kernel

end MarkdownWriter
