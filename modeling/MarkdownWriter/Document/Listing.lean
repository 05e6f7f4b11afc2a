import MarkdownWriter.Document.Event
import MarkdownWriter.Text.Lines

/-!
# Event listings

A parser that is a program of its own hands its events over as a listing: a line for every
definition and for every event, each a keyword with its arguments. Texts stand between double
quotes, in which `\n`, `\r` and `\t` are the characters they usually are and a backslash before any
other character stands for that character. Everything else is a bare word, and `-` is an argument
that is absent.

definition 40 "label" "/address" - start 0 heading 1 text "A title" end
-/

namespace MarkdownWriter

/-- A document as a parser reports it. -/
structure Listing where
  definitions : List Reference := []
  events : List Event := []
  deriving DecidableEq, Repr, Inhabited

namespace Listing

/-! ## Words -/

/-- A word of a line. -/
inductive Word where
  | bare (value : String)
  | quoted (value : String)
  deriving DecidableEq, Repr

/-- What has been read of the current word, backwards. -/
inductive Pending where
  /-- Between two words. -/
  | gap
  | bare (value : List Char)
  | quoted (value : List Char)
  /-- Directly after a backslash. -/
  | escape (value : List Char)

/-- The character that a backslash and the given character stand for. -/
def escaped : Char → Char
  | 'n' => '\n'
  | 'r' => '\r'
  | 't' => '\t'
  | c => c

/-- The words of a line from the current word on; none at all if the last text does not end. -/
def wordsFrom : Pending → List Char → Option (List Word)
  | .gap, [] => some []
  | .bare value, [] => some [.bare (String.ofList value.reverse)]
  | .quoted _, [] => none
  | .escape _, [] => none
  | .gap, c :: line =>
      if c = ' ' then wordsFrom .gap line
      else if c = '"' then wordsFrom (.quoted []) line
      else wordsFrom (.bare [c]) line
  | .bare value, c :: line =>
      if c = ' ' then (wordsFrom .gap line).map (.bare (String.ofList value.reverse) :: ·)
      else wordsFrom (.bare (c :: value)) line
  | .quoted value, c :: line =>
      if c = '"' then (wordsFrom .gap line).map (.quoted (String.ofList value.reverse) :: ·)
      else if c = '\\' then wordsFrom (.escape value) line
      else wordsFrom (.quoted (c :: value)) line
  | .escape value, c :: line => wordsFrom (.quoted (escaped c :: value)) line

/-! ## Arguments -/

/-- The number a word is. -/
def number : Word → Option Nat
  | .bare value => Text.numeral? value.toList
  | .quoted _ => none

/-- The text a word is. -/
def text : Word → Option String
  | .quoted value => some value
  | .bare _ => none

/-- An argument that may be absent. -/
def orAbsent {α : Type} (read : Word → Option α) (word : Word) : Option (Option α) :=
  if word = .bare "-" then some none else (read word).map some

/-- The form of a link with the given name. -/
def linkForm : Word → Option LinkForm
  | .bare "inline" => some .inline
  | .bare "reference" => some .reference
  | .bare "collapsed" => some .collapsed
  | .bare "shortcut" => some .shortcut
  | .bare "autolink" => some .autolink
  | .bare "email" => some .email
  | _ => none

/-- The form, url, title and label of a link or image. -/
def target : List Word → Option Target
  | [form, url, title, label] => do return ⟨← linkForm form, ← text url, ← text title, ← text label⟩
  | _ => none

/-- The construct that the words after an offset say begins there. -/
def tag : List Word → Option Tag
  | [.bare "paragraph"] => some .paragraph
  | [.bare "heading", level] => (number level).map .heading
  | [.bare "blockquote"] => some .blockquote
  | [.bare "code", info] => (orAbsent text info).map .code
  | [.bare "html"] => some .html
  | [.bare "list", first] => (orAbsent number first).map .list
  | [.bare "item"] => some .item
  | [.bare "emphasis"] => some .emphasis
  | [.bare "strong"] => some .strong
  | .bare "link" :: words => (target words).map .link
  | .bare "image" :: words => (target words).map .image
  | _ => none

/-- The event a line reports. -/
def event : List Word → Option Event
  | .bare "start" :: offset :: words => do return .start (← tag words) (← number offset)
  | [.bare "end"] => some (.finish false)
  | [.bare "end", .bare "paragraph"] => some (.finish true)
  | [.bare "text", value] => (text value).map .text
  | [.bare "code", value] => (text value).map .code
  | [.bare "html", value] => (text value).map .html
  | [.bare "inline-html", value] => (text value).map .inlineHtml
  | [.bare "soft-break"] => some .softBreak
  | [.bare "hard-break"] => some .hardBreak
  | [.bare "rule", offset] => (number offset).map .rule
  | _ => none

/-- The definition a line reports, without its keyword. -/
def definition : List Word → Option Reference
  | [offset, label, url, title] => do
      return ⟨← number offset, ← text label, ← text url, ← orAbsent text title⟩
  | _ => none

/-! ## Lines -/

/-- A listing with one more line, which comes before all others. -/
def push (listing : Listing) : List Word → Option Listing
  | [] => some listing
  | .bare "definition" :: words => do
      return { listing with definitions := (← definition words) :: listing.definitions }
  | words => do return { listing with events := (← event words) :: listing.events }

/-- The listing that lines make, unless one of them reports nothing. -/
def ofLines : List (List Char) → Option Listing
  | [] => some {}
  | line :: lines => do (← ofLines lines).push (← wordsFrom .gap line)

/-- Read a listing. -/
def read (source : List Char) : Option Listing :=
  let lines := Text.Lines.ofText source
  ofLines (lines.first :: lines.rest.map Prod.snd)

end Listing

end MarkdownWriter
