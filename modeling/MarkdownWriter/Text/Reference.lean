import MarkdownWriter.Text.Character
import MarkdownWriter.Text.Record

/-!
# Escapes and character references

Markdown has two ways to write a character so that it cannot be taken for markup: a backslash before
ASCII punctuation, and a character reference (`&amp;`, `&#35;`, `&#x23;`). `characterReference`
writes the hexadecimal form; `decodeWith` reads both ways back, given a table of references.
-/

namespace MarkdownWriter.Text

/-! ## Writing -/

/-- The hexadecimal reference of a character, with capital digits. -/
def characterReference (c : Char) : List Char :=
  ['&', '#', 'x'] ++ (hexadecimal c.toNat).map Char.toUpper ++ [';']

/-! ## Reading -/

/-- The character a numeric reference stands for. NUL, the other C0 controls apart from tab, line
feed, form feed and carriage return, and numbers that are no character have none. -/
def referencedChar (n : Nat) : Option Char :=
  if h : n.isValidChar then
    if n < 0x20 && !(n == 9 || n == 10 || n == 12 || n == 13) then
      none else some (Char.ofNatAux n h)
  else none

/-- Whether what stands between `&` and `;` has the form of a reference: a hexadecimal number of up
to six digits after `#x`, a decimal one of up to seven digits after `#`, or a name of up to 31
letters and digits. -/
def hasReferenceForm : List Char → Bool
  | '#' :: x :: digits =>
      if x == 'x' || x == 'X' then 1 ≤ digits.length && digits.length ≤ 6 && digits.all isHexDigit
      else (x :: digits).length ≤ 7 && (x :: digits).all isDigit
  | name => 1 ≤ name.length && name.length ≤ 31 && name.all fun c => isLetter c || isDigit c

/-- A table of references: the text that what stands between `&` and `;` is read as, if the table
knows one. -/
abbrev References := List Char → Option (List Char)

/-- What the reference stands for whose `&` stands directly before `text`, with what follows its
semicolon. -/
def readReference (references : References) (text : List Char) : Option (List Char × List Char) :=
  match text.dropWhile (· != ';') with
  | _ :: rest =>
      let body := text.takeWhile (· != ';')
      if hasReferenceForm body then (references body).map (·, rest) else none
  | [] => none

theorem length_dropWhile_le (p : Char → Bool) (text : List Char) :
    (text.dropWhile p).length ≤ text.length :=
  (List.dropWhile_suffix p).length_le

theorem length_of_readReference {references : References} {text value rest : List Char}
    (h : readReference references text = some (value, rest)) : rest.length < text.length := by
  unfold readReference at h
  have := length_dropWhile_le (· != ';') text
  split at h
  · next heq =>
      dsimp only at h
      split at h
      · obtain ⟨_, _, hpair⟩ := Option.map_eq_some_iff.1 h
        cases hpair
        rw [heq] at this
        exact this
      · contradiction
  · contradiction

/-- The text with every backslash escape and every character reference of a table resolved; what
only looks like one stays as it is. -/
def decodeWith (references : References) : List Char → List Char
  | [] => []
  | c :: text =>
      if c = '\\' then
        match text with
        | d :: rest =>
            if isPunctuation d then d :: decodeWith references rest else '\\' :: decodeWith
              references (d :: rest)
        | [] => ['\\']
      else if c = '&' then
        match _found : readReference references text with
        | some (value, rest) => value ++ decodeWith references rest
        | none => '&' :: decodeWith references text
      else c :: decodeWith references text
termination_by text => text.length
decreasing_by
  · simp only [List.length_cons]; omega
  · exact Nat.lt_succ_self _
  · exact Nat.lt_succ_of_lt (length_of_readReference ‹_›)
  · exact Nat.lt_succ_self _
  · exact Nat.lt_succ_self _

end MarkdownWriter.Text
