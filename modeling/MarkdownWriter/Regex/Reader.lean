import MarkdownWriter.Regex.Basic
import MarkdownWriter.Text.Character

/-!
# Reading regular expressions

The notation has literals, `.` for any character but a line feed, sets in brackets, groups `(…)` and
`(?:…)`, alternatives, the anchors `^` and `$`, and the repetitions `*`, `+`, `?`, `{n}`, `{n,}` and
`{n,m}`, sparing with a `?` after them. A backslash makes punctuation literal and writes `\n`, `\r`
and `\t`. The first group that opens with a bare parenthesis is the marked one.

Reading goes over symbols, which tell a literal character from an operator, and tokens, which tell
what an operator does; a stack of open groups then builds the expression.
-/

namespace MarkdownWriter.Regex

/-! ## Symbols -/

/-- A character of the notation, as it stands or made literal by a backslash. -/
inductive Symbol where
  | bare (c : Char)
  | literal (c : Char)
  deriving DecidableEq, Repr

/-- The character of a symbol. -/
def Symbol.char : Symbol → Char
  | bare c => c
  | literal c => c

/-- Whether a symbol is a given character that stands bare. -/
def Symbol.isBare (c : Char) (symbol : Symbol) : Bool :=
  symbol == bare c

/-- The character a backslash before `c` writes. -/
def escaped (c : Char) : Option Char :=
  if c == 'n' then some '\n'
  else if c == 'r' then some '\r'
  else if c == 't' then some '\t'
  else if Text.isPunctuation c then some c
  else none

/-- The symbols of a text. -/
def symbols : List Char → Option (List Symbol)
  | [] => some []
  | ['\\'] => none
  | '\\' :: c :: text => do return .literal (← escaped c) :: (← symbols text)
  | c :: text => do return .bare c :: (← symbols text)

/-! ## Tokens -/

/-- The parts an expression is built from. -/
inductive Token where
  | item (regex : Regex)
  | bar
  | openMarked
  | openPlain
  | close
  | repetition (least : Nat) (most : Option Nat) (greedy : Bool)
  deriving DecidableEq, Repr

/-- The ranges between the brackets of a set. -/
def setRanges : List Symbol → Option (List (Char × Char))
  | [] => some []
  | .bare '[' :: _ => none
  | first :: .bare '-' :: last :: rest =>
      if first.char ≤ last.char then do return (first.char, last.char) :: (← setRanges rest)
        else none
  | symbol :: rest => do return (symbol.char, symbol.char) :: (← setRanges rest)

/-- A set without its opening bracket and `^`. Hyphens at its front are literal, and so is a closing
bracket there. -/
def readSet (negated : Bool) (input : List Symbol) : Option (Token × List Symbol) :=
  let hyphens := input.takeWhile (Symbol.isBare '-')
  let input := input.dropWhile (Symbol.isBare '-')
  let (front, input) :=
    match hyphens, input with
    | [], .bare ']' :: rest => ([Symbol.literal ']'], rest)
    | _, _ => (hyphens.map fun _ => Symbol.literal '-', input)
  match input.dropWhile (!Symbol.isBare ']' ·) with
  | _ :: rest => do
      let ranges ← setRanges (front ++ input.takeWhile (!Symbol.isBare ']' ·))
      return (.item (.set ⟨negated, ranges⟩), rest)
  | [] => none

/-- A repetition, which a `?` after it makes sparing. -/
def readRepetition (least : Nat) (most : Option Nat) : List Symbol → Token × List Symbol
  | .bare '?' :: rest => (.repetition least most false, rest)
  | rest => (.repetition least most true, rest)

/-- The number at the front of the symbols, if there is one. -/
def readNumber (input : List Symbol) : Option (Nat × List Symbol) :=
  let isDigit (symbol : Symbol) : Bool := symbol.isBare symbol.char && Text.isDigit symbol.char
  let digits := (input.takeWhile isDigit).map Symbol.char
  if digits.isEmpty then none else some (Text.numeralValue 10 digits, input.dropWhile isDigit)

/-- A counted repetition without its opening brace. -/
def readCounts (input : List Symbol) : Option (Token × List Symbol) := do
  let (least, rest) ← readNumber input
  match rest with
  | .bare '\x7d' :: rest => return readRepetition least (some least) rest
  | .bare ',' :: .bare '\x7d' :: rest => return readRepetition least none rest
  | .bare ',' :: rest =>
      let (most, rest) ← readNumber rest
      match rest with
      | .bare '\x7d' :: rest =>
          if least ≤ most then return readRepetition least (some most) rest else none
      | _ => none
  | _ => none

/-- The first token and what follows it. -/
def readToken : List Symbol → Option (Token × List Symbol)
  | [] => none
  | .literal c :: rest => some (.item (character c), rest)
  | .bare '.' :: rest => some (.item (.set ⟨true, [('\n', '\n')]⟩), rest)
  | .bare '^' :: rest => some (.item .start, rest)
  | .bare '$' :: rest => some (.item .finish, rest)
  | .bare '|' :: rest => some (.bar, rest)
  | .bare '(' :: .bare '?' :: .bare ':' :: rest => some (.openPlain, rest)
  | .bare '(' :: .bare '?' :: _ => none
  | .bare '(' :: rest => some (.openMarked, rest)
  | .bare ')' :: rest => some (.close, rest)
  | .bare '*' :: rest => some (readRepetition 0 none rest)
  | .bare '+' :: rest => some (readRepetition 1 none rest)
  | .bare '?' :: rest => some (readRepetition 0 (some 1) rest)
  | .bare '\x7b' :: rest => readCounts rest
  | .bare '[' :: .bare '^' :: rest => readSet true rest
  | .bare '[' :: rest => readSet false rest
  | .bare c :: rest => some (.item (character c), rest)

/-- The tokens of a sequence of symbols. -/
def tokens (input : List Symbol) : Option (List Token) :=
  if input.isEmpty then some []
  else
    match readToken input with
    | none => none
    | some (token, rest) =>
        if rest.length < input.length then (tokens rest).map (token :: ·) else none
termination_by input.length

/-! ## Expressions -/

/-- A group that is still open. -/
structure Group where
  /-- Whether the group is the marked one. -/
  marked : Bool := false
  /-- The alternatives that are complete, the latest first. -/
  alternatives : List Regex := []
  /-- The items of the current alternative, the latest first. -/
  items : List Regex := []

/-- Expressions one after the other. -/
def sequence : List Regex → Regex
  | [] => empty
  | [regex] => regex
  | regex :: rest => .seq regex (sequence rest)

/-- Expressions as alternatives, the first one preferred. -/
def choice : List Regex → Regex
  | [] => empty
  | [regex] => regex
  | regex :: rest => .alt regex (choice rest)

namespace Group

/-- End the current alternative. -/
def bar (group : Group) : Group :=
  { group with alternatives := sequence group.items.reverse :: group.alternatives, items := [] }

/-- Add an item to the current alternative. -/
def push (group : Group) (regex : Regex) : Group :=
  { group with items := regex :: group.items }

/-- The expression of a group. -/
def regex (group : Group) : Regex :=
  let body := choice group.bar.alternatives.reverse
  if group.marked then .marked body else body

end Group

/-- What is read so far: the innermost open group, those around it, and whether a group has been
marked. -/
structure Reading where
  current : Group := {}
  outer : List Group := []
  anyMarked : Bool := false

/-- Read one more token. A repetition needs something to repeat, and a closing parenthesis an open
group. -/
def Reading.step (reading : Reading) : Token → Option Reading
  | .item regex => some { reading with current := reading.current.push regex }
  | .bar => some { reading with current := reading.current.bar }
  | .openMarked =>
      some {
        current := { marked := !reading.anyMarked }, outer := reading.current :: reading.outer,
        anyMarked := true }
  | .openPlain => some { reading with current := {}, outer := reading.current :: reading.outer }
  | .close =>
      match reading.outer with
      | [] => none
      | group :: outer =>
          some { reading with current := group.push reading.current.regex, outer := outer }
  | .repetition least most greedy =>
      match reading.current.items with
      | [] => none
      | item :: items =>
          some { reading with
            current := { reading.current with items := .repeated item least most greedy :: items } }

/-- The expression a text denotes, if it is well formed. -/
def read (text : List Char) : Option Regex := do
  let reading ← (← tokens (← symbols text)).foldlM Reading.step {}
  if reading.outer.isEmpty then some reading.current.regex else none

end MarkdownWriter.Regex
