import MarkdownWriter.Unicode.Classes

/-!
# Paths

A path a user gives can begin with `~` for the home directory and hold variables, as `$NAME`,
`${NAME}` or `${NAME:-default}`; `$$` writes a dollar sign. If a variable is undefined and has no
default, the path is left as it is. A `~` that comes out of a variable means nothing.
-/

namespace MarkdownWriter

/-- The variables of an environment. -/
abbrev Environment := List (String × String)

namespace Environment

/-- The home directory. -/
def home (env : Environment) : Option String :=
  (env.lookup "HOME").filter (!·.isEmpty)

/-- A path in which a `~` at the front, alone or before a slash, is the home directory. -/
def expandTilde (env : Environment) (path : List Char) : List Char :=
  match env.home, path with
  | some home, ['~'] => home.toList
  | some home, '~' :: '/' :: rest => home.toList ++ '/' :: rest
  | _, _ => path

end Environment

namespace Path

/-- A part of a path. -/
inductive Piece where
  | text (value : List Char)
  | variable (name : List Char) (default : Option (List Char))
  deriving DecidableEq, Repr

/-- Whether a character can stand in the name of a variable that has no braces around it. -/
def isNameChar (c : Char) : Bool :=
  c == '_' || Unicode.isAlphanumeric c

/-- What stands between the braces of a variable: its name and, after `:-`, a default. A default
needs a name. -/
def splitDefault (inner : List Char) : List Char × Option (List Char) :=
  let rec go (name : List Char) : List Char → List Char × Option (List Char)
    | ':' :: '-' :: rest => if name.isEmpty then (inner, none) else (name.reverse, some rest)
    | c :: rest => go (c :: name) rest
    | [] => (inner, none)
  go [] inner

/-- The part of a path after a dollar sign, and what follows it. -/
def readVariable (text : List Char) : Piece × List Char :=
  match text with
  | '\x7b' :: inner =>
      match inner.dropWhile (· != '\x7d') with
      | _ :: rest =>
          let (name, default) := splitDefault (inner.takeWhile (· != '\x7d'))
          (.variable name default, rest)
      | [] => (.text ['$', '\x7b'], inner)
  | '$' :: rest => (.text ['$'], rest)
  | text =>
      let name := text.takeWhile isNameChar
      if name.isEmpty then (.text ['$'], text) else (.variable name none, text.dropWhile isNameChar)

theorem length_readVariable_le (text : List Char) : (readVariable text).2.length ≤ text.length := by
  have shorter (p : Char → Bool) (text : List Char) : (text.dropWhile p).length ≤ text.length :=
    (List.dropWhile_suffix p).length_le
  unfold readVariable
  split
  · next inner =>
      have := shorter (· != '\x7d') inner
      split
      · next heq =>
          rw [heq] at this
          simp only [List.length_cons] at this ⊢
          omega
      · simp
  · simp
  · dsimp only
    split
    · exact Nat.le_refl _
    · exact shorter isNameChar _

/-- The parts of a path. -/
def pieces : List Char → List Piece
  | [] => []
  | c :: text =>
      if c = '$' then (readVariable text).1 :: pieces (readVariable text).2
      else .text [c] :: pieces text
termination_by text => text.length
decreasing_by
  · have := length_readVariable_le text
    simp only [List.length_cons]
    omega
  · simp

/-- The text of a part, unless it is an undefined variable. -/
def Piece.expand (env : Environment) : Piece → Option (List Char)
  | .text value => some value
  | .variable name default => ((env.lookup (String.ofList name)).map String.toList) <|> default

/-- A path with its variables and its home directory filled in, or as it is if a variable is
undefined. -/
def expand (env : Environment) (path : String) : String :=
  match (pieces path.toList).mapM (Piece.expand env) with
  | none => path
  | some parts =>
      let filled := parts.flatten
      if filled.head? == some '~' && path.toList.head? != some '~' then String.ofList filled
      else String.ofList (env.expandTilde filled)

end Path

/-- Where the configuration of a user is kept. -/
def Config.path (env : Environment) : String :=
  String.ofList (env.expandTilde "~/.config/markdown-scribe".toList ++ "/config.toml".toList)

end MarkdownWriter
