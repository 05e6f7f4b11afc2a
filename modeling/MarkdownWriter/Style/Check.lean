import MarkdownWriter.Style.Basic

/-!
# Accepted choices

A marker is only accepted if Markdown reads it as what it is meant to be. Each accessor here gives
the marker in use, chosen or by default, or the error that refuses it; `Style.validate` asks them
all, in a fixed order, so that the first faulty choice decides which error is reported.
-/

namespace MarkdownWriter

/-- Why a style is refused. -/
inductive StyleError where
  | bullet (marker : Char)
  | bulletOther (marker : Char)
  | bulletNotDistinct (bullet other : Char)
  | bulletOrdered (marker : Char)
  | bulletOrderedOther (marker : Char)
  | bulletOrderedNotDistinct (bullet other : Char)
  | emphasis (marker : Char)
  | strong (marker : Char)
  | fence (marker : Char)
  | quote (marker : Char)
  | rule (marker : Char)
  | ruleRepetition (count : Nat)
  | itemIndent (name : String)
  deriving DecidableEq, Repr

/-- The message for a refused value of one option. -/
def StyleError.refusal (what value option expected : String) : String :=
  "Cannot serialize " ++ what ++ " with `" ++ value ++ "` for `options." ++ option ++
    "`, expected " ++ expected

/-- The message for two options that have to differ. -/
def StyleError.clash (option : String) (marker : Char) (otherOption : String) (other : Char) :
    String :=
  "Expected `" ++ option ++ "` (`" ++ toString marker ++ "`) and `" ++ otherOption ++ "` (`" ++
    toString other ++ "`) to be different"

/-- The message of an error. -/
def StyleError.message : StyleError → String
  | .bullet c => refusal "items" (toString c) "bullet" "`*`, `+`, or `-`"
  | .bulletOther c => refusal "items" (toString c) "bulletOther" "`*`, `+`, or `-`"
  | .bulletNotDistinct primary other => clash "bullet" primary "bulletOther" other
  | .bulletOrdered c => refusal "items" (toString c) "bulletOrdered" "`.` or `)`"
  | .bulletOrderedOther c => refusal "items" (toString c) "bulletOrderedOther" "`.` or `)`"
  | .bulletOrderedNotDistinct primary other =>
      clash "bulletOrdered" primary "bulletOrderedOther" other
  | .emphasis c => refusal "emphasis" (toString c) "emphasis" "`*`, or `_`"
  | .strong c => refusal "strong" (toString c) "strong" "`*`, or `_`"
  | .fence c => refusal "code" (toString c) "fence" "`` ` `` or `~`"
  | .quote c => refusal "title" (toString c) "quote" "`\"`, or `'`"
  | .rule c => refusal "rules" (toString c) "rule" "`*`, `-`, or `_`"
  | .ruleRepetition n =>
      "Cannot serialize rules with repetition `" ++ toString n ++
        "` for `options.ruleRepetition`, expected `3` or more"
  | .itemIndent name => refusal "items" name "listItemIndent" "`tab`, `one`, or `mixed`"

/-- The indent with a given name; `1` is another name of `one`. -/
def ItemIndent.ofName (name : String) : Except StyleError ItemIndent :=
  if name == "tab" then .ok .tab
  else if name == "one" || name == "1" then .ok .one
  else if name == "mixed" then .ok .mixed
  else .error (.itemIndent name)

namespace Style

/-- The chosen marker, or the default, if it is one of the accepted ones. -/
def accepted (choice : Option Char) (default : Char) (markers : List Char)
    (refuse : Char → StyleError) : Except StyleError Char :=
  let marker := choice.getD default
  if markers.contains marker then .ok marker else .error (refuse marker)

/-- The characters unordered lists can be marked with. -/
def bullets : List Char := ['*', '+', '-']

/-- The characters that can follow the numbers of ordered lists. -/
def delimiters : List Char := ['.', ')']

/-- The marker of unordered lists. -/
def bulletMarker (style : Style) : Except StyleError Char :=
  accepted style.bullet '*' bullets .bullet

/-- The marker of unordered lists where the usual one is ambiguous. Unless chosen it is `-` beside
`*` and `*` beside any other. -/
def otherBulletMarker (style : Style) : Except StyleError Char := do
  let bullet ← style.bulletMarker
  match style.bulletOther with
  | none => pure (if bullet == '*' then '-' else '*')
  | some other =>
      if !bullets.contains other then throw (.bulletOther other)
      if other == bullet then throw (.bulletNotDistinct bullet other)
      pure other

/-- The delimiter of ordered lists. -/
def delimiter (style : Style) : Except StyleError Char :=
  accepted style.bulletOrdered '.' delimiters .bulletOrdered

/-- The delimiter of ordered lists where the usual one is ambiguous, the other of the two unless
chosen. -/
def otherDelimiter (style : Style) : Except StyleError Char := do
  let bullet ← style.delimiter
  match style.bulletOrderedOther with
  | none => pure (if bullet == '.' then ')' else '.')
  | some other =>
      if !delimiters.contains other then throw (.bulletOrderedOther other)
      if other == bullet then throw (.bulletOrderedNotDistinct bullet other)
      pure other

/-- The marker of emphasis. -/
def emphasisMarker (style : Style) : Except StyleError Char :=
  accepted style.emphasis '*' ['*', '_'] .emphasis

/-- The character whose double marks strong emphasis. -/
def strongMarker (style : Style) : Except StyleError Char :=
  accepted style.strong '*' ['*', '_'] .strong

/-- The character of code fences. -/
def fenceMarker (style : Style) : Except StyleError Char :=
  accepted style.fence '\x60' ['\x60', '~'] .fence

/-- The quote around titles. -/
def titleQuote (style : Style) : Except StyleError Char :=
  accepted style.quote '"' ['"', '\''] .quote

/-- The character of thematic breaks. -/
def ruleMarker (style : Style) : Except StyleError Char :=
  accepted style.rule '*' ['*', '-', '_'] .rule

/-- The number of characters in a thematic break. -/
def ruleLength (style : Style) : Except StyleError Nat :=
  let count := style.ruleRepetition.getD 3
  if 3 ≤ count then .ok count else .error (.ruleRepetition count)

/-- Whether every choice is accepted; the first that is not gives the error. -/
def validate (style : Style) : Except StyleError Unit := do
  let _ ← style.otherBulletMarker
  let _ ← style.otherDelimiter
  let _ ← style.emphasisMarker
  let _ ← style.strongMarker
  let _ ← style.fenceMarker
  let _ ← style.titleQuote
  let _ ← style.ruleMarker
  let _ ← style.ruleLength

end Style

end MarkdownWriter
