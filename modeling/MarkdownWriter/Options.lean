import MarkdownWriter.Escape.Defaults
import MarkdownWriter.Escape.Pattern
import MarkdownWriter.Render.Writer
import MarkdownWriter.Text.Entities

/-!
# Options

A layer of options holds a style, handlers, patterns of unsafe characters and join rules. Options
are a layer with extensions, which are options themselves. They are laid over one another from the
bottom up: the last extension first, the options' own layer at the end, so that the own layer wins
over the extensions and an earlier extension over a later one (`Options.appliedTo`).
`Options.layers` lists the layers in the order of their precedence.

A writer is made of the layer that results (`Options.writer`). Two things in it come from elsewhere,
the table of character references and the engine that compiles the patterns of extensions; they are
`Externals`, with the references of HTML and an engine for a small notation unless others are given.
-/

namespace MarkdownWriter

/-- What is left to other libraries: the table of character references, and the regular expressions
of patterns. -/
structure Externals where
  references : Text.References := Text.htmlReferences
  engine : Engine := Engine.plain

/-- One layer of options. -/
structure Layer where
  style : Style := {}
  /-- Handlers by the kind they are registered for; of two for one kind the first is used. -/
  handlers : List (String × Handler) := []
  patterns : List Pattern := []
  joins : List JoinRule := []
  deriving Inhabited

namespace Layer

/-- The layer in which the choices and handlers of `top` replace those of `base`. Patterns and join
rules add up. -/
def overlay (base top : Layer) : Layer where
  style := base.style.overlay top.style
  handlers := top.handlers ++ base.handlers
  patterns := base.patterns ++ top.patterns
  joins := base.joins ++ top.joins

/-- The kinds handlers are registered for, each once, in ascending order. -/
def kinds (layer : Layer) : List String :=
  ((layer.handlers.map Prod.fst).eraseDups).mergeSort fun a b => a ≤ b

end Layer

/-- A layer of options with extensions below it, the first one uppermost. -/
inductive Options where
  | node (own : Layer) (extensions : List Options)
  deriving Inhabited

namespace Options

/-- The options' own layer. -/
def own : Options → Layer
  | node own _ => own

mutual

/-- The layer that applying options to another one gives. -/
def appliedTo (base : Layer) : Options → Layer
  | node own extensions => (appliedAll base extensions).overlay own

/-- The layer that applying several options gives, the last of them first. -/
def appliedAll (base : Layer) : List Options → Layer
  | [] => base
  | extension :: extensions => appliedTo (appliedAll base extensions) extension

end

mutual

/-- All layers in the order of their precedence: a layer, then those of its extensions from left to
right. -/
def layers : Options → List Layer
  | node own extensions => own :: layersOfAll extensions

/-- The layers of several options, from left to right. -/
def layersOfAll : List Options → List Layer
  | [] => []
  | extension :: extensions => extension.layers ++ layersOfAll extensions

end

/-! ## Messages -/

open Text

mutual

/-- Options in the notation of `Text.Record`. Of handlers only the kinds are shown, of join rules
only the number. -/
def description : Options → List Char
  | node own extensions =>
      record "Options" [
        ("settings", own.style.description),
        ("handlers", listing (own.kinds.map quotedString)),
        ("unsafe_patterns", listing (own.patterns.map Pattern.description)),
        ("join", decimal own.joins.length),
        ("extensions", listing (descriptions extensions))]

/-- Several options in the notation of `Text.Record`. -/
def descriptions : List Options → List (List Char)
  | [] => []
  | extension :: extensions => extension.description :: descriptions extensions

end

/-! ## Writers -/

/-- The rules of patterns, in order; the first pattern that an engine does not accept is refused. -/
def rulesOf (engine : Engine) : List Pattern → Except RenderError (List Rule)
  | [] => .ok []
  | pattern :: patterns =>
      match pattern.rule? engine with
      | none => .error (.pattern pattern.character)
      | some rule => (rule :: ·) <$> rulesOf engine patterns

/-- The writer for options, and the state every rendering starts in. The style is checked as a
whole, then the patterns are read. If definitions are to be tight, the rule for them is asked last.
-/
def writer (options : Options) (externals : Externals := {}) :
    Except RenderError (Writer × State) := do
  let resolved := options.appliedTo { handlers := Handler.defaults, joins := [Join.defaultRule] }
  match resolved.style.validate with
  | .error error => throw (.style error)
  | .ok () =>
      let extra ← rulesOf externals.engine resolved.patterns
      let tight := if resolved.style.tightensDefinitions then [Join.tightDefinitions] else []
      return (⟨resolved.handlers, externals.references, Rule.defaults ++ extra,
        tight ++ resolved.joins⟩, { style := resolved.style })

end Options

/-! ## Documents -/

/-- A text that ends with a line ending, unless it is empty. -/
def terminated (text : List Char) : List Char :=
  if (text.getLast?.map Text.isLineBreak).getD true then text else text ++ ['\n']

/-- What writing a whole tree gives: the text, and the kinds of the neighbours kept apart by an
empty comment, in the order in which they were come by. -/
structure Written where
  text : List Char
  comments : List (String × String)
  deriving DecidableEq, Repr

/-- Write a whole tree. -/
def writeTree (options : Options) (tree : Node) (externals : Externals := {}) :
    Except RenderError Written := do
  let (writer, state) ← options.writer externals
  let (result, after) := writer.render tree none (Writer.blockSite {}) state
  return ⟨terminated (← result), after.comments.reverse⟩

/-- Write a tree as Markdown. -/
def toMarkdown (options : Options) (tree : Node) (externals : Externals := {}) :
    Except RenderError String := do
  return String.ofList (← writeTree options tree externals).text

end MarkdownWriter
