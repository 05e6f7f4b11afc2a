import MarkdownWriter.Style.Check
import MarkdownWriter.Text.Character

/-!
# Command line arguments

The program takes one file and flags. A flag has a long name, some also a letter; a value follows it
as the next argument or after `=`, and letters can stand together. A flag may be given only once,
except the one for more logging. What comes after `--` is a file whatever it looks like.
-/

namespace MarkdownWriter.CommandLine

/-- What the arguments ask for. -/
structure Arguments where
  /-- The file to read; `-` is the standard input. -/
  file : Option String := none
  /-- Put the normalised form into the file. -/
  write : Bool := false
  /-- Only find out whether the file is normalised. -/
  check : Bool := false
  /-- The configuration file. -/
  config : Option String := none
  verbosity : Nat := 0
  /-- The stylistic choices among the flags. -/
  style : Style := {}
  deriving DecidableEq, Repr, Inhabited

/-- What reading the arguments comes to. -/
inductive Request where
  | run (arguments : Arguments)
  /-- The version is asked for. -/
  | version
  /-- The arguments are not understood. -/
  | misuse
  deriving DecidableEq, Repr, Inhabited

/-! ## Flags -/

/-- Set a choice that is not made yet. -/
def once {α : Type} (choice : Option α) (value : α) : Option (Option α) :=
  match choice with
  | none => some (some value)
  | some _ => none

/-- The character of a text of one character. -/
def letter (value : String) : Option Char :=
  match value.toList with
  | [c] => some c
  | _ => none

/-- The number of a decimal numeral, which may have a plus sign, if it fits into 64 bits. -/
def count (value : String) : Option Nat :=
  let digits := match value.toList with
    | '+' :: digits => digits
    | digits => digits
  (Text.numeral? digits).filter (· < UInt64.size)

/-- A path; it may not be empty. -/
def path (value : String) : Option String :=
  if value.isEmpty then none else some value

namespace Arguments

/-- The effect of a flag without value; nothing if there is no such flag, and no arguments if it was
given before. -/
def switch (arguments : Arguments) (name : String) : Option (Option Arguments) :=
  let style := arguments.style
  let restyle (style : Style) : Arguments := { arguments with style := style }
  match name with
  | "write" => some (if arguments.write then none else some { arguments with write := true })
  | "check" => some (if arguments.check then none else some { arguments with check := true })
  | "verbose" => some (some { arguments with verbosity := arguments.verbosity + 1 })
  | "fences" => some ((once style.fences true).map fun b => restyle { style with fences := b })
  | "rule-spaces" =>
      some ((once style.ruleSpaces true).map fun b => restyle { style with ruleSpaces := b })
  | "close-atx" =>
      some ((once style.closeAtx true).map fun b => restyle { style with closeAtx := b })
  | "setext" => some ((once style.setext true).map fun b => restyle { style with setext := b })
  | "resource-link" =>
      some ((once style.resourceLink true).map fun b => restyle { style with resourceLink := b })
  | "tight-definitions" =>
      some ((once style.tightDefinitions true).map fun b =>
        restyle { style with tightDefinitions := b })
  | "no-increment" =>
      some ((once style.incrementListMarker false).map fun b =>
        restyle { style with incrementListMarker := b })
  | _ => none

/-- Whether a flag takes a value. -/
def takesValue (name : String) : Bool :=
  ["config", "bullet", "bullet-other", "bullet-ordered", "emphasis", "strong", "fence", "quote",
    "rule", "rule-repetition", "list-item-indent"].contains name

/-- The effect of a flag with a value, unless the value is no good or the flag was given before. -/
def assign (arguments : Arguments) (name value : String) : Option Arguments := do
  let style := arguments.style
  let restyle (style : Style) : Arguments := { arguments with style := style }
  match name with
  | "config" => return { arguments with config := ← once arguments.config (← path value) }
  | "bullet" => return restyle { style with bullet := ← once style.bullet (← letter value) }
  | "bullet-other" =>
      return restyle { style with bulletOther := ← once style.bulletOther (← letter value) }
  | "bullet-ordered" =>
      return restyle { style with bulletOrdered := ← once style.bulletOrdered (← letter value) }
  | "emphasis" => return restyle { style with emphasis := ← once style.emphasis (← letter value) }
  | "strong" => return restyle { style with strong := ← once style.strong (← letter value) }
  | "fence" => return restyle { style with fence := ← once style.fence (← letter value) }
  | "quote" => return restyle { style with quote := ← once style.quote (← letter value) }
  | "rule" => return restyle { style with rule := ← once style.rule (← letter value) }
  | "rule-repetition" =>
      return restyle { style with ruleRepetition := ← once style.ruleRepetition (← count value) }
  | "list-item-indent" =>
      return restyle { style with
        listItemIndent := ← once style.listItemIndent (← (ItemIndent.ofName value).toOption) }
  | _ => none

/-- Take an argument as the file. -/
def setFile (arguments : Arguments) (value : String) : Option Arguments := do
  return { arguments with file := ← once arguments.file (← path value) }

/-- Whether the arguments go together: writing and checking exclude each other and need a file. -/
def isConsistent (arguments : Arguments) : Bool :=
  !(arguments.write && arguments.check) &&
    (arguments.file.isSome || !(arguments.write || arguments.check))

end Arguments

/-! ## Reading -/

/-- Whether an argument can be the value of the flag before it: it does not look like a flag itself.
-/
def isValue (argument : String) : Bool :=
  argument == "-" || argument.toList.head? != some '-'

/-- What comes of an argument that is made of letters. -/
inductive Letters where
  | done (arguments : Arguments)
  /-- The last letter needs the next argument as its value. -/
  | needsValue (name : String) (arguments : Arguments)
  | version
  | misuse

/-- The long name of a letter. -/
def longName (c : Char) : Option String :=
  [('w', "write"), ('v', "verbose"), ('c', "config")].lookup c

/-- Read the letters of an argument. What follows a letter that takes a value is the value. -/
def readLetters (arguments : Arguments) : List Char → Letters
  | [] => .done arguments
  | 'V' :: _ => .version
  | c :: rest =>
      match longName c with
      | none => .misuse
      | some name =>
          if Arguments.takesValue name then
            match rest with
            | [] => .needsValue name arguments
            | '=' :: value => (arguments.assign name (String.ofList value)).elim .misuse .done
            | value => (arguments.assign name (String.ofList value)).elim .misuse .done
          else
            match arguments.switch name with
            | some (some arguments) => readLetters arguments rest
            | _ => .misuse

/-- A long flag, split at the first `=`. -/
def splitFlag (flag : List Char) : String × Option String :=
  (String.ofList (flag.takeWhile (· != '=')),
    match flag.dropWhile (· != '=') with
    | _ :: value => some (String.ofList value)
    | [] => none)

/-- Read the arguments that come after `--`. -/
def readFiles (arguments : Arguments) : List String → Request
  | [] => if arguments.isConsistent then .run arguments else .misuse
  | file :: rest =>
      match arguments.setFile file with
      | some arguments => readFiles arguments rest
      | none => .misuse

/-- Read the arguments from the first on. Whatever is wrong up to an argument that asks for the
version wins over it. -/
def readFrom (arguments : Arguments) : List String → Request
  | [] => if arguments.isConsistent then .run arguments else .misuse
  | argument :: rest =>
      match argument.toList with
      | ['-', '-'] => readFiles arguments rest
      | '-' :: '-' :: flag =>
          match splitFlag flag with
          | ("version", none) => .version
          | (name, none) =>
              if Arguments.takesValue name then
                match rest with
                | value :: rest =>
                    if isValue value then
                      match arguments.assign name value with
                      | some arguments => readFrom arguments rest
                      | none => .misuse
                    else .misuse
                | [] => .misuse
              else
                match arguments.switch name with
                | some (some arguments) => readFrom arguments rest
                | _ => .misuse
          | (name, some value) =>
              match arguments.assign name value with
              | some arguments => readFrom arguments rest
              | none => .misuse
      | '-' :: c :: letters =>
          match readLetters arguments (c :: letters) with
          | .done arguments => readFrom arguments rest
          | .needsValue name arguments =>
              match rest with
              | value :: rest =>
                  if isValue value then
                    match arguments.assign name value with
                    | some arguments => readFrom arguments rest
                    | none => .misuse
                  else .misuse
              | [] => .misuse
          | .version => .version
          | .misuse => .misuse
      | _ =>
          match arguments.setFile argument with
          | some arguments => readFrom arguments rest
          | none => .misuse

/-- What a list of arguments asks for. -/
def Request.ofArguments (arguments : List String) : Request :=
  readFrom {} arguments

end MarkdownWriter.CommandLine
