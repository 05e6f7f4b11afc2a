import MarkdownWriter.CommandLine.Arguments
import MarkdownWriter.Config.File
import MarkdownWriter.Config.Path
import MarkdownWriter.Document.Builder
import MarkdownWriter.Options

/-!
# Runs of the program

A run reads a document, writes it in normalised form, and prints it, puts it back or only compares.
It depends on the environment, on the files and the standard input, and on a parser for Markdown;
what it does in return is a `Report`, so that a run is a function and printing comes after it.
-/

namespace MarkdownWriter.CommandLine

/-! ## Logging -/

/-- How much a log message matters. -/
inductive Level where
  | info
  | debug
  deriving DecidableEq, Repr

/-- The name of a level, as wide as the widest. -/
def Level.name : Level → String
  | .info => "INFO "
  | .debug => "DEBUG"

/-- Whether a level is logged: information from the first degree of verbosity on, all from the
second on. -/
def Level.isLogged (verbosity : Nat) : Level → Bool
  | .info => 1 ≤ verbosity
  | .debug => 2 ≤ verbosity

/-- A log message, with the part of the program it comes from. -/
structure LogEntry where
  level : Level
  origin : String
  message : String
  deriving DecidableEq, Repr

/-- A message in the log. -/
def LogEntry.line (entry : LogEntry) : String :=
  entry.level.name ++ " " ++ entry.origin ++ "] " ++ entry.message

/-- A message of the program itself. -/
def LogEntry.ofProgram (level : Level) (message : String) : LogEntry :=
  ⟨level, "markdown_scribe", message⟩

/-- A message about a tree that is written. -/
def LogEntry.ofTree (message : String) : LogEntry :=
  ⟨.debug, "markdown_scribe_engine::serialize", message⟩

/-- A message about two blocks that are kept apart. -/
def LogEntry.ofComment : String × String → LogEntry
  | (left, right) =>
      ⟨.debug, "markdown_scribe_engine::serialize::join",
        "separating " ++ left ++ " and " ++ right ++ " with an empty comment"⟩

/-! ## Reports -/

/-- What a run finds around it. -/
structure World where
  env : Environment
  /-- What stands at a path. -/
  file : String → File
  stdin : ByteArray
  /-- The definitions and events of a document. -/
  parse : String → List Reference × List Event

/-- What a run does. -/
structure Report where
  status : Nat
  stdout : String := ""
  /-- The message of the error that ended the run. -/
  error : Option String := none
  log : List LogEntry := []
  /-- A file that is written, with its new contents. -/
  written : Option (String × String) := none
  deriving DecidableEq, Repr

/-- A step of a run. It may end the run with a message, and the log is kept. -/
abbrev Run := ExceptT String (StateM (List LogEntry))

/-- Add to the log. -/
def log (entries : List LogEntry) : Run Unit :=
  modify (· ++ entries)

/-! ## Steps -/

/-- The message of a configuration error with its cause after it. A message that already holds its
cause holds it twice then. -/
def configMessage (error : ConfigError) : String :=
  match error.problem with
  | .read cause => error.message ++ ": " ++ cause.message
  | .parse => error.message
  | .invalidOption cause => error.message ++ ": " ++ cause.message

/-- Read a configuration file. -/
def loadConfig (world : World) (path : String) : Run (Option Config) :=
  match Config.load path (world.file path) with
  | .ok config => pure config
  | .error error => throw (configMessage error)

/-- The configuration file of a run: the one that is named, or else the user's. -/
def Arguments.configPath (env : Environment) (arguments : Arguments) : String :=
  match arguments.config with
  | none => Config.path env
  | some path => Path.expand env path

/-- The style of the configuration with the choices of the arguments laid over it. A configuration
file that is named has to be there. -/
def resolveStyle (world : World) (arguments : Arguments) : Run Style := do
  let path := arguments.configPath world.env
  let config ← loadConfig world path
  if config.isNone && arguments.config.isSome then throw ("Config file not found at " ++ path)
  return (config.getD {}).style.overlay arguments.style

/-- The file to read, unless that is the standard input. -/
def Arguments.input (arguments : Arguments) : Option String :=
  arguments.file.filter (· != "-")

/-- The files a run looks at. -/
def Arguments.paths (env : Environment) (arguments : Arguments) : List String :=
  arguments.configPath env :: arguments.input.toList

/-- The document to read. -/
def readInput (world : World) (arguments : Arguments) : Run String :=
  let (name, file) := match arguments.input with
    | some path => (path, world.file path)
    | none => ("stdin", File.contents world.stdin)
  match file.text with
  | .ok text => pure text
  | .error error => throw ("Failed to read " ++ name ++ ": " ++ error.message)

/-- A document in normalised form. -/
def normalise (world : World) (style : Style) (document : String) : Run String := do
  let (definitions, events) := world.parse document
  let tree := Node.ofEvents definitions events
  log [.ofProgram .debug ("parsed " ++ toString tree.children.length ++ " top-level nodes"),
    .ofTree ("serializing " ++ tree.kindName ++ " tree")]
  match writeTree (.node { style := style } []) tree with
  | .error error => throw error.message
  | .ok written =>
      let text := String.ofList written.text
      log (written.comments.map LogEntry.ofComment)
      log [.ofTree ("serialized " ++ toString text.utf8ByteSize ++ " bytes")]
      return text

/-- What is done with a document and its normalised form. -/
def deliver (arguments : Arguments) (document normalised : String) : Run Report := do
  let unchanged := document == normalised
  let report : Report := { status := if arguments.check && !unchanged then 1 else 0 }
  let inform (message : String) : Run Unit := log [.ofProgram .info message]
  match arguments.input with
  | none => return { report with stdout := normalised }
  | some path =>
      if arguments.check then
        unless unchanged do inform (path ++ " is not normalised")
        return report
      else if arguments.write then
        if unchanged then
          inform (path ++ " already normalised")
          return report
        else
          inform ("rewrote " ++ path)
          return { report with written := some (path, normalised) }
      else return { report with stdout := normalised }

/-- What the arguments ask for, step by step. -/
def perform (world : World) (arguments : Arguments) : Run Report := do
  let style ← resolveStyle world arguments
  let document ← readInput world arguments
  deliver arguments document (← normalise world style document)

/-! ## Whole runs -/

/-- What the version flag prints. -/
def versionText : String :=
  "markdown-scribe 0.1.0\n"

/-- The status of a run whose arguments are not understood. -/
def misuseStatus : Nat := 2

/-- A run with the given arguments. -/
def run (world : World) (arguments : List String) : Report :=
  match Request.ofArguments arguments with
  | .misuse => { status := misuseStatus, error := some "The arguments are not understood" }
  | .version => { status := 0, stdout := versionText }
  | .run arguments =>
      let (result, entries) := perform world arguments []
      let logged := entries.filter fun entry => entry.level.isLogged arguments.verbosity
      match result with
      | .ok report => { report with log := logged }
      | .error message => { status := 1, error := some message, log := logged }

/-- What a run prints to the standard error in the end. -/
def Report.errorText (report : Report) : String :=
  match report.error with
  | none => ""
  | some message => "Error: " ++ message ++ "\n"

end MarkdownWriter.CommandLine
