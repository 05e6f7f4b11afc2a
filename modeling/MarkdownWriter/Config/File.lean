import MarkdownWriter.Config.Style
import MarkdownWriter.Toml.Printer

/-!
# Configuration files

A configuration is a TOML document whose table `style` holds a style. A file that is not there is no
error; one that cannot be read, is no such document, or holds a style that is not accepted is.
-/

namespace MarkdownWriter

/-- What stands at a path. -/
inductive File where
  | missing
  /-- Nothing can stand there, as the path goes on below a file. -/
  | belowFile
  | directory
  | contents (bytes : ByteArray)
  deriving Inhabited

/-- Why a file gives no text. -/
inductive ReadError where
  | missing
  | belowFile
  | directory
  | notUtf8
  deriving DecidableEq, Repr

/-- The message of a read error. -/
def ReadError.message : ReadError → String
  | .missing => "No such file or directory (os error 2)"
  | .belowFile => "Not a directory (os error 20)"
  | .directory => "Is a directory (os error 21)"
  | .notUtf8 => "stream did not contain valid UTF-8"

/-- Whether anything stands at a path. -/
def File.isThere : File → Bool
  | .missing | .belowFile => false
  | .directory | .contents _ => true

/-- The text of a file. -/
def File.text : File → Except ReadError String
  | .missing => .error .missing
  | .belowFile => .error .belowFile
  | .directory => .error .directory
  | .contents bytes =>
      match String.fromUTF8? bytes with
      | some text => .ok text
      | none => .error .notUtf8

/-- A file with a text. -/
def File.ofText (text : String) : File :=
  .contents text.toUTF8

/-- A configuration. -/
structure Config where
  style : Style := {}
  deriving DecidableEq, Repr, Inhabited

/-- What can be wrong with a configuration file. -/
inductive ConfigProblem where
  | read (error : ReadError)
  | parse
  | invalidOption (error : StyleError)
  deriving DecidableEq, Repr

/-- Why a configuration file is refused. -/
structure ConfigError where
  path : String
  problem : ConfigProblem
  deriving DecidableEq, Repr

/-- The message of an error. Where it has a cause, the cause's message ends it. -/
def ConfigError.message (error : ConfigError) : String :=
  match error.problem with
  | .read cause => "Failed to read config file at " ++ error.path ++ ": " ++ cause.message
  | .parse => "Failed to parse config file at " ++ error.path
  | .invalidOption cause =>
      "Invalid style option in config file at " ++ error.path ++ ": " ++ cause.message

namespace Config

/-- The configuration a document holds. Without a table `style` nothing is chosen. -/
def ofEntries (entries : Toml.Entries) : Option Config :=
  match entries.lookup "style" with
  | none => some {}
  | some (.table _ inner) => (Style.ofEntries inner).map Config.mk
  | some _ => none

/-- Read a configuration file. -/
def load (path : String) (file : File) : Except ConfigError (Option Config) := do
  if !file.isThere then return none
  let text ← file.text.mapError fun error => ⟨path, .read error⟩
  match Toml.read text.toList >>= ofEntries with
  | none => throw ⟨path, .parse⟩
  | some config =>
      config.style.validate.mapError fun error => ⟨path, .invalidOption error⟩
      return some config

/-- The text of a configuration file. -/
def text (config : Config) : String :=
  String.ofList (Toml.writeTable "style" config.style.entries)

end Config

end MarkdownWriter
