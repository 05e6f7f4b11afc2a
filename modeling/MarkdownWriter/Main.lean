import MarkdownWriter.CommandLine.Run
import MarkdownWriter.Document.Listing

/-!
# The program

`markdown-scribe [FLAGS] [FILE]` writes a Markdown document in normalised form. The document's
events are those that the CommonMark parser left in the listing which the environment variable
`MARKDOWN_EVENTS` names; without one the document is empty.

Everything is decided by `CommandLine.run`. Here only the world of a run is gathered and its report
carried out.
-/

namespace MarkdownWriter.CommandLine

/-- What stands at a path. A directory is told apart by the system's number for that error. -/
def fileAt (path : String) : IO File := do
  match ← (IO.FS.readBinFile path).toBaseIO with
  | .ok bytes => return .contents bytes
  | .error (.noFileOrDirectory ..) => return .missing
  | .error (.inappropriateType _ 21 _) => return .directory
  | .error (.inappropriateType ..) => return .belowFile
  | .error error => throw error

/-- The variables a path refers to, and the one for the home directory. -/
def environmentFor (path : String) : IO Environment := do
  let names := (Path.pieces path.toList).filterMap fun
    | .variable name _ => some (String.ofList name)
    | .text _ => none
  let values ← ("HOME" :: names).mapM fun name => do return (← IO.getEnv name).map (name, ·)
  return values.filterMap id

/-- All that is left of a stream, after the bytes read so far. -/
partial def readAll (stream : IO.FS.Stream) (bytes : ByteArray) : IO ByteArray := do
  let more ← stream.read 65536
  if more.isEmpty then return bytes else readAll stream (bytes ++ more)

/-- The listing of the document's events. -/
def listing : IO Listing := do
  match ← IO.getEnv "MARKDOWN_EVENTS" with
  | none => return {}
  | some path =>
      match Listing.read (← IO.FS.readFile path).toList with
      | some listing => return listing
      | none => throw (IO.userError ("Failed to read events from " ++ path))

/-- What a run with the given arguments finds around it. -/
def gather : Request → IO World
  | .run arguments => do
      let env ← environmentFor (arguments.config.getD "")
      let files ← (arguments.paths env).mapM fun path => do return (path, ← fileAt path)
      let stdin ←
        if arguments.input.isNone then readAll (← IO.getStdin) ByteArray.empty
        else pure ByteArray.empty
      let document ← listing
      return {
        env := env
        file := fun path => (files.lookup path).getD .missing
        stdin := stdin
        parse := fun _ => (document.definitions, document.events) }
  | _ =>
      return {
        env := [], file := fun _ => .missing, stdin := ByteArray.empty, parse := fun _ => ([], []) }

/-- Do what a report says. -/
def carryOut (report : Report) : IO Unit := do
  match report.written with
  | none => pure ()
  | some (path, text) => IO.FS.writeFile path text
  for entry in report.log do IO.eprintln ("[" ++ entry.line)
  IO.print report.stdout
  IO.eprint report.errorText

end MarkdownWriter.CommandLine

open MarkdownWriter CommandLine in
/-- Run the program and exit with the status of its report. -/
def main (arguments : List String) : IO UInt32 := do
  let report := run (← gather (Request.ofArguments arguments)) arguments
  carryOut report
  return report.status.toUInt32
