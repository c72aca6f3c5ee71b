/-
**The command line.**

The program takes its arguments, the environment and the files that a run may look at, runs, and
then does what the run came to: it prints, writes the log file and ends with the exit code.  What it
prints and writes is decided by the run; only the moment of a log line is added here.

Main definitions:

* `snapshot` — what is at a place of the file system;
* `startSession` — a session in the process's environment and directory;
* `main` — the program.
-/

import ElementLookup.Command.Run
import ElementLookup.Log.Line

set_option autoImplicit false

namespace ElementLookup.Main

/-! ### What a run may look at -/

/-- What is at a place: a directory with everything below it, of which only query files are read,
or a file.  Links to directories are not followed. -/
partial def snapshot (place : String) : IO (Option FileTree) := do
  match ← (do (← IO.FS.realPath place).readDir : IO _).toBaseIO with
  | .ok entries =>
    let inner ← entries.toList.mapM fun e => do
      let data ← e.path.symlinkMetadata
      if data.type matches .dir || Batch.isQueryFileName e.fileName then
        return (e.fileName, (← snapshot e.path.toString).getD (.file []))
      else return (e.fileName, FileTree.file [])
    return some (.directory inner)
  | .error _ =>
    match ← (IO.FS.readBinFile place).toBaseIO with
    | .ok content => return some (.file content.toList)
    | .error _ => return none

/-- The files with what is at a place added to them. -/
def withPlace (files : Files) (p : Path) : IO Files := do
  let place := Path.resolve files.cwd p
  match ← snapshot place.text with
  | some t => return { files with root := files.root.insert place.steps t }
  | none => return files

/-- The text of octets, in which what cannot be read is left out. -/
def textOf (octets : List UInt8) : String :=
  match Text.decode octets with
  | .ok cs => String.ofList cs
  | .error _ => ""

/-- The environment of the process. -/
def environment : IO Environment := do
  let content ← IO.FS.readBinFile "/proc/self/environ"
  let entries := (textOf content.toList).splitOn "\x00"
  return entries.foldl (fun env entry =>
    match entry.splitOn "=" with
    | name :: value@(_ :: _) => env.set name ("=".intercalate value)
    | _ => env) Environment.empty

/-- How far recursion may go; the program itself would go further. -/
def depths : Depths := .all 485

/-- A session in the process's environment and directory, with the environment file. -/
def startSession : IO Session := do
  let here := Path.ofText (← IO.currentDir).toString
  let empty : Files := ⟨(FileTree.directory []).insert here.steps (.directory []), here⟩
  return Session.start depths (← environment) (← withPlace empty Session.environmentFile)
    Log.Severity.warning []

/-! ### What a run came to -/

/-- The number after a word at the beginning of a line, if there is such a line. -/
def numberAfter (word : String) (lines : List String) : Int :=
  (lines.findSome? fun line =>
    match line.splitOn " " with
    | [w, n] => if w = word then n.toInt? else none
    | _ => none).getD 0

/-- The seconds since the beginning of 1970: since the machine was started, and before that. -/
def now : IO Int := do
  let before := numberAfter "btime" ((← IO.FS.readFile "/proc/stat").splitOn "\n")
  let since := ((← IO.FS.readFile "/proc/uptime").splitOn ".").head?.bind String.toInt?
  return before + since.getD 0

/-- Writes the records of a run to the log file. -/
def writeLog (settings : Settings) (records : List Log.Record) : IO Unit := do
  IO.FS.createDirAll settings.logFile.parent.text
  if !records.isEmpty then
    let file ← IO.FS.Handle.mk settings.logFile.text .append
    let moment ← now
    for r in records do
      match Log.line depths.written moment r with
      | .ok line => file.putStr (line ++ "\n")
      | .error _ => pure ()

/-- The records that a run delivered to a handler, and whose messages were filled. -/
def recordsFor (s : Session) (h : Log.Handler) : List Log.Record :=
  (s.deliveries.filter fun d => d.handler = h && d.misfit.isNone).map (·.record)

/-- What is said of the way in which a run stopped. -/
def complaint? : Option Stop → Option String
  | some (.usage .noArguments) => some Command.programHelp
  | some (.usage u) => some ("Error: " ++ u.message)
  | some (.fault f) => some f.message
  | some .unwritable => some "A text holds half a surrogate pair and cannot be written"
  | _ => none

/-- Prints what a run printed and writes its records. -/
def carryOut (o : Command.Outcome) : IO Unit := do
  let s := o.console.session
  for r in recordsFor s .console do
    IO.eprintln (Log.Severity.name r.severity ++ " " ++ r.message)
  IO.eprint (Console.written (← (← IO.getStderr).isTty) o.console.err)
  IO.print (Console.written (← (← IO.getStdout).isTty) o.console.out)
  match complaint? o.stop with
  | some words => IO.eprint (Console.written (← (← IO.getStderr).isTty) [words])
  | none => pure ()
  match s.loaded with
  | some settings => if settings.logToFile then writeLog settings (recordsFor s .file)
  | none => pure ()

end ElementLookup.Main

/-- Runs the program and gives its exit code. -/
def main (args : List String) : IO UInt32 := do
  let s ← ElementLookup.Main.startSession
  let places := ElementLookup.Command.places s args
  let files ← places.foldlM ElementLookup.Main.withPlace s.files
  let o := ElementLookup.Command.outcome { s with files := files } args
  ElementLookup.Main.carryOut o
  return UInt32.ofNat o.exitCode
