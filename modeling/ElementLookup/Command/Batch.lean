/-
**Runs over query files.**

A run collects query files from its targets, or from a directory if there are none.  A directory is
looked through as a whole before any file is; where one in it is too deep or has too long a path,
the run ends.  Then the run looks at one file after the other; a file that is not accepted is
reported and contributes nothing, and the run goes on.  A run either compiles the queries and prints
their selectors, when all files have been looked at, or it prints for each document whether it is
accepted.

Main definitions:

* `Batch.isQueryFileName`, `Batch.queryFilesIn`, `Batch.search`, `Batch.collect` — the files of a
  run;
* `Batch.obstacle?` — what stops a search;
* `Batch.Entry`, `Batch.Entry.toJson` — the selector of a query, with where it comes from;
* `Batch.entriesOf`, `Batch.compileFile`, `Batch.compile` — runs that compile;
* `Batch.validateFile`, `Batch.validate` — runs that check;
* `Batch.exitCode` — the exit code of a run.

Main results:

* `Batch.exitCode_eq_zero_iff` — a run succeeds exactly if no file was reported.
-/

import ElementLookup.Command.Console

set_option autoImplicit false

namespace ElementLookup.Batch

open Command

/-! ### Collecting files -/

/-- Whether a name ends like that of a query file. -/
def isQueryFileName (name : String) : Bool :=
  ".yaml".toList.isSuffixOf name.toList || ".yml".toList.isSuffixOf name.toList

/-- Whether steps lead to something whose name has an ending. -/
def endsWith (ending : String) (steps : List String) : Bool :=
  steps.getLast?.any fun name => ending.toList.isSuffixOf name.toList

/-- What is named like a query file in or below a tree, by the steps that lead to it: first what has
the one ending, then what has the other. -/
def stepsIn (recursive : Bool) (t : FileTree) : List (List String) :=
  let places := (if recursive then t.descendants else t.inside).map (·.1)
  places.filter (endsWith ".yaml") ++ places.filter (endsWith ".yml")

/-- What is named like a query file in or below a directory, in order. -/
def queryFilesIn (files : Files) (recursive : Bool) (root : Path) : List Path :=
  match files.node? root with
  | .error _ => []
  | .ok t => ((stepsIn recursive t).map fun steps => root.join ⟨.here, steps⟩).mergeSort Path.le

mutual

/-- What stops a search below a place, if anything does: directories stand below one another more
than `depth` deep, or the path of one of them is too long to be read. -/
def obstacle? (depth : Nat) (place : Path) : FileTree → Option Fault
  | .file _ => none
  | .directory entries => entriesObstacle? depth place entries

/-- What stops it below the entries of a directory. -/
def entriesObstacle? (depth : Nat) (place : Path) : List (String × FileTree) → Option Fault
  | [] => none
  | (name, t) :: r =>
    let inner := place.join ⟨.here, [name]⟩
    let here :=
      if !t.isDirectory then none
      else if depth = 0 then some .tooDeep
      else if Files.isTooLong inner then some (.astray .nameTooLong)
      else obstacle? (depth - 1) inner t
    here.or (entriesObstacle? depth place r)

end

/-- What is named like a query file in or below a directory, in order, unless the search is stopped.
Only the directory itself is read if nothing below it is looked for. -/
def search (depth : Nat) (files : Files) (recursive : Bool) (root : Path) :
    Except Fault (List Path) :=
  let stopped := match files.node? root with
    | .ok t => if recursive then obstacle? depth root t else none
    | .error _ => none
  match stopped with
  | some fault => .error fault
  | none => .ok (queryFilesIn files recursive root)

/-- Whether a path leads to a directory; names that are too long cannot be looked at. -/
def isDirectory (p : Path) : SessionM Bool := do
  match (← get).files.node? p with
  | .ok t => return t.isDirectory
  | .error .nameTooLong => throw (.astray .nameTooLong)
  | .error _ => return false

/-- Refuses a name that no file can have. -/
def refuseBadName (name : String) : SessionM Unit := do
  if name.contains '\x00' then throw (.astray .badName)

/-- The files that a target stands for: those in a directory, or else the target itself. -/
def ofTarget (recursive : Bool) (target : String) : SessionM (List Path) := do
  refuseBadName target
  let s ← get
  let p := Path.resolve s.files.cwd (Path.ofText target)
  if ← isDirectory p then search s.depths.directories s.files recursive p else return [p]

/-- The directory of a run that has no targets; an empty text names none. -/
def directoryOf (scope : Scope) : SessionM Path := do
  match scope.directory.filter (· ≠ "") with
  | some d => return Path.ofText d
  | none => return (← Session.settings).queriesDir

/-- The files of a run. -/
def collect (scope : Scope) : SessionM (List Path) := do
  scope.directory.forM refuseBadName
  if scope.targets.isEmpty then
    let root ← directoryOf scope
    let s ← get
    if ← isDirectory root then search s.depths.directories s.files scope.recursive root
    else return []
  else
    return (← scope.targets.mapM (ofTarget scope.recursive)).flatten

/-! ### Reports -/

/-- What a run says of a file that is not accepted. -/
def faultLine (p : Path) (f : LoadFault) : String :=
  "ERR " ++ p.text ++ "  ->  " ++ f.message?.getD ""

/-- What a run says of a document that is accepted. -/
def acceptedLine (p : Path) (d : QueryDocument) : String :=
  let name := if d.name.getD "" = "" then "<unnamed>" else d.name.getD ""
  "OK  " ++ p.text ++ "  ->  " ++ name ++ " (" ++ toString d.queries.length ++ " queries)"

/-- What a run says that has no files. -/
def nothingLine (verb : String) : String :=
  "Nothing to " ++ verb ++ ". Provide file(s), --dir, or populate QUERIES_DIR."

/-- The exit code of a run: zero if no file was reported. -/
def exitCode (accepted : List Bool) : Nat :=
  if accepted.all id then 0 else 1

theorem exitCode_eq_zero_iff (accepted : List Bool) :
    exitCode accepted = 0 ↔ ∀ b ∈ accepted, b = true := by
  simp [exitCode]

/-! ### Compiling -/

/-- The selector of a query, with the file and the document that the query comes from.  The last two
tell whether the selector can be written, and whether the whole entry can. -/
structure Entry where
  file : Path
  document : Option String
  kind : Kind
  description : Option String
  selector : String
  halvedSelector : Bool
  halved : Bool

/-- An entry as a report shows it. -/
def Entry.toJson (e : Entry) : Json :=
  .object [("file", .text e.file.text), ("document", Json.ofText? e.document),
    ("kind", .text e.kind.name), ("description", Json.ofText? e.description),
    ("selector", .text e.selector)]

/-- The entry of a query, given its selector. -/
def entryFor (p : Path) (d : LoadedDocument) (q : Query) (h : QueryHalves) (selector : String) :
    Entry :=
  ⟨p, d.document.name, q.kind, q.description, selector, h.selector,
    d.halves.name || h.description || h.selector⟩

/-- The entries of a document, given its selectors. -/
def entriesFor (p : Path) (d : LoadedDocument) (selectors : List String) : List Entry :=
  ((d.document.queries.zip d.halves.queries).zip selectors).map fun e =>
    entryFor p d e.1.1 e.1.2 e.2

/-- What is said when a document is compiled. -/
def compiledNote (p : Path) (count : Nat) : Log.Note :=
  ⟨"getby.cli", Log.Severity.debug, "compiled " ++ toString count ++ " quer(ies) from " ++ p.text⟩

/-- The entries of a document. -/
def documentEntries (p : Path) (d : LoadedDocument) : SessionM (List Entry) := do
  let selectors ← Session.compileDocument none d.document
  Session.emit (compiledNote p selectors.length)
  return entriesFor p d selectors

/-- The entries of a file. -/
def entriesOf (p : Path) : SessionM (List Entry) := do
  let ds ← Session.load p
  return (← ds.mapM (documentEntries p)).flatten

/-- Compiles a file, or reports it; its records say which file it is. -/
def compileFile (p : Path) : CommandM (Option (List Entry)) :=
  bound "source" (.text p.text) do
    match ← attempt (entriesOf p) with
    | .ok entries => return some entries
    | .error f =>
      printError (faultLine p f)
      return none

/-- All entries as one report. -/
def report (entries : List Entry) : Line :=
  ⟨(Json.object [("selectors", .list (entries.map Entry.toJson))]).pretty,
    entries.any Entry.halved⟩

/-- The lines that a run prints for its entries. -/
def entryLines (asJson : Bool) (entries : List Entry) : List Line :=
  if asJson then [report entries]
  else entries.map fun e => ⟨e.selector, e.halvedSelector⟩

/-- Compiles the files of a run. -/
def compile (asJson : Bool) (paths : List Path) : CommandM Unit := do
  if paths.isEmpty then
    print (nothingLine "compile")
    stop (.exit 2)
  let results ← paths.mapM compileFile
  -- nothing is printed before every file has been looked at
  (entryLines asJson (results.map fun r => r.getD []).flatten).forM printLine
  stop (.exit (exitCode (results.map Option.isSome)))

/-! ### Checking -/

/-- Checks a document and says that it is accepted. -/
def validateDocument (p : Path) (d : LoadedDocument) : CommandM Unit := do
  let _ ← inSession (Session.compileDocument none d.document)
  printLine ⟨acceptedLine p d.document, d.halves.name⟩

/-- Checks a file, or reports it. -/
def validateFile (p : Path) : CommandM Bool := do
  match ← attempt (Session.load p) with
  | .ok ds =>
    ds.forM (validateDocument p)
    return true
  | .error f =>
    print (faultLine p f)
    return false

/-- Checks the files of a run. -/
def validate (paths : List Path) : CommandM Unit := do
  if paths.isEmpty then
    print (nothingLine "validate")
    stop (.exit 2)
  let results ← paths.mapM validateFile
  stop (.exit (exitCode results))

end ElementLookup.Batch
