/-
**Running a command.**

A run reads what comes before the command, sets up the delivery of records, reads what the command
is given and does what it asks for.  A word that is no command is read once more as an option, so
that a notice or a fault there goes before the complaint about the word.

Main definitions:

* `Command.perform` — does what a request asks for;
* `Command.run` — runs a list of arguments;
* `Command.Outcome`, `Command.outcome` — how a run ended.

Main results:

* `Command.outcome_exit` — the exit code of a run that stops is the code it stops with.
-/

import ElementLookup.Command.Batch

set_option autoImplicit false

namespace ElementLookup.Command

/-! ### Notices -/

/-- What is printed when the version is asked for. -/
def versionLine : String := programName ++ ", version " ++ version

/-- What is printed when help is asked for. -/
def helpLine (what : List String) (spellings : List (Spelling Choice)) : String :=
  "Usage: " ++ " ".intercalate (programName :: what ++ spellings.map fun s => "[" ++ s.word ++ "]")

/-- The help on a command. -/
def Name.helpLine (n : Name) : String :=
  Command.helpLine [n.text] n.signature.spellings

/-- The help on the program. -/
def programHelp : String :=
  Command.helpLine [] openingSignature.spellings ++ " COMMAND\nCommands: "
    ++ ", ".intercalate (Name.all.map Name.text)

/-- Answers a notice and stops. -/
def answer (n : Notice) : CommandM Unit := do
  match n with
  | .version => print versionLine
  | .help => print programHelp
  stop (.exit 0)

/-! ### Requests -/

/-- The context of a lookup that names an attribute of its own. -/
def lookupContext (idAttribute : Option String) : SessionM (Option ContextId) := do
  match idAttribute with
  | some name => return some (← Session.newContext name)
  | none => return none

/-- The selector of a lookup. -/
def lookupSelector (idAttribute : Option String) (l : Lookup) : SessionM String := do
  Session.selectorOf (← lookupContext idAttribute) l

/-- Does what a request asks for. -/
def perform (n : Name) (r : Request) : CommandM Unit := do
  match r with
  | .help => print n.helpLine
  | .config => print (← inSession Session.settings).toJson.pretty
  | .lookup idAttribute l => print (← inSession (lookupSelector idAttribute l))
  | .batch goal scope =>
    let paths ← inSession (Batch.collect scope)
    match goal with
    | .lines => Batch.compile false paths
    | .json => Batch.compile true paths
    | .validity => Batch.validate paths

/-! ### Runs -/

/-- Reads what comes before a command; a notice is answered at once. -/
def readOpening (args : List String) : CommandM (Option Log.Level × List String) := do
  match ← orUsage (Opening.read args) with
  | .proceed level rest => return (level, rest)
  | .notice n =>
    answer n
    return (none, [])

/-- The command that is named, with what it is given. -/
def findCommand (rest : List String) : CommandM (Name × List String) := do
  match rest with
  | [] => stop (.usage .noCommand)
  | word :: args =>
    match Name.ofText? word with
    | some n => return (n, args)
    | none =>
      -- a word that looks like an option may be a notice, or at fault in its own way
      let _ ← readOpening rest
      stop (.usage (.unknownCommand word))

/-- Sets up the delivery of records. -/
def prepare (level : Option Log.Level) : SessionM Unit := do
  Session.configure
  match level with
  | some l => Session.setSeverity l.severity
  | none => pure ()

/-- Runs a list of arguments. -/
def run (args : List String) : CommandM Unit := do
  let (level, rest) ← readOpening args
  let (n, args) ← findCommand rest
  -- delivery is set up before the command's own arguments are looked at
  inSession (prepare level)
  let files := (← get).session.files
  perform n (← orUsage (Request.read files n args))

/-- How a run ended: by itself or with a stop, and with which console. -/
structure Outcome where
  stop : Option Stop
  console : Console

/-- The exit code of a run. -/
def Outcome.exitCode (o : Outcome) : Nat :=
  match o.stop with
  | none => 0
  | some s => s.exitCode

/-- How the run of a list of arguments in a session ends. -/
def outcome (s : Session) (args : List String) : Outcome :=
  match (run args).run ⟨s, [], []⟩ with
  | (.ok _, c) => ⟨none, c⟩
  | (.error stop, c) => ⟨some stop, c⟩

theorem outcome_exit (s : Session) (args : List String) (code : Nat) (c : Console)
    (h : (run args).run ⟨s, [], []⟩ = (.error (.exit code), c)) :
    (outcome s args).exitCode = code := by
  simp [outcome, h, Outcome.exitCode, Stop.exitCode]

/-- The files that a run of a list of arguments may look at, besides the environment file. -/
def places (s : Session) (args : List String) : List Path :=
  let reading : Except Usage Request := do
    match ← Opening.read args with
    | .proceed _ (word :: rest) =>
      match Name.ofText? word with
      | some n => Request.read s.files n rest
      | none => throw (.unknownCommand word)
    | _ => throw .noCommand
  match reading with
  | .ok (.batch _ scope) =>
    let own := match s.readSettings with
      | .ok settings => [settings.queriesDir]
      | .error _ => []
    scope.targets.map Path.ofText ++ (scope.directory.map Path.ofText).toList ++ own
  | _ => []

end ElementLookup.Command
