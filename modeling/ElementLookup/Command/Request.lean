/-
**Requests.**

Ten commands ask for something: the settings, a single lookup of one of the seven kinds, or a run
over query files.  What a command is given is read into a request before anything is done; a request
that cannot be read is a fault of usage.

Main definitions:

* `Name` — the commands;
* `Choice` — the options of all commands;
* `Usage`, `Usage.message` — what can be wrong with a request;
* `Request`, `Request.read` — what a command asks for;
* `Opening`, `Opening.read` — the options that come before a command.

Main results:

* `Name.ofText?_text` — commands are known by their names.
-/

import ElementLookup.Command.Arguments
import ElementLookup.Files.Tree
import ElementLookup.Log.Record
import ElementLookup.Number.Whole
import ElementLookup.Selector.Lookup

set_option autoImplicit false

namespace ElementLookup.Command

/-! ### Commands -/

/-- The name of the program. -/
def programName : String := "getby"

/-- The version of the program. -/
def version : String := "0.1.0"

/-- The commands. -/
inductive Name where
  | config
  | byText (kind : TextKind)
  | role
  | compile
  | validate
  deriving DecidableEq, Repr

/-- The name of a command as it is written. -/
def Name.text : Name → String
  | .config => "config"
  | .byText .testId => "test-id"
  | .byText .altText => "alt-text"
  | .byText kind => kind.name
  | .role => "role"
  | .compile => "compile"
  | .validate => "validate"

/-- All commands. -/
def Name.all : List Name :=
  [.config, .byText .text, .byText .label, .byText .altText, .byText .title, .byText .placeholder,
   .byText .testId, .role, .compile, .validate]

/-- The command with a name. -/
def Name.ofText? (s : String) : Option Name :=
  Name.all.find? fun n => n.text = s

theorem Name.ofText?_text (n : Name) : Name.ofText? n.text = some n := by
  cases n with
  | byText kind => cases kind <;> decide
  | _ => decide

/-! ### Options -/

/-- The options of all commands, and those that come before a command. -/
inductive Choice where
  | help
  | version
  | logLevel
  | exact
  | regex
  | flags
  | idAttribute
  | property (p : Role.Property)
  | directory
  | recursive
  | json
  deriving DecidableEq, Repr

/-- An option that takes a value. -/
def taking (word : String) (c : Choice) : List (Spelling Choice) :=
  [⟨"--" ++ word, c, .takes⟩]

/-- An option that can be switched on. -/
def switch (word : String) (c : Choice) : List (Spelling Choice) :=
  [⟨"--" ++ word, c, .states true⟩]

/-- An option that can be switched on and off. -/
def toggle (word : String) (c : Choice) : List (Spelling Choice) :=
  [⟨"--" ++ word, c, .states true⟩, ⟨"--no-" ++ word, c, .states false⟩]

/-- The option that every command has. -/
def helpOption : List (Spelling Choice) :=
  ⟨"-h", .help, .states true⟩ :: switch "help" .help

/-- The options of a property of roles. -/
def propertyOptions (p : Role.Property) : List (Spelling Choice) :=
  match p with
  | .name | .level => taking p.clauseKey (.property p)
  | _ => toggle p.clauseKey (.property p)

/-- The options of a command. -/
def Name.options (n : Name) : List (Spelling Choice) :=
  match n with
  | .config => []
  | .byText .testId =>
    taking "attribute" .idAttribute ++ switch "regex" .regex ++ taking "flags" .flags
  | .byText _ => toggle "exact" .exact ++ switch "regex" .regex ++ taking "flags" .flags
  | .role => Role.Property.all.flatMap propertyOptions
  | .compile =>
    taking "dir" .directory ++ toggle "recursive" .recursive ++ switch "json" .json
  | .validate => taking "dir" .directory ++ toggle "recursive" .recursive

/-- The arguments of a command: options may stand anywhere. -/
def Name.signature (n : Name) : Signature Choice :=
  ⟨n.options ++ helpOption, true⟩

/-- The arguments before a command: the first one that is no option is the command. -/
def openingSignature : Signature Choice :=
  ⟨taking "log-level" .logLevel ++ switch "version" .version ++ helpOption, false⟩

/-! ### Faults of usage -/

/-- What can be wrong with a request. -/
inductive Usage where
  | noArguments
  | noCommand
  | unknownCommand (word : String)
  | misread (why : Misread)
  | badValue (option : Choice)
  | argumentMissing
  | argumentLeft (word : String)
  | flagsWithoutRegex
  | badFlags (fault : PatternFault)
  deriving DecidableEq, Repr

/-- What is wrong with the reading of arguments, in words. -/
def Misread.message : Misread → String
  | .unknownOption word => "There is no option " ++ word
  | .valueMissing word => "The option " ++ word ++ " needs a value"
  | .valueUnwanted word => "The option " ++ word ++ " takes no value"

/-- What is wrong with a request, in words. -/
def Usage.message : Usage → String
  | .noArguments | .noCommand => "A command is missing"
  | .unknownCommand word => "There is no command " ++ word
  | .misread why => why.message
  | .badValue .logLevel =>
    "The log level is one of " ++ ", ".intercalate (Log.Level.all.map Log.Level.name)
  | .badValue (.property _) => "The level is a whole number from 1 on"
  | .badValue _ => "There is no such directory"
  | .argumentMissing => "An argument is missing"
  | .argumentLeft word => "Nothing is done with the argument " ++ word
  | .flagsWithoutRegex => "--flags only applies together with --regex"
  | .badFlags fault => fault.message

/-! ### Before the command -/

/-- What is asked for once and ends a run at once. -/
inductive Notice where
  | help
  | version
  deriving DecidableEq, Repr

/-- The first notice that is asked for. -/
def notice? (r : Reading Choice) : Option Notice :=
  r.options.findSome? fun o => match o.1 with
    | .help => some .help
    | .version => some .version
    | _ => none

/-- What comes before a command: a notice, or a log level and the command with what it is given. -/
inductive Opening where
  | notice (n : Notice)
  | proceed (level : Option Log.Level) (rest : List String)
  deriving DecidableEq, Repr

/-- A log level by its name in any letter case. -/
def logLevel? (s : String) : Option Log.Level :=
  Log.Level.ofName? (String.ofList (s.toList.map Char.toUpper))

/-- The log level that is asked for. -/
def readLevel (r : Reading Choice) : Except Usage (Option Log.Level) :=
  match r.text? .logLevel with
  | none => .ok none
  | some s =>
    match logLevel? s with
    | some l => .ok (some l)
    | none => .error (.badValue .logLevel)

/-- Arguments by a signature. -/
def readBy (sig : Signature Choice) (args : List String) : Except Usage (Reading Choice) :=
  match sig.read args with
  | .ok r => .ok r
  | .error why => .error (.misread why)

/-- What comes before a command. -/
def Opening.read (args : List String) : Except Usage Opening := do
  if args.isEmpty then throw .noArguments
  let r ← readBy openingSignature args
  match notice? r with
  | some n => return .notice n
  | none => return .proceed (← readLevel r) r.positional

/-! ### Requests -/

/-- Where a run over query files finds them: in its targets, else in a directory. -/
structure Scope where
  targets : List String
  directory : Option String
  recursive : Bool
  deriving DecidableEq, Repr

/-- What a run over query files is for. -/
inductive Goal where
  | lines
  | json
  | validity
  deriving DecidableEq, Repr

/-- What a command asks for. -/
inductive Request where
  | help
  | config
  | lookup (idAttribute : Option String) (l : Lookup)
  | batch (goal : Goal) (scope : Scope)

/-- The one positional argument. -/
def theArgument (r : Reading Choice) : Except Usage String :=
  match r.positional with
  | [] => .error .argumentMissing
  | [s] => .ok s
  | _ :: s :: _ => .error (.argumentLeft s)

/-- The text value that a text stands for: itself, or a pattern. -/
def textValue (s : String) (regex : Bool) (flags : String) : Except Usage TextValue :=
  if regex then
    match TextPattern.make s flags with
    | .ok p => .ok (.pattern p)
    | .error fault => .error (.badFlags fault)
  else if flags = "" then .ok (.literal s)
  else .error .flagsWithoutRegex

/-- A lookup for a text. -/
def readText (kind : TextKind) (r : Reading Choice) : Except Usage Request := do
  let s ← theArgument r
  let t ← textValue s ((r.state? .regex).getD false) ((r.text? .flags).getD "")
  -- a test id is always compared exactly and is never told so
  let exact := if kind = .testId then none else some (Value.bool ((r.state? .exact).getD false))
  return .lookup ((r.text? .idAttribute).filter (· ≠ "")) (.byText kind (.textValue t) exact)

/-- The level that is asked for: a whole number from 1 on. -/
def readHeading (r : Reading Choice) : Except Usage (Option Int) :=
  match r.text? (.property .level) with
  | none => .ok none
  | some s =>
    match Number.readWhole 10 s.toList with
    | some n => if 1 ≤ n then .ok (some n) else .error (.badValue (.property .level))
    | none => .error (.badValue (.property .level))

/-- The value of a property as a role option; absent ones are null. -/
def propertyValue (r : Reading Choice) (level : Option Int) (p : Role.Property) : Value :=
  match p with
  | .level => (level.map .int).getD .null
  | .name => ((r.text? (.property p)).map .text).getD .null
  | _ => ((r.state? (.property p)).map .bool).getD .null

/-- A lookup for a role. -/
def readRole (r : Reading Choice) : Except Usage Request := do
  let level ← readHeading r
  let role ← theArgument r
  return .lookup none
    (.byRole (.text role) (Role.Property.all.map fun p => (p.key, propertyValue r level p)))

/-- The directory that is asked for, which must be there; an empty text names none.  A name that no
file can have is left to the run, where it is a fault. -/
def readDirectory (files : Files) (r : Reading Choice) : Except Usage (Option String) :=
  match r.text? .directory with
  | none => .ok none
  | some s =>
    if s.contains '\x00' || (s ≠ "" && files.isDirectory (Path.ofText s)) then .ok (some s)
    else .error (.badValue .directory)

/-- A run over query files. -/
def readBatch (files : Files) (goal : Goal) (r : Reading Choice) : Except Usage Request := do
  let directory ← readDirectory files r
  return .batch goal ⟨r.positional, directory, (r.state? .recursive).getD true⟩

/-- What is asked for by a command that was given a reading. -/
def Request.ofReading (files : Files) (n : Name) (r : Reading Choice) : Except Usage Request :=
  match n with
  | .config =>
    match r.positional with
    | [] => .ok .config
    | s :: _ => .error (.argumentLeft s)
  | .byText kind => readText kind r
  | .role => readRole r
  | .compile =>
    readBatch files (if (r.state? .json).getD false then .json else .lines) r
  | .validate => readBatch files .validity r

/-- What a command asks for; a notice goes before everything else. -/
def Request.read (files : Files) (n : Name) (args : List String) : Except Usage Request := do
  let r ← readBy n.signature args
  match notice? r with
  | some _ => return .help
  | none => Request.ofReading files n r

end ElementLookup.Command
