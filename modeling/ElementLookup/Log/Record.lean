/-
**Log records.**

A record names the logger it was given to, its severity and its message, and carries the context
that was bound when it was made.  What accompanies a record counts as context only if it is an
object.

Main definitions:

* `Log.Severity` — the ordered severities, with their names;
* `Log.Severity.ofWord` — the severity that a word stands for;
* `Log.Level` — the severities that settings can ask for;
* `Log.Note` — what a part of the library has to say;
* `Log.Record` — a note with what accompanies it;
* `Log.Record.context` — the members that accompany a record;
* `Log.Record.membersNamed`, `Log.Record.membersAfter` — a record as members of an object.

Main results:

* `Log.Severity.name_of_level` — the five common severities have names.
-/

import ElementLookup.Json

set_option autoImplicit false

namespace ElementLookup.Log

/-! ### Severities -/

/-- How much a record matters. -/
abbrev Severity := Int

namespace Severity

def debug : Severity := 10
def info : Severity := 20
def warning : Severity := 30
def error : Severity := 40
def critical : Severity := 50

/-- The name of a severity; one between the common ones is shown by its number. -/
def name (s : Severity) : String :=
  if s = critical then "CRITICAL"
  else if s = error then "ERROR"
  else if s = warning then "WARNING"
  else if s = info then "INFO"
  else if s = debug then "DEBUG"
  else if s = 0 then "NOTSET"
  else "Level " ++ toString s

/-- The severity with a name in capitals. -/
def named? (s : String) : Option Severity :=
  match s with
  | "CRITICAL" | "FATAL" => some critical
  | "ERROR" => some error
  | "WARNING" | "WARN" => some warning
  | "INFO" => some info
  | "DEBUG" => some debug
  | "NOTSET" => some 0
  | _ => none

/-- The capital form of a letter that occurs in the words below. -/
def capitals (c : Char) : List Char :=
  -- some letters beyond ASCII have their capitals within it
  match c with
  | 'ı' => ['I']
  | 'ſ' => ['S']
  | 'ﬅ' | 'ﬆ' => ['S', 'T']
  | c => [c.toUpper]

/-- A word that stands for another part of logging: the styles of messages, or the form of lines. -/
inductive Misnomer where
  | styles
  | lineForm
  deriving DecidableEq, Repr

/-- The severity that a word stands for, whatever its letter case; an unknown word stands for
information, but one that names another part of logging is refused. -/
def ofWord (word : String) : Except Misnomer Severity :=
  match String.ofList (word.toList.flatMap capitals) with
  | "_STYLES" => .error .styles
  | "BASIC_FORMAT" => .error .lineForm
  | name => .ok ((named? name).getD info)

example : ofWord "Warn" = .ok warning ∧ ofWord "loud" = .ok info := ⟨rfl, rfl⟩
example : ofWord "_styles" = .error .styles := rfl

end Severity

/-! ### Levels -/

/-- A severity that settings can ask for. -/
inductive Level where
  | debug
  | info
  | warning
  | error
  | critical
  deriving DecidableEq, Repr

/-- The severity of a level. -/
def Level.severity : Level → Severity
  | .debug => Severity.debug
  | .info => Severity.info
  | .warning => Severity.warning
  | .error => Severity.error
  | .critical => Severity.critical

/-- The name of a level. -/
def Level.name (l : Level) : String := Severity.name l.severity

/-- All levels, least first. -/
def Level.all : List Level := [.debug, .info, .warning, .error, .critical]

/-- The level with exactly this name. -/
def Level.ofName? (s : String) : Option Level :=
  Level.all.find? fun l => l.name = s

theorem Severity.name_of_level (l : Level) : Severity.named? l.name = some l.severity := by
  cases l <;> decide

/-! ### Records -/

/-- What a part of the library has to say. -/
structure Note where
  logger : String
  severity : Severity
  message : String

/-- A failure that a note reports: its kind and what it says. -/
structure Failure where
  kind : String
  text : String

/-- The context that accompanies records: members by key, each key once. -/
abbrev Context := List (String × Json)

/-- A note with the failure that it reports and the value that accompanies it.  A note may say that
it reports a failure where there is none; that failure has the kind `NoneType` and the text
`None`. -/
structure Record extends Note where
  failure : Option Failure
  extra : Json

/-- A failure in words. -/
def Failure.message (f : Failure) : String :=
  if f.text = "" then f.kind else f.kind ++ ": " ++ f.text

/-- The members that accompany a record; a value that is no object has none. -/
def Record.context (r : Record) : Context :=
  match r.extra with
  | .object members => members
  | _ => []

/-- The members of a record apart from its time: the name that its severity goes by, logger and
message, the failure if there is one, then the context, whose members replace earlier ones of the
same key. -/
def Record.membersNamed (r : Record) (name : String) (first : List (String × Json)) :
    List (String × Json) :=
  let own := first ++ [("level", .text name), ("logger", .text r.logger), ("msg", .text r.message)]
  let failed := match r.failure with
    | some f => [("exc_info", Json.text f.message)]
    | none => []
  Json.merge (own ++ failed) r.context

/-- The members of a record apart from its time, with the usual name of its severity. -/
def Record.membersAfter (first : List (String × Json)) (r : Record) : List (String × Json) :=
  r.membersNamed (Severity.name r.severity) first

/-- The logger of the whole library; the others are below it. -/
def rootLogger : String := "getby"

/-- Whether a logger is the library's or below it. -/
def isBelowRoot (logger : String) : Bool :=
  logger = rootLogger || (rootLogger ++ ".").toList.isPrefixOf logger.toList

end ElementLookup.Log
