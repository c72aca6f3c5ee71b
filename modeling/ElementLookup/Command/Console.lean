/-
**Consoles.**

A command runs within a session and prints lines, to its output or to its error output.  It comes to
an end by itself, or it stops with an exit code, a fault of usage, a fault of the session or a line
that no encoding can write; what it printed before it stopped stays printed.

Lines are Unicode text, and so are the arguments and names that they show, and the devices take all
of it.  Only what a query file says may hold halves of surrogate pairs, which no device takes.

Main definitions:

* `Stop`, `Stop.exitCode` — why a command stops early;
* `Console`, `CommandM` — a session with what was printed, and steps of a command;
* `Console.written` — lines as a terminal or another device is given them;
* `Command.print`, `Command.printLine`, `Command.printError` — printing a line;
* `Command.inSession`, `Command.attempt` — steps of the session within a command;
* `Command.bound` — a step with a member bound to its records.

Main results:

* `Command.bound_unbinds` — whatever a step does, its member is not bound afterwards.
-/

import ElementLookup.Command.Request
import ElementLookup.Session
import ElementLookup.Text.Style

set_option autoImplicit false

namespace ElementLookup

/-! ### Stopping -/

/-- Why a command stops early; at the end, because a line cannot be printed. -/
inductive Stop where
  | exit (code : Nat)
  | usage (u : Command.Usage)
  | fault (f : Fault)
  | unwritable

/-- The exit code of a command that stops. -/
def Stop.exitCode : Stop → Nat
  | .exit code => code
  | .usage _ => 2
  | .fault _ => 1
  | .unwritable => 1

/-- A session and the lines that were printed. -/
structure Console where
  session : Session
  out : List String
  err : List String

/-- Lines as they are printed. -/
def Console.unlines (lines : List String) : String :=
  String.join (lines.map (· ++ "\n"))

/-- A line as it is written: only a terminal is given style codes. -/
def Console.shown (terminal : Bool) (line : String) : String :=
  if terminal then line else Text.withoutStyles line

/-- Lines as they are written to a terminal or to another device. -/
def Console.written (terminal : Bool) (lines : List String) : String :=
  Console.unlines (lines.map (Console.shown terminal))

/-- A step of a command. -/
abbrev CommandM := ExceptT Stop (StateM Console)

namespace Command

variable {α : Type}

/-! ### Printing -/

/-- Prints a line of Unicode text to the output, which takes it. -/
def print (line : String) : CommandM Unit :=
  modify fun c => { c with out := c.out ++ [line] }

/-- A line to print; if it holds half a surrogate pair, it cannot be. -/
structure Line where
  text : String
  halved : Bool

/-- Prints a line to the output, or stops if that is impossible. -/
def printLine (line : Line) : CommandM Unit :=
  if line.halved then throw .unwritable else print line.text

/-- Prints a line to the error output. -/
def printError (line : String) : CommandM Unit :=
  modify fun c => { c with err := c.err ++ [line] }

/-- Stops. -/
def stop (s : Stop) : CommandM α := throw s

/-- The result of reading a request, or a fault of usage. -/
def orUsage (r : Except Usage α) : CommandM α :=
  match r with
  | .ok a => pure a
  | .error u => stop (.usage u)

/-! ### The session -/

/-- Runs a step of the session and keeps its result, good or bad. -/
def result (step : SessionM α) : CommandM (Except Fault α) := do
  let c ← get
  let (r, s) := step.run c.session
  set { c with session := s }
  return r

/-- Runs a step of the session. -/
def inSession (step : SessionM α) : CommandM α := do
  match ← result step with
  | .ok a => return a
  | .error f => stop (.fault f)

/-- Runs a step of the session that looks at a query file; a fault of that file is a result. -/
def attempt (step : SessionM α) : CommandM (Except LoadFault α) := do
  match ← result step with
  | .ok a => return .ok a
  -- a fault that no report foresees ends the command, like one of the session
  | .error (.load f) => if f.isReported then return .error f else stop (.fault (.load f))
  | .error f => stop (.fault f)

/-- The console after members were removed from later records. -/
def unbound (keys : List String) (c : Console) : Console :=
  { c with session := { c.session with bound := Json.without c.session.bound keys } }

/-- Runs a step, and removes members from later records however it ends. -/
def unbinding (keys : List String) (step : CommandM α) : CommandM α :=
  ExceptT.mk fun c => let (r, d) := step.run c; (r, unbound keys d)

/-- Runs a step whose records carry a member, which is removed however the step ends. -/
def bound (key : String) (value : Json) (step : CommandM α) : CommandM α := do
  inSession (Session.bind [(key, value)])
  unbinding [key] step

theorem notMem_without (members : Log.Context) (keys : List String) {key : String}
    (h : key ∈ keys) : ∀ m ∈ Json.without members keys, m.1 ≠ key := by
  intro m hm e
  have := (List.mem_filter.1 hm).2
  simp [e, h] at this

/-- However a step ends, its member is not bound afterwards. -/
theorem bound_unbinds (key : String) (value : Json) (step : CommandM α) (c : Console) :
    ∀ m ∈ ((bound key value step).run c).2.session.bound, m.1 ≠ key :=
  notMem_without _ [key] (by simp)

end Command

end ElementLookup
