/-
**Problems found in given data.**

Checking never stops at the first problem: a result is either good, or it comes with every problem
that was found, each with the place where it was found, in the order of the fields.

Main definitions:

* `Problem.Cause`, `Problem` — what can be wrong, and where;
* `Problem.line`, `Problem.report` — problems in words;
* `Checked` — a good value or the problems found, as an applicative that keeps all of them;
* `Checked.within` — the same result with its places seen from outside;
* `Checked.all` — a list of results as one.

Main results:

* `Checked.problems_seq` — two parts checked side by side report the problems of both in order;
* `Checked.problems_all` — a list reports the problems of its members in order.
-/

import ElementLookup.Text.Quoted

set_option autoImplicit false

namespace ElementLookup

/-! ### Problems -/

/-- What is wrong with a value. -/
inductive Problem.Cause where
  | missing
  | notText
  | textUndecodable
  | notBool
  | boolUnclear
  | notWhole
  | wholeUnclear
  | wholeFraction
  | notFinite
  | wholeTooLong
  | belowOne
  | notList
  | notMapping (model : String)
  | notItem
  | noTag
  | unknownTag (tag : String) (expected : List String)
  | notOneOf (expected : List String)
  | rule (text : String)
  deriving DecidableEq, Repr

/-- A problem and its place, outermost step first. -/
structure Problem where
  place : List String
  cause : Problem.Cause
  deriving DecidableEq, Repr

/-- Alternatives in single quotes, the last one after an "or". -/
def alternatives (names : List String) : String :=
  let shown := names.map fun n => "'" ++ n ++ "'"
  match shown.reverse with
  | [] => ""
  | [n] => n
  | last :: before => ", ".intercalate before.reverse ++ " or " ++ last

/-- A cause in words. -/
def Problem.Cause.text : Problem.Cause → String
  | .missing => "Field required"
  | .notText => "Input should be a valid string"
  | .textUndecodable =>
    "Input should be a valid string, unable to parse raw data as a unicode string"
  | .notBool => "Input should be a valid boolean"
  | .boolUnclear => "Input should be a valid boolean, unable to interpret input"
  | .notWhole => "Input should be a valid integer"
  | .wholeUnclear => "Input should be a valid integer, unable to parse string as an integer"
  | .wholeFraction => "Input should be a valid integer, got a number with a fractional part"
  | .notFinite => "Input should be a finite number"
  | .wholeTooLong => "Unable to parse input string as an integer, exceeded maximum size"
  | .belowOne => "Input should be greater than or equal to 1"
  | .notList => "Input should be a valid list"
  | .notMapping model => "Input should be a valid dictionary or instance of " ++ model
  | .notItem => "Input should be a valid dictionary or object to extract fields from"
  | .noTag => "Unable to extract tag using discriminator 'kind'"
  | .unknownTag tag expected =>
    "Input tag '" ++ tag ++ "' found using 'kind' does not match any of the expected tags: "
      ++ ", ".intercalate (expected.map fun n => "'" ++ n ++ "'")
  | .notOneOf expected => "Input should be " ++ alternatives expected
  | .rule text => "Value error, " ++ text

/-- A problem as one entry of a report. -/
def Problem.line (p : Problem) : String :=
  "  - " ++ ".".intercalate p.place ++ ": " ++ p.cause.text

/-- All problems, one entry after the other. -/
def Problem.report (ps : List Problem) : String :=
  "\n".intercalate (ps.map Problem.line)

/-- A problem seen from one step further out. -/
def Problem.within (step : String) (p : Problem) : Problem :=
  { p with place := step :: p.place }

/-! ### Checked values -/

/-- A good value, or the problems found. -/
inductive Checked (α : Type) where
  | good (a : α)
  | bad (problems : List Problem)
  deriving DecidableEq, Repr

namespace Checked

variable {α β : Type}

/-- The problems of a result. -/
def problems : Checked α → List Problem
  | .good _ => []
  | .bad ps => ps

/-- The value of a result. -/
def value? : Checked α → Option α
  | .good a => some a
  | .bad _ => none

/-- Applies a function to a good value. -/
def map (f : α → β) : Checked α → Checked β
  | .good a => .good (f a)
  | .bad ps => .bad ps

/-- Applies a checked function to a checked value and keeps the problems of both. -/
def seq (f : Checked (α → β)) (a : Unit → Checked α) : Checked β :=
  match f, a () with
  | .good f, .good a => .good (f a)
  | .good _, .bad qs => .bad qs
  | .bad ps, .good _ => .bad ps
  | .bad ps, .bad qs => .bad (ps ++ qs)

instance : Applicative Checked where
  pure := .good
  map := map
  seq := seq

@[simp] theorem pure_eq (a : α) : (pure a : Checked α) = .good a := rfl

/-- The problems of both parts, in order. -/
theorem problems_seq (f : Checked (α → β)) (a : Checked α) :
    (f <*> a).problems = f.problems ++ a.problems := by
  -- four cases, and only two bad parts have both lists to add
  change (seq f fun _ => a).problems = _
  cases f <;> cases a <;> simp [seq, problems]

/-- One problem at this place. -/
def fail (cause : Problem.Cause) : Checked α :=
  .bad [⟨[], cause⟩]

/-- The same result, seen from one step further out. -/
def within (step : String) : Checked α → Checked α
  | .good a => .good a
  | .bad ps => .bad (ps.map (Problem.within step))

/-- A good value checked further. -/
def andThen (c : Checked α) (f : α → Checked β) : Checked β :=
  match c with
  | .good a => f a
  | .bad ps => .bad ps

/-- A list of results as one result. -/
def all : List (Checked α) → Checked (List α)
  | [] => .good []
  | c :: r => (fun a as => a :: as) <$> c <*> all r

@[simp] theorem problems_map (f : α → β) (c : Checked α) :
    (f <$> c).problems = c.problems := by
  cases c <;> rfl

/-- The problems of all members, in order. -/
theorem problems_all (cs : List (Checked α)) :
    (all cs).problems = cs.flatMap problems := by
  induction cs with
  | nil => rfl
  | cons c r ih =>
    rw [all, problems_seq, problems_map, ih, List.flatMap_cons]

end Checked

end ElementLookup
