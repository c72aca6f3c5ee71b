/-
**Log files, line by line.**

In a log file each record is a JSON object on a line of its own, with the moment of the record in
universal time as its first member.

Main definitions:

* `Log.timestamp` — the text of a moment given in seconds since the beginning of 1970;
* `Log.ClockFault` — why there is none;
* `Log.lineNamed`, `Log.line` — the line of a record, whose severity goes by some name or by its
  usual one;
* `Log.LineFault` — why there is none.

Main results:

* `Log.timestamp_zero` — the count begins in 1970.
-/

import ElementLookup.Calendar
import ElementLookup.Log.Record

set_option autoImplicit false

namespace ElementLookup.Log

/-- Why a moment has no text: its year is not between 1 and 9999, it is beyond the clock's range, or
its count of seconds does not fit a word. -/
inductive ClockFault where
  | yearOutOfRange
  | beyondClock
  | tooManySeconds
  deriving DecidableEq, Repr

/-- The seconds from the beginning of the year 1 to that of 1970. -/
def epochOffset : Int := 719162 * 86400

/-- The greatest and the least count of seconds whose year fits 32 bits. -/
def lastClockSecond : Int := 67768036191676799
def firstClockSecond : Int := -67768040609740800

/-- The least magnitude of seconds that does not fit a word of 64 bits. -/
def wordLimit : Int := 9223372036854775808

/-- The text of a moment; the year is not padded. -/
def timestamp (seconds : Int) : Except ClockFault String :=
  if wordLimit ≤ seconds ∨ seconds < -wordLimit then .error .tooManySeconds
  else if lastClockSecond < seconds ∨ seconds < firstClockSecond then .error .beyondClock
  else
    let total := seconds + epochOffset
    if total < 0 then .error .yearOutOfRange
    else
      let date := Date.ofDayNumber (total.toNat / 86400)
      if 9999 < date.year then .error .yearOutOfRange
      else
        let s := total.toNat % 86400
        .ok (toString date.year ++ "-" ++ padded 2 date.month ++ "-" ++ padded 2 date.day ++ "T"
          ++ padded 2 (s / 3600) ++ ":" ++ padded 2 (s / 60 % 60) ++ ":" ++ padded 2 (s % 60))

theorem timestamp_zero : timestamp 0 = .ok "1970-01-01T00:00:00" := by rfl

/-- Why a record has no line: its moment has no text, or something that accompanies it cannot be
written. -/
inductive LineFault where
  | clock (fault : ClockFault)
  | member (obstacle : Json.Obstacle)
  deriving DecidableEq, Repr

/-- The line of a record made at a moment, whose severity goes by a name.  In the line at most
`depth` lists and objects stand in one another. -/
def lineNamed (depth : Nat) (name : String) (seconds : Int) (r : Record) :
    Except LineFault String :=
  match timestamp seconds with
  | .error fault => .error (.clock fault)
  | .ok ts =>
    let j := Json.object (r.membersNamed name [("ts", .text ts)])
    match j.obstacle? depth with
    | some obstacle => .error (.member obstacle)
    | none => .ok j.line

/-- The line of a record made at a moment. -/
def line (depth : Nat) (seconds : Int) (r : Record) : Except LineFault String :=
  lineNamed depth (Severity.name r.severity) seconds r

end ElementLookup.Log
