/-
**Dates and times of the common calendar.**

A document may hold dates and times of day, and a log record carries the moment at which it was
made.  Years run from 1 to 9999; a time may state its distance from universal time in minutes.

Main definitions:

* `Date`, `DateTime` — a day, and a moment of a day;
* `Date.valid`, `DateTime.valid` — what the calendar and the clock know;
* `Date.dayNumber`, `Date.ofDayNumber` — days counted from the first of January of the year 1;
* `DateTime.text`, `DateTime.inspect` — the two written forms.

Main results:

* `Date.dayNumber_epoch` — the count of days at the beginning of 1970.
-/

set_option autoImplicit false

namespace ElementLookup

/-! ### Days -/

/-- A day. -/
structure Date where
  year : Nat
  month : Nat
  day : Nat
  deriving DecidableEq, Repr

/-- Whether a year has a 29th of February. -/
def isLeapYear (y : Nat) : Bool :=
  y % 4 = 0 && (y % 100 ≠ 0 || y % 400 = 0)

/-- The number of days of a month. -/
def daysInMonth (y m : Nat) : Nat :=
  if m = 2 then (if isLeapYear y then 29 else 28)
  else if m = 4 || m = 6 || m = 9 || m = 11 then 30
  else 31

/-- Whether the calendar has this day. -/
def Date.valid (d : Date) : Bool :=
  1 ≤ d.year && d.year ≤ 9999 && 1 ≤ d.month && d.month ≤ 12
    && 1 ≤ d.day && d.day ≤ daysInMonth d.year d.month

/-- The number of days in the years before `y`. -/
def daysBeforeYear (y : Nat) : Nat :=
  let n := y - 1
  365 * n + n / 4 - n / 100 + n / 400

/-- The number of days in the months of year `y` before month `m`. -/
def daysBeforeMonth (y : Nat) : Nat → Nat
  | 0 | 1 => 0
  | m + 2 => daysBeforeMonth y (m + 1) + daysInMonth y (m + 1)

/-- The day's number, with the first of January of the year 1 as number 0. -/
def Date.dayNumber (d : Date) : Nat :=
  daysBeforeYear d.year + daysBeforeMonth d.year d.month + (d.day - 1)

theorem Date.dayNumber_epoch : Date.dayNumber ⟨1970, 1, 1⟩ = 719162 := by decide

/-- The year of a day's number: the greatest year that starts no later. -/
def yearOfDayNumber (n : Nat) : Nat :=
  -- no year has more than 366 days, so the year is not before the guess
  let guess := n / 366 + 1
  let candidates := (List.range (n / 366 / 400 + 3)).map (guess + ·)
  (candidates.filter fun y => daysBeforeYear y ≤ n).getLastD guess

/-- The month and the day of the month of day `n` of year `y`, from month `m` on. -/
def monthOfDay (y : Nat) : Nat → Nat → Nat → Nat × Nat
  | 0, m, n => (m, n + 1)
  | fuel + 1, m, n =>
    if n < daysInMonth y m then (m, n + 1)
    else monthOfDay y fuel (m + 1) (n - daysInMonth y m)

/-- The day with a number. -/
def Date.ofDayNumber (n : Nat) : Date :=
  let y := yearOfDayNumber n
  let (m, d) := monthOfDay y 11 1 (n - daysBeforeYear y)
  ⟨y, m, d⟩

/-! ### Moments -/

/-- A moment of a day, with its distance from universal time in minutes if that is known. -/
structure DateTime where
  date : Date
  hour : Nat
  minute : Nat
  second : Nat
  microsecond : Nat
  offset : Option Int
  deriving DecidableEq, Repr

/-- Whether calendar and clock know this moment. -/
def DateTime.valid (t : DateTime) : Bool :=
  t.date.valid && t.hour < 24 && t.minute < 60 && t.second < 60
    && t.offset.all fun o => -1440 < o && o < 1440

/-- Microseconds since the beginning of the year 1, in universal time if the offset is known. -/
def DateTime.instant (t : DateTime) : Int :=
  let minutes : Int := ((t.date.dayNumber * 24 + t.hour) * 60 + t.minute : Nat)
  ((minutes - t.offset.getD 0) * 60 + t.second) * 1000000 + t.microsecond

/-- Whether two moments are the same; one whose offset is known never equals one without. -/
def DateTime.same (t u : DateTime) : Bool :=
  t.offset.isSome == u.offset.isSome && t.instant = u.instant

/-! ### Written forms -/

/-- A number padded with zeros to a width. -/
def padded (width n : Nat) : String :=
  let digits := Nat.toDigits 10 n
  String.ofList (List.replicate (width - digits.length) '0' ++ digits)

/-- Year, month and day. -/
def Date.text (d : Date) : String :=
  padded 4 d.year ++ "-" ++ padded 2 d.month ++ "-" ++ padded 2 d.day

/-- The distance from universal time, with its sign. -/
def offsetText (o : Int) : String :=
  (if o < 0 then "-" else "+") ++ padded 2 (o.natAbs / 60) ++ ":" ++ padded 2 (o.natAbs % 60)

/-- Date, time, the fraction of a second if there is one, and the offset if it is known. -/
def DateTime.text (t : DateTime) : String :=
  t.date.text ++ " " ++ padded 2 t.hour ++ ":" ++ padded 2 t.minute ++ ":" ++ padded 2 t.second
    ++ (if t.microsecond = 0 then "" else "." ++ padded 6 t.microsecond)
    ++ (t.offset.map offsetText).getD ""

/-- A date inside another value. -/
def Date.inspect (d : Date) : String :=
  "datetime.date(" ++ toString d.year ++ ", " ++ toString d.month ++ ", " ++ toString d.day ++ ")"

/-- An offset inside another value: whole days to the floor, then seconds. -/
def offsetInspect (o : Int) : String :=
  if o = 0 then "datetime.timezone.utc"
  else
    let days := Int.fdiv o 1440
    let seconds := Int.fmod o 1440 * 60
    let parts := (if days = 0 then [] else ["days=" ++ toString days])
      ++ (if seconds = 0 then [] else ["seconds=" ++ toString seconds])
    "datetime.timezone(datetime.timedelta(" ++ ", ".intercalate parts ++ "))"

/-- A moment inside another value: seconds and their fraction only where they are needed. -/
def DateTime.inspect (t : DateTime) : String :=
  let fields := [t.date.year, t.date.month, t.date.day, t.hour, t.minute]
    ++ (if t.second = 0 && t.microsecond = 0 then [] else [t.second])
    ++ (if t.microsecond = 0 then [] else [t.microsecond])
  let zone := match t.offset with
    | some o => ["tzinfo=" ++ offsetInspect o]
    | none => []
  "datetime.datetime(" ++ ", ".intercalate (fields.map toString ++ zone) ++ ")"

example : Date.ofDayNumber (Date.dayNumber ⟨2000, 2, 29⟩) = ⟨2000, 2, 29⟩ := by decide +kernel
example : Date.ofDayNumber (Date.dayNumber ⟨9999, 12, 31⟩) = ⟨9999, 12, 31⟩ := by decide +kernel
example : Date.ofDayNumber 0 = ⟨1, 1, 1⟩ := by decide +kernel

end ElementLookup
