/-
**Tags and plain texts.**

A tag says what kind of value a part of a document stands for.  Where no tag is written, containers
and quoted texts stand for themselves, and a plain text is what it looks like: a truth value, a
number, a date, nothing at all, or else a text.

Main definitions:

* `Yaml.Tag`, `Yaml.Tag.ofText` — the tags;
* `Yaml.isWholeText`, `Yaml.isFloatText` — what looks like a number;
* `Yaml.Stamp`, `Yaml.Stamp.read?` — what looks like a date or a moment;
* `Yaml.Tag.ofPlain` — what a plain text looks like.

Main results:

* `Yaml.Tag.ofPlain_empty` — the empty text stands for nothing.
-/

import ElementLookup.Calendar
import ElementLookup.Number.Whole
import ElementLookup.Text.Split
import ElementLookup.Yaml.Lexeme

set_option autoImplicit false

namespace ElementLookup.Yaml

/-! ### Tags -/

/-- The kinds of values.  `merge` and `default` are those of two special keys. -/
inductive Tag where
  | null
  | bool
  | int
  | float
  | text
  | binary
  | timestamp
  | sequence
  | mapping
  | set
  | orderedMap
  | pairs
  | merge
  | default
  | unknown
  deriving DecidableEq, Repr

/-- How the common tags begin. -/
def commonStart : String := "tag:yaml.org,2002:"

/-- The common tags by their names. -/
def Tag.names : List (String × Tag) :=
  [("null", .null), ("bool", .bool), ("int", .int), ("float", .float), ("str", .text),
   ("binary", .binary), ("timestamp", .timestamp), ("seq", .sequence), ("map", .mapping),
   ("set", .set), ("omap", .orderedMap), ("pairs", .pairs), ("merge", .merge),
   ("value", .default)]

/-- The tag in writing. -/
def Tag.ofText (s : String) : Tag :=
  ((Tag.names.find? fun e => commonStart ++ e.1 = s).map (·.2)).getD .unknown

/-! ### Numbers -/

/-- A text without its sign. -/
def unsigned : List Char → List Char
  | '-' :: r => r
  | '+' :: r => r
  | r => r

/-- A digit or an underscore. -/
def isDigitOr_ (c : Char) : Bool := c.isDigit || c = '_'

/-- A part of a number to the base sixty: one digit, or two of which the first is below six. -/
def isSixtieth : List Char → Bool
  | [d] => d.isDigit
  | [t, d] => '0' ≤ t && t ≤ '5' && d.isDigit
  | _ => false

/-- A nonempty text of a class. -/
def isRun (p : Char → Bool) (cs : List Char) : Bool := !cs.isEmpty && cs.all p

/-- Digits and underscores after a first digit. -/
def isDigits : List Char → Bool
  | d :: r => d.isDigit && r.all isDigitOr_
  | [] => false

/-- What looks like a whole number, without its sign. -/
def isNaturalText : List Char → Bool
  | '0' :: 'b' :: r => isRun (fun c => c = '0' || c = '1' || c = '_') r
  | '0' :: 'x' :: r => isRun (fun c => (hexDigit? c).isSome || c = '_') r
  | '0' :: r => r.all fun c => ('0' ≤ c && c ≤ '7') || c = '_'
  | cs =>
    match Text.split ':' cs with
    | first :: sixtieths => isDigits first && sixtieths.all isSixtieth
    | [] => false

/-- What looks like a whole number. -/
def isWholeText (cs : List Char) : Bool := isNaturalText (unsigned cs)

/-- The power of ten after a fraction, with a sign, or nothing. -/
def isExponent : List Char → Bool
  | [] => true
  | e :: s :: r => (e = 'e' || e = 'E') && (s = '-' || s = '+') && isRun Char.isDigit r
  | _ => false

/-- What looks like the fraction of a number and what follows it. -/
def isFraction (cs : List Char) : Bool := isExponent (cs.dropWhile isDigitOr_)

/-- What looks like a number with a point, without its sign. -/
def isPointText (cs : List Char) : Bool :=
  let before := cs.takeWhile (· ≠ '.')
  match cs.dropWhile (· ≠ '.') with
  | '.' :: after =>
    match Text.split ':' before with
    | [whole] => isDigits whole && isFraction after
    | whole :: sixtieths => isDigits whole && sixtieths.all isSixtieth && after.all isDigitOr_
    | [] => false
  | _ => false

/-- A fraction alone. -/
def isBareFraction : List Char → Bool
  | '.' :: d :: r => d.isDigit && isFraction r
  | _ => false

/-- The words for infinity and for what is no number. -/
def infinityWords : List (List Char) := [".inf".toList, ".Inf".toList, ".INF".toList]
def nanWords : List (List Char) := [".nan".toList, ".NaN".toList, ".NAN".toList]

/-- What looks like a number with a point. -/
def isFloatText (cs : List Char) : Bool :=
  isPointText (unsigned cs) || isBareFraction cs || unsigned cs ∈ infinityWords || cs ∈ nanWords

/-! ### Dates -/

/-- The distance from universal time: a sign, hours and minutes. -/
structure Zone where
  minutes : Int
  deriving DecidableEq, Repr

/-- The time of a day as it is written. -/
structure Clock where
  hour : Nat
  minute : Nat
  second : Nat
  fraction : List Char
  zone : Option Zone
  deriving DecidableEq, Repr

/-- A date as it is written, perhaps with a time. -/
structure Stamp where
  date : Date
  padded : Bool
  clock : Option Clock
  deriving DecidableEq, Repr

/-- At least `low` and at most `high` digits, and what follows them. -/
def digits? (low high : Nat) (cs : List Char) : Option (Nat × Nat × List Char) :=
  let ds := (cs.take high).takeWhile Char.isDigit
  if ds.length < low then none
  else some (Number.ofDecimal ds, ds.length, cs.drop ds.length)

/-- What follows a character. -/
def after? (c : Char) : List Char → Option (List Char)
  | d :: r => if d = c then some r else none
  | [] => none

/-- A tabulator or a blank. -/
def isTabOrSpace (c : Char) : Bool := c = ' ' || c = '\t'

/-- The zone at the end of a moment, if anything is there. -/
def zone? (cs : List Char) : Option (Option Zone) :=
  match cs with
  | [] => some none
  | _ =>
    match cs.dropWhile isTabOrSpace with
    | ['Z'] => some (some ⟨0⟩)
    | s :: r =>
      if s = '-' || s = '+' then do
        let (hours, _, r) ← digits? 1 2 r
        -- minutes are optional, but they have both digits and end the text
        let minutes ← match r with
          | [] => some 0
          | ':' :: r => do
            let (m, _, r) ← digits? 2 2 r
            if r.isEmpty then some m else none
          | _ => none
        let total : Int := (hours * 60 + minutes : Nat)
        some (some ⟨if s = '-' then -total else total⟩)
      else none
    | [] => none

/-- The time after a date and what separates it. -/
def clock? (cs : List Char) : Option Clock := do
  let (hour, _, r) ← digits? 1 2 cs
  let (minute, _, r) ← after? ':' r >>= digits? 2 2
  let (second, _, r) ← after? ':' r >>= digits? 2 2
  let (fraction, r) := match r with
    | '.' :: r => (r.takeWhile Char.isDigit, r.dropWhile Char.isDigit)
    | r => ([], r)
  let zone ← zone? r
  return ⟨hour, minute, second, fraction, zone⟩

/-- What separates a date and a time: a letter, or blanks. -/
def dateTimeGap? : List Char → Option (List Char)
  | c :: r =>
    if c = 'T' || c = 't' then some r
    else if isTabOrSpace c then some (r.dropWhile isTabOrSpace)
    else none
  | [] => none

/-- A date, perhaps with a time. -/
def Stamp.read? (cs : List Char) : Option Stamp := do
  let (year, _, r) ← digits? 4 4 cs
  let (month, m, r) ← after? '-' r >>= digits? 1 2
  let (day, d, r) ← after? '-' r >>= digits? 1 2
  let padded := m = 2 && d = 2
  if r.isEmpty then return ⟨⟨year, month, day⟩, padded, none⟩
  else return ⟨⟨year, month, day⟩, padded, ← dateTimeGap? r >>= clock?⟩

/-- What looks like a date or a moment; a date alone must have all its digits. -/
def isStampText (cs : List Char) : Bool :=
  match Stamp.read? cs with
  | some s => s.padded || s.clock.isSome
  | none => false

/-! ### Plain texts -/

/-- The three spellings of a word: small, with a capital, and in capitals. -/
def spellings (word : String) : List (List Char) :=
  match word.toList with
  | [] => []
  | c :: r => [c :: r, c.toUpper :: r, (c :: r).map Char.toUpper]

/-- The words for truth values. -/
def boolWords : List (List Char) :=
  ["yes", "no", "true", "false", "on", "off"].flatMap spellings

/-- The words for nothing. -/
def nullWords : List (List Char) := [] :: ['~'] :: spellings "null"

/-- The text without a line end at its end. -/
def withoutLineEnd (cs : List Char) : List Char :=
  if cs.getLast? = some '\n' then cs.dropLast else cs

/-- What a plain text looks like. -/
def Tag.ofPlain (cs : List Char) : Tag :=
  let body := withoutLineEnd cs
  -- a text that looks like several kinds is of the first of them
  if body ∈ boolWords then .bool
  else if cs ≠ ['\n'] && body ∈ nullWords then .null
  else if body = ['<', '<'] then .merge
  else if body = ['='] then .default
  else if isFloatText body then .float
  else if isWholeText body then .int
  else if isStampText body then .timestamp
  else if body = ['!'] || body = ['&'] || body = ['*'] then .unknown
  else .text

theorem Tag.ofPlain_empty : Tag.ofPlain [] = .null := by decide

example : Tag.ofPlain "0o17".toList = .text ∧ Tag.ofPlain "017".toList = .int := by decide
example : Tag.ofPlain "1:30".toList = .int ∧ Tag.ofPlain "1:75".toList = .text := by decide
example : Tag.ofPlain "1e3".toList = .text ∧ Tag.ofPlain "1.0e+3".toList = .float := by decide

end ElementLookup.Yaml
