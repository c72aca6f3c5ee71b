/-
**The values of texts.**

A text with a tag stands for a value of the tag's kind.  Numbers may be grouped by underscores and
written in several bases, sixty among them.

Main definitions:

* `Yaml.wholeValue`, `Yaml.floatValue`, `Yaml.stampValue`, `Yaml.octetsValue` — the readers;
* `Yaml.scalarValue` — the value of a text with a tag.

Main results:

* `Yaml.scalarValue_text` — a text that is tagged as one is itself.
-/

import ElementLookup.Value
import ElementLookup.Yaml.Tag

set_option autoImplicit false

namespace ElementLookup.Yaml

/-! ### Numbers -/

/-- Whether a number is negative. -/
def isNegative (cs : List Char) : Bool := cs.head? = some '-'

/-- A reader's answer, or that there is no such value. -/
def orNoSuch {α : Type} (a : Option α) : Except Fault α :=
  match a with
  | some a => .ok a
  | none => .error .noSuchValue

/-- A whole number without its sign. -/
def naturalValue (cs : List Char) : Except Fault Int :=
  match cs with
  | [] => .error .emptyNumber
  | ['0'] => .ok 0
  | '0' :: 'b' :: r => orNoSuch (Number.readWhole 2 r)
  | '0' :: 'x' :: r => orNoSuch (Number.readWhole 16 r)
  -- a zero in front means base eight, where the digits 8 and 9 are refused
  | '0' :: _ => orNoSuch (Number.readWhole 8 cs)
  | _ => do
    let parts ← (Text.split ':' cs).mapM fun part => orNoSuch (Number.readWhole 10 part)
    return parts.foldl (fun n d => n * 60 + d) 0

/-- A whole number. -/
def wholeValue (cs : List Char) : Except Fault Int := do
  let body := cs.filter (· ≠ '_')
  let n ← naturalValue (unsigned body)
  return if isNegative body then -n else n

/-- The sum of parts to the base sixty, least part first. -/
def sixtiethSum : List Binary64 → Int → Binary64 → Except Fault Binary64
  | [], _, sum => .ok sum
  | d :: r, base, sum =>
    -- the base is exact until it leaves the range of floating-point numbers
    match Binary64.ofInt base with
    | .infinite _ => .error .beyondBounds
    | b => sixtiethSum r (base * 60) (sum.add (d.mul b))

/-- A number with a point, without its sign. -/
def magnitudeValue (cs : List Char) : Except Fault Binary64 :=
  if cs = ".inf".toList then .ok (.infinite false)
  else if cs = ".nan".toList then .ok .nan
  else match Text.split ':' cs with
    | [_] => orNoSuch (Binary64.read cs)
    | parts => do
      let ds ← parts.mapM fun part => orNoSuch (Binary64.read part)
      sixtiethSum ds.reverse 1 (.zero false)

/-- A number with a point. -/
def floatValue (cs : List Char) : Except Fault Binary64 := do
  let body := (cs.filter (· ≠ '_')).map Char.toLower
  if body.isEmpty then .error .emptyNumber
  else
    let x ← magnitudeValue (unsigned body)
    return if isNegative body then x.neg else x

/-! ### Words, dates and octets -/

/-- A truth value. -/
def boolValue (cs : List Char) : Except Fault Bool :=
  match String.ofList (cs.map Char.toLower) with
  | "yes" | "true" | "on" => .ok true
  | "no" | "false" | "off" => .ok false
  | _ => .error .unknownWord

/-- The first six digits of a fraction, as millionths. -/
def millionths (fraction : List Char) : Nat :=
  Number.ofDecimal ((fraction ++ List.replicate 6 '0').take 6)

/-- The value of a written date. -/
def Stamp.value (s : Stamp) : Except Fault Value :=
  match s.clock with
  | none => if s.date.valid then .ok (.date s.date) else .error .noSuchValue
  | some c =>
    let t : DateTime :=
      ⟨s.date, c.hour, c.minute, c.second, millionths c.fraction, c.zone.map (·.minutes)⟩
    if t.valid then .ok (.dateTime t) else .error .noSuchValue

/-- A date, perhaps with a time. -/
def stampValue (cs : List Char) : Except Fault Value :=
  match Stamp.read? (withoutLineEnd cs) with
  | some s => s.value
  | none => .error .noDate

/-- The value of a digit to the base sixty-four. -/
def digit64? (c : Char) : Option Nat :=
  if 'A' ≤ c ∧ c ≤ 'Z' then some (c.toNat - 0x41)
  else if 'a' ≤ c ∧ c ≤ 'z' then some (c.toNat - 0x61 + 26)
  else if c.isDigit then some (c.toNat - 0x30 + 52)
  else if c = '+' then some 62
  else if c = '/' then some 63
  else none

/-- Octets from digits to the base sixty-four.  `filled` digits of a group of four are read, their
last bits are in `bits`, and `pads` signs of padding follow them; other characters are passed
over. -/
def octetsFrom (filled bits pads : Nat) : List Char → Except Fault (List UInt8)
  | [] => if filled = 0 then .ok [] else .error .malformed
  | c :: r =>
    if c = '=' then
      if 2 ≤ filled then
        if 4 ≤ filled + pads + 1 then .ok [] else octetsFrom filled bits (pads + 1) r
      else octetsFrom filled bits pads r
    else match digit64? c with
      | none => octetsFrom filled bits pads r
      | some d =>
        match filled with
        | 0 => octetsFrom 1 d 0 r
        | 1 => (UInt8.ofNat (bits * 4 + d / 16) :: ·) <$> octetsFrom 2 (d % 16) 0 r
        | 2 => (UInt8.ofNat (bits * 16 + d / 4) :: ·) <$> octetsFrom 3 (d % 4) 0 r
        | _ => (UInt8.ofNat (bits * 64 + d) :: ·) <$> octetsFrom 0 0 0 r

/-- Octets written to the base sixty-four, in ASCII. -/
def octetsValue (cs : List Char) : Except Fault (List UInt8) :=
  if cs.all (·.toNat < 128) then octetsFrom 0 0 0 cs else .error .malformed

/-! ### All kinds -/

/-- The value of a text with a tag.  The tags of containers and of special keys do not fit, and half
a surrogate pair is part of nothing but a text. -/
def scalarValue (tag : Tag) (signs : List Text.Sign) : Except Fault Value :=
  let cs := Text.shown signs
  match tag with
  | .text => .ok (.ofSigns signs)
  | .null => .ok .null
  | .bool => .bool <$> boolValue cs
  | .int => .int <$> wholeValue cs
  | .float => .float <$> floatValue cs
  | .timestamp => stampValue cs
  | .binary => .octets <$> octetsValue cs
  | _ => .error .malformed

theorem scalarValue_text (cs : List Char) :
    scalarValue .text (cs.map .char) = .ok (.text (String.ofList cs)) := by
  simp [scalarValue, Value.ofSigns_char]

end ElementLookup.Yaml
