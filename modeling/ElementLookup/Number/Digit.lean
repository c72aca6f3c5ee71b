/-
**Decimal digits of all scripts.**

Unicode assigns the decimal digits of a script ten consecutive code points, so the zeros determine
them all.  Numbers given on a command line, or named as such by a tag in a document, may be written
in any of these scripts and be padded with any white space.

Main definitions:

* `Number.digitZeros` — the zeros, in increasing order;
* `Number.decimalDigit?` — the value of a decimal digit of some script;
* `Number.plainForm` — the same text with ASCII digits and ASCII spaces;
* `Number.digitIn?` — the value of an ASCII digit or letter in a base up to 36.

Main results:

* `Number.decimalDigit?_ascii` — the digits of ASCII are among them.
-/

import ElementLookup.Text.Blank

set_option autoImplicit false

namespace ElementLookup.Number

/-! ### Scripts -/

/-- The digits zero of Unicode 14. -/
def digitZeros : List Nat :=
  [0x30, 0x660, 0x6F0, 0x7C0, 0x966, 0x9E6, 0xA66, 0xAE6, 0xB66, 0xBE6, 0xC66, 0xCE6, 0xD66,
   0xDE6, 0xE50, 0xED0, 0xF20, 0x1040, 0x1090, 0x17E0, 0x1810, 0x1946, 0x19D0, 0x1A80, 0x1A90,
   0x1B50, 0x1BB0, 0x1C40, 0x1C50, 0xA620, 0xA8D0, 0xA900, 0xA9D0, 0xA9F0, 0xAA50, 0xABF0,
   0xFF10, 0x104A0, 0x10D30, 0x11066, 0x110F0, 0x11136, 0x111D0, 0x112F0, 0x11450, 0x114D0,
   0x11650, 0x116C0, 0x11730, 0x118E0, 0x11950, 0x11C50, 0x11D50, 0x11DA0, 0x16A60, 0x16AC0,
   0x16B50, 0x1D7CE, 0x1D7D8, 0x1D7E2, 0x1D7EC, 0x1D7F6, 0x1E140, 0x1E2F0, 0x1E950, 0x1FBF0]

/-- The value of a decimal digit of some script. -/
def decimalDigit? (c : Char) : Option Nat :=
  (digitZeros.find? fun z => z ≤ c.toNat && c.toNat < z + 10).map (c.toNat - ·)

theorem decimalDigit?_ascii (d : Fin 10) :
    decimalDigit? (Char.ofNat (0x30 + d)) = some d.val := by
  revert d; decide

/-- A digit of another script becomes the ASCII one, a wide space a plain one. -/
def plainChar (c : Char) : Char :=
  if c.toNat < 128 then c
  else if Text.isWhite c then ' '
  else match decimalDigit? c with
    | some d => Char.ofNat (0x30 + d)
    | none => c

/-- The text with ASCII digits and ASCII spaces. -/
def plainForm (cs : List Char) : List Char :=
  cs.map plainChar

/-! ### Digits in a base -/

/-- The value of an ASCII digit or letter in base `base`. -/
def digitIn? (base : Nat) (c : Char) : Option Nat :=
  let value? :=
    if '0' ≤ c ∧ c ≤ '9' then some (c.toNat - 0x30)
    else if 'a' ≤ c ∧ c ≤ 'z' then some (c.toNat - 0x61 + 10)
    else if 'A' ≤ c ∧ c ≤ 'Z' then some (c.toNat - 0x41 + 10)
    else none
  value?.filter (· < base)

/-- The number with the digits `ds` in base `base`, most significant first. -/
def ofDigits (base : Nat) (ds : List Nat) : Nat :=
  ds.foldl (fun n d => n * base + d) 0

/-- The decimal value of a run of ASCII digits. -/
def ofDecimal (cs : List Char) : Nat :=
  ofDigits 10 (cs.filterMap (digitIn? 10))

example : ofDecimal "0042".toList = 42 := by decide
example : plainForm "٣１".toList = "31".toList := by decide

end ElementLookup.Number
