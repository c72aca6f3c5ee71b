/-
**Quoted form of a text, as messages show it.**

A text stands between single quotes, or between double quotes when it holds a single quote and no
double one.  Inside, a backslash and the surrounding quote are preceded by a backslash, the three
common control characters have letters, and every other hidden character is written by its code
point: two hexadecimal digits after `\x`, four after `\u`, eight after `\U`, the shortest that
holds it.  Raw bytes are quoted likewise, each byte outside printable ASCII by two digits.

Main definitions:

* `Text.hexPadded` — a number in hexadecimal, padded with zeros;
* `Text.quoteMark` — the quote that surrounds a text;
* `Text.quotedChars`, `Text.quoted` — the quoted form of a text;
* `Text.quotedBytes` — the quoted form of raw bytes.

Main results:

* `Text.quoteMark_eq_or` — the surrounding quote is one of the two.
-/

import ElementLookup.Text.Printable

set_option autoImplicit false

namespace ElementLookup.Text

/-! ### Code points in hexadecimal -/

/-- `n` in lower-case hexadecimal, padded with zeros to at least `width` digits. -/
def hexPadded (width n : Nat) : List Char :=
  let digits := Nat.toDigits 16 n
  List.replicate (width - digits.length) '0' ++ digits

/-- A hidden character by its code point, in the shortest of the three forms that holds it. -/
def codePoint (n : Nat) : List Char :=
  if n < 0x100 then '\\' :: 'x' :: hexPadded 2 n
  else if n < 0x10000 then '\\' :: 'u' :: hexPadded 4 n
  else '\\' :: 'U' :: hexPadded 8 n

example : codePoint 7 = "\\x07".toList ∧ codePoint 0x200B = "\\u200b".toList := by decide

/-! ### Quoting -/

/-- The quote around a text: single, unless only a double one spares every escape. -/
def quoteMark (cs : List Char) : Char :=
  if cs.contains '\'' && !cs.contains '"' then '"' else '\''

theorem quoteMark_eq_or (cs : List Char) : quoteMark cs = '\'' ∨ quoteMark cs = '"' := by
  unfold quoteMark; split <;> simp

/-- One character between quotes `q`. -/
def quotedChar (q c : Char) : List Char :=
  if c = '\\' || c = q then ['\\', c]
  else if c = '\n' then ['\\', 'n']
  else if c = '\r' then ['\\', 'r']
  else if c = '\t' then ['\\', 't']
  else if isPrintable c then [c]
  else codePoint c.toNat

/-- The quoted form of a text, by characters. -/
def quotedChars (cs : List Char) : List Char :=
  let q := quoteMark cs
  q :: (cs.flatMap (quotedChar q) ++ [q])

/-- The quoted form of a text. -/
def quoted (s : String) : String :=
  String.ofList (quotedChars s.toList)

/-- One byte between quotes `q`. -/
def quotedByte (q : Char) (b : UInt8) : List Char :=
  let c := Char.ofNat b.toNat
  if c = '\\' || c = q then ['\\', c]
  else if c = '\n' then ['\\', 'n']
  else if c = '\r' then ['\\', 'r']
  else if c = '\t' then ['\\', 't']
  else if 32 ≤ b.toNat && b.toNat < 127 then [c]
  else codePoint b.toNat

/-- The quoted form of raw bytes, marked by a `b` in front. -/
def quotedBytes (bs : List UInt8) : String :=
  let q := quoteMark (bs.map fun b => Char.ofNat b.toNat)
  String.ofList ('b' :: q :: (bs.flatMap (quotedByte q) ++ [q]))

example : quotedChars "it's".toList = "\"it's\"".toList := by decide
example : quotedChars "'\"".toList = "'\\'\"'".toList := by decide

end ElementLookup.Text
