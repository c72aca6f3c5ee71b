/-
**Shortest decimals.**

A binary number is written with as few decimal digits as identify it.  For one digit, then two, and
so on, the number's two neighbours with that many digits are read back; the first that gives the
number again is taken, of two the nearer one, and on a tie the even one.

Main definitions:

* `Binary64.shortest` — the digits of a positive number and the place of its point;
* `Binary64.text` — the number in writing.

Main results:

* `Binary64.readsBack_of_pick` — what is taken reads back as the number.
-/

import ElementLookup.Number.Binary64

set_option autoImplicit false

namespace ElementLookup.Binary64

/-! ### Candidates -/

/-- A decimal: the natural number `digits` times ten to the power `scale`. -/
structure Decimal where
  digits : Nat
  scale : Int
  deriving DecidableEq, Repr

/-- A fraction times a power of ten, as a fraction. -/
def tenfold (num den : Nat) (k : Int) : Nat × Nat :=
  if 0 ≤ k then (num * Nat.pow 10 k.toNat, den) else (num, den * Nat.pow 10 (-k).toNat)

/-- The number of digits before the point of `num / den`; zero or less if it is below one. -/
def magnitude (num den : Nat) : Int :=
  if den ≤ num then (Nat.toDigits 10 (num / den)).length
  else 1 - ((Nat.toDigits 10 ((den - 1) / num)).length : Int)

/-- The decimal read as a positive number. -/
def Decimal.value (d : Decimal) : Binary64 :=
  let (n, m) := tenfold d.digits 1 d.scale
  ofFraction false n m

/-- The better of a value's two neighbours on one grid, if one of them reads back as `x`. -/
def pick (x : Binary64) (num den : Nat) (scale : Int) : Option Decimal :=
  let (n, d) := tenfold num den (-scale)
  let below : Decimal := ⟨n / d, scale⟩
  let above : Decimal := ⟨n / d + 1, scale⟩
  let nearest : Decimal := ⟨Number.roundedQuotient n d, scale⟩
  -- at a power of two the gap below is half the gap above, so that the neighbour which reads back
  -- need not be the nearest one
  if nearest.value = x then some nearest
  else if below.value = x then some below
  else if above.value = x then some above
  else none

theorem readsBack_of_pick {x : Binary64} {num den : Nat} {scale : Int} {d : Decimal}
    (h : pick x num den scale = some d) : d.value = x := by
  simp only [pick] at h
  split at h
  · cases h; assumption
  · split at h
    · cases h; assumption
    · split at h
      · cases h; assumption
      · cases h

/-- The shortest decimal of the positive number `m * 2 ^ e`; seventeen digits always suffice. -/
def shortest (m : Nat) (e : Int) : Decimal :=
  let (num, den) := Number.scaled m 1 e
  let places := magnitude num den
  let found := (List.range 17).findSome? fun n =>
    pick (.finite false m e) num den (places - (n + 1 : Nat))
  found.getD ⟨m, e⟩

/-! ### Layout -/

/-- Digits with a point after the first `point` of them, padded with zeros. -/
def positional (digits : List Char) (point : Int) : List Char :=
  if point ≤ 0 then "0.".toList ++ List.replicate (-point).toNat '0' ++ digits
  else
    let n := point.toNat
    let whole := digits.take n ++ List.replicate (n - digits.length) '0'
    let part := digits.drop n
    whole ++ '.' :: (if part.isEmpty then ['0'] else part)

/-- Digits with a point after the first one and a power of ten. -/
def exponential (digits : List Char) (power : Int) : List Char :=
  let mantissa := match digits with
    | [] => []
    | [d] => [d]
    | d :: r => d :: '.' :: r
  let width := Nat.toDigits 10 power.natAbs
  mantissa ++ 'e' :: (if power < 0 then '-' else '+')
    :: (List.replicate (2 - width.length) '0' ++ width)

/-- The layout of a decimal: positional from `0.0001` up to sixteen digits before the point. -/
def Decimal.layout (d : Decimal) : List Char :=
  let all := Nat.toDigits 10 d.digits
  let point := all.length + d.scale
  let digits := Text.trimEnd (· = '0') all
  if -4 < point ∧ point ≤ 16 then positional digits point
  else exponential digits (point - 1)

/-- The number in writing. -/
def text : Binary64 → String
  | .nan => "nan"
  | .infinite s => if s then "-inf" else "inf"
  | .finite s m e =>
    let body := if m = 0 then "0.0".toList else (shortest m e).layout
    String.ofList (if s then '-' :: body else body)

example : (ofFraction false 1 10).text = "0.1" := by decide +kernel
example : (ofFraction false (10 ^ 16) 1).text = "1e+16" := by decide +kernel
example : (ofFraction true 15 (10 ^ 6)).text = "-1.5e-05" := by decide +kernel
example : (ofInt 100).text = "100.0" := by decide +kernel

end ElementLookup.Binary64
