/-
**Binary floating-point numbers of 64 bits.**

A finite number is a sign, a significand below `2 ^ 53` and a power of two.  Every operation is
done exactly on fractions and rounded once, to the nearest number and on a tie to the even
significand, so nothing here depends on the machine's own arithmetic.

Main definitions:

* `Binary64` — a number, an infinity or no number;
* `Number.roundedQuotient` — division rounded to nearest, ties to even;
* `Binary64.ofFraction`, `Binary64.ofInt`, `Binary64.ofDecimal` — the nearest number;
* `Binary64.add`, `Binary64.mul`, `Binary64.neg` — arithmetic;
* `Binary64.whole?` — the value of a number without a fraction;
* `Binary64.read` — a number in writing.

Main results:

* `Number.roundedQuotient_near` — the rounded quotient is within half a unit of the exact one.
-/

import ElementLookup.Number.Whole

set_option autoImplicit false

namespace ElementLookup

/-- A binary floating-point number: `significand * 2 ^ exponent` with a sign, or a special value.
Zero is `finite _ 0 (-1074)`. -/
inductive Binary64 where
  | nan
  | infinite (negative : Bool)
  | finite (negative : Bool) (significand : Nat) (exponent : Int)
  deriving DecidableEq, Repr

namespace Number

/-! ### Rounding -/

/-- `num / den` rounded to the nearest natural number, a tie to the even one. -/
def roundedQuotient (num den : Nat) : Nat :=
  let q := num / den
  let r := num % den
  if 2 * r < den then q
  else if den < 2 * r then q + 1
  else if q % 2 = 0 then q else q + 1

theorem roundedQuotient_near (num den : Nat) (h : 0 < den) :
    2 * (den * roundedQuotient num den) ≤ 2 * num + den ∧
      2 * num ≤ 2 * (den * roundedQuotient num den) + den := by
  have e : den * (num / den) + num % den = num := Nat.div_add_mod num den
  have l : num % den < den := Nat.mod_lt _ h
  simp only [roundedQuotient]
  -- from here on only the sizes of the quotient and the remainder matter
  generalize num / den = q at *
  generalize num % den = r at *
  have hq : den * (q + 1) = den * q + den := Nat.mul_succ den q
  split
  · omega
  · split
    · omega
    · split <;> omega

/-- A fraction times a power of two, as a fraction. -/
def scaled (num den : Nat) (e : Int) : Nat × Nat :=
  if 0 ≤ e then (num * Nat.pow 2 e.toNat, den) else (num, den * Nat.pow 2 (-e).toNat)

end Number

namespace Binary64

open Number

/-! ### The nearest number -/

/-- The least exponent, that of the subnormal numbers. -/
def minExponent : Int := -1074

/-- The greatest exponent. -/
def maxExponent : Int := 971

/-- Zero with a sign. -/
def zero (negative : Bool) : Binary64 := .finite negative 0 minExponent

/-- The exponent at which `num / den` has a significand of 53 bits, or the least one. -/
def exponentOf (num den : Nat) : Int :=
  let guess : Int := (num.log2 : Int) - (den.log2 : Int) - 53
  let (n, d) := scaled num den (-guess)
  -- the guess from the lengths in bits is right or one too small
  let e := if n / d < Nat.pow 2 53 then guess else guess + 1
  max e minExponent

/-- The number nearest to `num / den`. -/
def ofFraction (negative : Bool) (num den : Nat) : Binary64 :=
  if num = 0 then zero negative
  else
    let e := exponentOf num den
    let (n, d) := scaled num den (-e)
    let m := roundedQuotient n d
    -- rounding up may carry into one more bit; what is left is a power of two
    let (m, e) := if m = Nat.pow 2 53 then (Nat.pow 2 52, e + 1) else (m, e)
    if maxExponent < e then .infinite negative else .finite negative m e

/-- The number nearest to an integer. -/
def ofInt (n : Int) : Binary64 :=
  ofFraction (n < 0) n.natAbs 1

/-- The number nearest to `digits * 10 ^ scale`, where `digits` has `count` decimal digits.
Beyond the range of magnitudes the answer is known without computing the power. -/
def ofDecimal (negative : Bool) (digits count : Nat) (scale : Int) : Binary64 :=
  if digits = 0 then zero negative
  else if 310 < scale + count then .infinite negative
  else if scale + count < -325 then zero negative
  else if 0 ≤ scale then ofFraction negative (digits * Nat.pow 10 scale.toNat) 1
  else ofFraction negative digits (Nat.pow 10 (-scale).toNat)

/-! ### Arithmetic -/

/-- The number with the other sign. -/
def neg : Binary64 → Binary64
  | .nan => .nan
  | .infinite s => .infinite (!s)
  | .finite s m e => .finite (!s) m e

/-- The exact value `significand * 2 ^ exponent` rounded. -/
def ofDyadic (negative : Bool) (m : Nat) (e : Int) : Binary64 :=
  let (n, d) := scaled m 1 e
  ofFraction negative n d

/-- The product. -/
def mul : Binary64 → Binary64 → Binary64
  | .nan, _ => .nan
  | _, .nan => .nan
  | .infinite s, .infinite t => .infinite (s != t)
  | .infinite s, .finite t m _ => if m = 0 then .nan else .infinite (s != t)
  | .finite s m _, .infinite t => if m = 0 then .nan else .infinite (s != t)
  | .finite s m e, .finite t n f => ofDyadic (s != t) (m * n) (e + f)

/-- The sum; a sum of zero is positive unless both terms are negative zeros. -/
def add : Binary64 → Binary64 → Binary64
  | .nan, _ => .nan
  | _, .nan => .nan
  | .infinite s, .infinite t => if s = t then .infinite s else .nan
  | .infinite s, _ => .infinite s
  | _, .infinite t => .infinite t
  | .finite s m e, .finite t n f =>
    -- both terms at the lesser exponent, so that the sum is exact before it is rounded
    let low := min e f
    let a : Int := (m * Nat.pow 2 (e - low).toNat : Nat)
    let b : Int := (n * Nat.pow 2 (f - low).toNat : Nat)
    let sum := (if s then -a else a) + (if t then -b else b)
    if sum = 0 then zero (s && t) else ofDyadic (sum < 0) sum.natAbs low

/-! ### Comparison -/

/-- The value of a finite number without a fraction. -/
def whole? : Binary64 → Option Int
  | .finite s m e =>
    let (n, d) := scaled m 1 e
    if n % d = 0 then
      let v : Int := (n / d : Nat)
      some (if s then -v else v)
    else none
  | _ => none

/-- Numerical equality: the two zeros are equal, and what is no number equals nothing. -/
def same : Binary64 → Binary64 → Bool
  | .nan, _ => false
  | .finite _ 0 _, .finite _ 0 _ => true
  | x, y => x = y

/-! ### Reading -/

/-- A run of digits that single underscores may separate, with what follows it. -/
def digitRun : List Char → List Char × List Char
  | c :: '_' :: d :: r =>
    if c.isDigit then
      if d.isDigit then
        let (ds, rest) := digitRun (d :: r)
        (c :: ds, rest)
      else ([c], '_' :: d :: r)
    else ([], c :: '_' :: d :: r)
  | c :: r =>
    if c.isDigit then
      let (ds, rest) := digitRun r
      (c :: ds, rest)
    else ([], c :: r)
  | [] => ([], [])

/-- The exponent after an `e`, and nothing more. -/
def readExponent : List Char → Option Int
  | [] => some 0
  | c :: r =>
    if c = 'e' || c = 'E' then
      let (negative, body) := match r with
        | '-' :: r' => (true, r')
        | '+' :: r' => (false, r')
        | r' => (false, r')
      match digitRun body with
      | ([], _) => none
      | (ds, []) =>
        let n : Int := Number.ofDecimal ds
        some (if negative then -n else n)
      | _ => none
    else none

/-- A decimal without a sign: digits with a point somewhere, and an exponent. -/
def readDecimal (negative : Bool) (cs : List Char) : Option Binary64 := do
  let (whole, rest) := digitRun cs
  let (part, rest) := match rest with
    | '.' :: r => digitRun r
    | r => ([], r)
  let digits := whole ++ part
  if digits.isEmpty then none
  else
    let e ← readExponent rest
    let significant := digits.dropWhile (· = '0')
    some (ofDecimal negative (Number.ofDecimal significant) significant.length (e - part.length))

/-- A number without a sign: a decimal, an infinity or no number. -/
def readMagnitude (negative : Bool) (cs : List Char) : Option Binary64 :=
  let word := String.ofList (cs.map Char.toLower)
  if word = "inf" || word = "infinity" then some (.infinite negative)
  else if word = "nan" then some .nan
  else readDecimal negative cs

/-- A number in writing, with blanks around and a sign allowed. -/
def read (cs : List Char) : Option Binary64 :=
  match Text.trim Text.isSpace (plainForm cs) with
  | '-' :: r => readMagnitude true r
  | '+' :: r => readMagnitude false r
  | r => readMagnitude false r

example : ofFraction false 1 10 = .finite false 0x1999999999999A (-56) := by decide +kernel
example : read "-0.0".toList = some (zero true) := by decide +kernel

end Binary64

end ElementLookup
