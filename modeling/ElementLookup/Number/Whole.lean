/-
**Whole numbers in writing.**

Two readers of whole numbers are in use.  *Spoken for* numbers, where a command line or a document
says that a text is a number, are read in a stated base: blanks around, a sign, a base mark,
digits that single underscores may group.  *Offered* numbers, where a text stands in a place that
wants a number, are decimal and read as a form field would be: leading zeros, a plus sign and a
fraction of zeros are forgiven.  Both refuse decimals of more than 4300 digits, and a number with
more digits than that cannot be written either.

Main definitions:

* `Number.readWhole` — the reader in a stated base;
* `Number.Refusal`, `Number.readOffered` — the forgiving reader and why it refuses;
* `Number.isOverlong` — whether a number has too many digits to be written.

Main results:

* `Number.digitGroups_eq_some` — the digits are the characters apart from underscores, in order;
* `Number.readOffered_of_readCanonical` — what needs no forgiveness is read as it stands.
-/

import ElementLookup.Number.Digit

set_option autoImplicit false

namespace ElementLookup.Number

/-- The most digits that a decimal may have. -/
def digitLimit : Nat := 4300

/-- Whether a number has more digits than may be written. -/
def isOverlong (n : Int) : Bool := Nat.pow 10 digitLimit ≤ n.natAbs

/-! ### Numbers in a stated base -/

/-- The values of digits that single underscores may separate. -/
def digitGroups (base : Nat) : List Char → Option (List Nat)
  | [] => none
  | c :: r =>
    match digitIn? base c, r with
    | none, _ => none
    | some d, [] => some [d]
    | some d, '_' :: r' => (d :: ·) <$> digitGroups base r'
    | some d, r => (d :: ·) <$> digitGroups base r

theorem digitIn?_underscore (base : Nat) : digitIn? base '_' = none := by
  simp [digitIn?]

/-- The digits are the characters apart from underscores, in order. -/
theorem digitGroups_eq_some {base : Nat} {cs : List Char} {ds : List Nat}
    (h : digitGroups base cs = some ds) :
    (cs.filter (· ≠ '_')).map (digitIn? base) = ds.map some := by
  have ne_underscore : ∀ {c : Char} {d : Nat}, digitIn? base c = some d → c ≠ '_' := by
    rintro c d hd rfl
    simp [digitIn?_underscore] at hd
  fun_induction digitGroups base cs generalizing ds with
  | case1 => cases h
  | case2 => cases h
  | case3 c d hd =>
    cases h
    simp [ne_underscore hd, hd]
  | case4 c d r' hd ih =>
    obtain ⟨es, he, rfl⟩ := Option.map_eq_some_iff.1 h
    simpa [ne_underscore hd, hd] using ih he
  | case5 c r d _ _ hd ih =>
    obtain ⟨es, he, rfl⟩ := Option.map_eq_some_iff.1 h
    simpa [ne_underscore hd, hd] using ih he

/-- The letter that marks a base after a zero. -/
def baseMark? (base : Nat) : Option Char :=
  match base with
  | 2 => some 'b'
  | 8 => some 'o'
  | 16 => some 'x'
  | _ => none

/-- Removes the mark of the base, and one underscore after it. -/
def dropBaseMark (base : Nat) : List Char → List Char
  | '0' :: m :: r =>
    if baseMark? base = some m.toLower then
      match r with
      | '_' :: r' => r'
      | _ => r
    else '0' :: m :: r
  | cs => cs

/-- Whether the base divides no power of ten's digits away, so that the limit applies. -/
def isLimited (base : Nat) : Bool :=
  base ≠ 2 && base ≠ 8 && base ≠ 16

/-- A number without a sign. -/
def readNatural (base : Nat) (cs : List Char) : Option Nat := do
  let ds ← digitGroups base (dropBaseMark base cs)
  if isLimited base && digitLimit < ds.length then none
  else some (ofDigits base ds)

/-- A whole number in base `base`, with blanks around, a sign and a base mark allowed. -/
def readWhole (base : Nat) (cs : List Char) : Option Int :=
  match Text.trim Text.isSpace (plainForm cs) with
  | '-' :: r => (fun n : Nat => -(n : Int)) <$> readNatural base r
  | '+' :: r => (fun n : Nat => (n : Int)) <$> readNatural base r
  | r => (fun n : Nat => (n : Int)) <$> readNatural base r

example : readWhole 10 " -1_0 ".toList = some (-10) := by decide
example : readWhole 16 "0xfF".toList = some 255 ∧ readWhole 8 "09".toList = none := by decide

/-! ### Numbers offered for a field -/

/-- Why an offered text is not taken for a number. -/
inductive Refusal where
  | malformed
  | tooLong
  deriving DecidableEq, Repr

/-- A decimal in its shortest writing: a minus sign or none, no idle zero in front. -/
def readCanonical (cs : List Char) : Except Refusal Int :=
  let (negative, body) := match cs with
    | '-' :: r => (true, r)
    | r => (false, r)
  let run := body.takeWhile Char.isDigit
  let rest := body.dropWhile Char.isDigit
  let signed (n : Nat) : Int := if negative then -(n : Int) else n
  match run, rest with
  | [], _ => .error .malformed
  | '0' :: _ :: _, _ => .error .malformed
  | _, _ =>
    -- too many digits show before what follows them is looked at
    if digitLimit < run.length then .error .tooLong
    else if rest.isEmpty then .ok (signed (ofDecimal run))
    else .error .malformed

/-- After a first zero, drops zeros and underscores up to the first significant character; a point
keeps the character before it. -/
def dropZeros (previous : Char) : List Char → Option (List Char)
  | [] => some [previous]
  | c :: r =>
    if c = '0' || c = '_' then dropZeros c r
    else if c.isDigit || c = '-' then some (c :: r)
    else if c = '.' then some (previous :: c :: r)
    else none

/-- Drops leading zeros; the text must start like a number. -/
def dropLeadingZeros : List Char → Option (List Char)
  | '0' :: r => dropZeros '0' r
  | c :: r => if c.isDigit || c = '-' then some (c :: r) else none
  | [] => none

/-- Drops a fraction that consists of zeros. -/
def dropZeroFraction (cs : List Char) : List Char :=
  match cs.dropWhile (· ≠ '.') with
  | '.' :: '0' :: r => if r.all (· = '0') then cs.takeWhile (· ≠ '.') else cs
  | _ => cs

/-- Whether two underscores are neighbours. -/
def hasDoubleUnderscore : List Char → Bool
  | '_' :: '_' :: _ => true
  | _ :: r => hasDoubleUnderscore r
  | [] => false

/-- Drops underscores if each stands between two other characters. -/
def dropUnderscores (cs : List Char) : List Char :=
  if cs.head? = some '_' || cs.getLast? = some '_' || hasDoubleUnderscore cs then cs
  else cs.filter (· ≠ '_')

/-- The text of a magnitude without what is forgiven. -/
def forgiveMagnitude (cs : List Char) : Option (List Char) :=
  (dropLeadingZeros cs).map fun r => dropUnderscores (dropZeroFraction r)

/-- The offered text without what is forgiven: blanks around, a plus sign, and what a magnitude is
forgiven; a minus sign stays. -/
def forgive (cs : List Char) : Option (List Char) :=
  match Text.trim Text.isWhite cs with
  | '+' :: '-' :: _ => none
  | '+' :: r => forgiveMagnitude r
  | '-' :: r => ('-' :: ·) <$> forgiveMagnitude r
  | r => forgiveMagnitude r

/-- A whole number offered as text. -/
def readOffered (cs : List Char) : Except Refusal Int :=
  match readCanonical cs with
  | .error .malformed =>
    -- what is forgiven is dropped once; the rest must then be canonical
    match (forgive cs).map readCanonical with
    | some (.ok n) => .ok n
    | _ => .error .malformed
  | r => r

/-- Digits alone, no more than the limit and without an idle zero, are read as they stand. -/
theorem readOffered_of_readCanonical {cs : List Char} {n : Int} (h : readCanonical cs = .ok n) :
    readOffered cs = .ok n := by
  simp [readOffered, h]

example : readOffered "\t+0_07.00 ".toList = .ok 7 := rfl
example : readOffered "-0_0.0".toList = .ok 0 ∧ readOffered "-_7".toList = .error .malformed :=
  ⟨rfl, rfl⟩
example : readOffered "1__0".toList = .error .malformed := rfl
example : readOffered "5.".toList = .error .malformed := rfl

end ElementLookup.Number
