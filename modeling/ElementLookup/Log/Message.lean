/-
**Messages with places for values.**

A message may hold places, each a percent sign and a letter, that are filled with values: `%s` by a
value's display, `%r` by its inspection, `%d` by a number.  Two percent signs stand for one.  A
message that is given no values is not read for places at all.

Main definitions:

* `Log.Misfit` — why places and values do not fit together;
* `Log.fill` — a message with its places filled.

Main results:

* `Log.fill_nil` — a message without values stays as it is.
-/

import ElementLookup.Value.Display

set_option autoImplicit false

namespace ElementLookup.Log

/-- Why places and values do not fit together: a value is missing, left over or not a number, a
place is malformed or wants a number that is none, or a number has too many digits to be written. -/
inductive Misfit where
  | mismatch
  | malformed
  | unbounded
  | overlong
  deriving DecidableEq, Repr

/-- The whole part of a number. -/
def wholePart : Value → Except Misfit Int
  | .bool b => .ok (if b then 1 else 0)
  | .int n => .ok n
  | .float .nan => .error .malformed
  | .float (.infinite _) => .error .unbounded
  | .float (.finite s m e) =>
    let (n, d) := Number.scaled m 1 e
    let q : Int := (n / d : Nat)
    .ok (if s then -q else q)
  | _ => .error .mismatch

/-- A value in the place with a letter. -/
def shown (place : Char) (v : Value) : Except Misfit String := do
  if place = 'd' then
    let n ← wholePart v
    if Number.isOverlong n then .error .overlong else return toString n
  else if v.isOverlong then .error .overlong
  else return if place = 's' then v.display else v.inspect

/-- Fills the places of a message in order and tells which values are left. -/
def fillChars : List Char → List Value → Except Misfit (List Char × List Value)
  | [], vs => .ok ([], vs)
  | '%' :: '%' :: r, vs => do
    let (out, rest) ← fillChars r vs
    return ('%' :: out, rest)
  | '%' :: c :: r, vs =>
    if c = 's' || c = 'r' || c = 'd' then
      match vs with
      | [] => .error .mismatch
      | v :: vs => do
        let filled ← shown c v
        let (out, rest) ← fillChars r vs
        return (filled.toList ++ out, rest)
    else .error .malformed
  | ['%'], _ => .error .malformed
  | c :: r, vs => do
    let (out, rest) ← fillChars r vs
    return (c :: out, rest)

/-- Whether values left over are tolerated: a single mapping need not be used. -/
def mayBeLeft : List Value → Bool
  | [.map (_ :: _)] => true
  | _ => false

/-- A message with its places filled. -/
def fill (message : String) (values : List Value) : Except Misfit String :=
  if values.isEmpty then .ok message
  else do
    let (out, rest) ← fillChars message.toList values
    if rest.isEmpty || mayBeLeft values then return String.ofList out
    else .error .mismatch

theorem fill_nil (message : String) : fill message [] = .ok message := rfl

example : fill "%s%% of %r" [.text "all", .text "x"] = .ok "all% of 'x'" := by rfl

end ElementLookup.Log
