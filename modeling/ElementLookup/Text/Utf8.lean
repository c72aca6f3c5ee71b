/-
**UTF-8.**

Texts are stored and exchanged as octets.  Encoding is that of the standard library; decoding is
spelled out here, because a message about undecodable input names the first octets that are at
fault: the one that cannot start a character, or the longest run that a character could start with
but that the following octet, or the end of the input, does not continue.

Main definitions:

* `Text.Opening` — a character of which some octets have been read;
* `Text.decode` — the characters of a sequence of octets, or the first fault;
* `Text.BadOctets.message` — the fault in words.

Main results:

* `Text.decode_ascii` — octets below 128 are characters of their own.
-/

import ElementLookup.Text.Quoted

set_option autoImplicit false

namespace ElementLookup.Text

/-! ### Faults -/

/-- Why a run of octets is no character. -/
inductive BadOctets.Cause where
  | start
  | continuation
  | ending
  deriving DecidableEq, Repr

/-- The first run of octets that cannot be decoded: its place, its first octet and its length. -/
structure BadOctets where
  position : Nat
  octet : UInt8
  length : Nat
  cause : BadOctets.Cause
  deriving DecidableEq, Repr

/-- The cause in words. -/
def BadOctets.Cause.text : BadOctets.Cause → String
  | .start => "invalid start byte"
  | .continuation => "invalid continuation byte"
  | .ending => "unexpected end of data"

/-- The fault in words: one octet is shown, of several the range is. -/
def BadOctets.message (b : BadOctets) : String :=
  let subject :=
    if b.length = 1 then
      "byte 0x" ++ String.ofList (hexPadded 2 b.octet.toNat) ++ " in position "
        ++ toString b.position
    else
      "bytes in position " ++ toString b.position ++ "-"
        ++ toString (b.position + b.length - 1)
  "'utf-8' codec can't decode " ++ subject ++ ": " ++ b.cause.text

/-! ### Decoding -/

/-- A character begun at `position` with `octet`: `length` octets are read, `owed` more are due,
the next of them must lie between `low` and `high`, and `code` holds the bits so far. -/
structure Opening where
  position : Nat
  octet : UInt8
  length : Nat
  owed : Nat
  low : Nat
  high : Nat
  code : Nat

/-- What the first octet of a character of several octets promises, if it is one. -/
def Opening.ofOctet? (position : Nat) (b : UInt8) : Option Opening :=
  let n := b.toNat
  -- the bounds on the second octet leave out overlong forms and surrogates
  if 0xC2 ≤ n ∧ n ≤ 0xDF then some ⟨position, b, 1, 1, 0x80, 0xBF, n - 0xC0⟩
  else if 0xE0 ≤ n ∧ n ≤ 0xEF then
    some ⟨position, b, 1, 2, if n = 0xE0 then 0xA0 else 0x80, if n = 0xED then 0x9F else 0xBF,
      n - 0xE0⟩
  else if 0xF0 ≤ n ∧ n ≤ 0xF4 then
    some ⟨position, b, 1, 3, if n = 0xF0 then 0x90 else 0x80, if n = 0xF4 then 0x8F else 0xBF,
      n - 0xF0⟩
  else none

/-- The opening after one more octet. -/
def Opening.push (o : Opening) (b : UInt8) : Opening :=
  { o with
    length := o.length + 1, owed := o.owed - 1, low := 0x80, high := 0xBF
    code := o.code * 64 + (b.toNat - 0x80) }

/-- The fault of an opening that is not continued. -/
def Opening.fault (o : Opening) (cause : BadOctets.Cause) : BadOctets :=
  ⟨o.position, o.octet, o.length, cause⟩

/-- Decodes the octets from `position` on, within the character `o` if one is open. -/
def decodeFrom (position : Nat) : Option Opening → List UInt8 → Except BadOctets (List Char)
  | none, [] => .ok []
  | some o, [] => .error (o.fault .ending)
  | none, b :: r =>
    if b.toNat < 0x80 then
      (Char.ofNat b.toNat :: ·) <$> decodeFrom (position + 1) none r
    else match Opening.ofOctet? position b with
      | some o => decodeFrom (position + 1) (some o) r
      | none => .error ⟨position, b, 1, .start⟩
  | some o, b :: r =>
    if o.low ≤ b.toNat ∧ b.toNat ≤ o.high then
      let o' := o.push b
      if o'.owed = 0 then (Char.ofNat o'.code :: ·) <$> decodeFrom (position + 1) none r
      else decodeFrom (position + 1) (some o') r
    else .error (o.fault .continuation)

/-- The characters of a sequence of octets, or its first fault. -/
def decode (bs : List UInt8) : Except BadOctets (List Char) :=
  decodeFrom 0 none bs

/-- Octets below 128 are characters of their own. -/
theorem decode_ascii (bs : List UInt8) (h : ∀ b ∈ bs, b.toNat < 0x80) :
    decode bs = .ok (bs.map fun b => Char.ofNat b.toNat) := by
  -- the position plays no part without a fault, so the induction keeps it general
  suffices ∀ n, decodeFrom n none bs = .ok (bs.map fun b => Char.ofNat b.toNat) from this 0
  induction bs with
  | nil => intro n; rfl
  | cons b r ih =>
    intro n
    have hb : b.toNat < 0x80 := h b (by simp)
    rw [decodeFrom, if_pos hb, ih (fun c hc => h c (by simp [hc])) (n + 1)]
    rfl

/-! ### Encoding -/

/-- The octets of a text. -/
def encode (s : String) : List UInt8 :=
  s.toList.flatMap String.utf8EncodeChar

example : decode [0xE2, 0x82, 0xAC] = .ok ['€'] := rfl
example : decode [0x61, 0xE2, 0x82, 0x61] = .error ⟨1, 0xE2, 2, .continuation⟩ := rfl

end ElementLookup.Text
