/-
**Texts with halves of surrogate pairs.**

Code points between `D800` and `DFFF` stand for no character; they are halves of the pairs by which
a 16-bit encoding writes other code points.  A document may nevertheless write such a half by its
code point, and two of them beside each other remain two halves.  A text with a half in it can be
compared and shown with escapes, but no encoding can write it.

Main definitions:

* `Text.Half`, `Text.Sign` — a half, and a character or a half;
* `Text.Sign.ofCode?` — the sign with a code point;
* `Text.chars?` — the characters of signs, if none of them is a half;
* `Text.runs` — the runs of characters between halves;
* `Text.shown`, `Text.lossy` — signs with something in place of each half;
* `Text.quotedSigns` — the quoted form of signs.

Main results:

* `Text.chars?_eq_some_iff` — signs have characters exactly if they were made of them;
* `Text.quotedSigns_char` — characters are quoted as before.
-/

import ElementLookup.Text.Quoted

set_option autoImplicit false

namespace ElementLookup.Text

/-! ### Signs -/

/-- Half of a surrogate pair, by its place among all halves. -/
abbrev Half := Fin 0x800

/-- A character, or half of a surrogate pair. -/
inductive Sign where
  | char (c : Char)
  | half (h : Half)
  deriving DecidableEq, Repr

/-- The code point of a half. -/
def Half.code (h : Half) : Nat := 0xD800 + h.val

/-- The sign with a code point, if there is one. -/
def Sign.ofCode? (code : Nat) : Option Sign :=
  if h : code - 0xD800 < 0x800 ∧ 0xD800 ≤ code then some (.half ⟨code - 0xD800, h.1⟩)
  else if code < 0x110000 then some (.char (Char.ofNat code))
  else none

/-- The character of a sign that is one. -/
def Sign.char? : Sign → Option Char
  | .char c => some c
  | .half _ => none

/-- The characters of signs, if none of them is a half. -/
def chars? (ss : List Sign) : Option (List Char) :=
  ss.mapM Sign.char?

theorem chars?_map_char (cs : List Char) : chars? (cs.map .char) = some cs := by
  induction cs with
  | nil => rfl
  | cons c r ih => simp_all [chars?, Sign.char?]

/-- Signs have characters exactly if they were made of them. -/
theorem chars?_eq_some_iff {ss : List Sign} {cs : List Char} :
    chars? ss = some cs ↔ ss = cs.map .char := by
  refine ⟨fun h => ?_, fun h => h ▸ chars?_map_char cs⟩
  induction ss generalizing cs with
  | nil => cases h; rfl
  | cons s r ih =>
    cases s with
    | half => simp [chars?, Sign.char?] at h
    | char c =>
      obtain ⟨t, ht, rfl⟩ : ∃ t, chars? r = some t ∧ c :: t = cs := by
        simpa [chars?, Sign.char?, Option.bind_eq_some_iff] using h
      rw [ih ht, List.map_cons]

/-- The characters before the first half, and each half with the characters after it. -/
def runs : List Sign → List Char × List (Half × List Char)
  | [] => ([], [])
  | .char c :: r =>
    let (first, more) := runs r
    (c :: first, more)
  | .half h :: r =>
    let (first, more) := runs r
    ([], (h, first) :: more)

theorem runs_map_char (cs : List Char) : runs (cs.map .char) = (cs, []) := by
  induction cs with
  | nil => rfl
  | cons c r ih => simp [runs, ih]

/-! ### Something in place of a half -/

/-- Signs with the replacement character for each half. -/
def shown (ss : List Sign) : List Char :=
  ss.map fun s => s.char?.getD '\ufffd'

/-- Signs as a reader of their octets sees them: none of the three octets of a half is readable. -/
def lossy (ss : List Sign) : List Char :=
  ss.flatMap fun s =>
    match s with
    | .char c => [c]
    | .half _ => List.replicate 3 '\ufffd'

theorem shown_map_char (cs : List Char) : shown (cs.map .char) = cs := by
  simp [shown, Function.comp_def, Sign.char?]

/-! ### Quoting -/

/-- One sign between quotes `q`; a half is written by its code point. -/
def quotedSign (q : Char) : Sign → List Char
  | .char c => quotedChar q c
  | .half h => codePoint h.code

/-- The quoted form of signs. -/
def quotedSigns (ss : List Sign) : List Char :=
  let q := quoteMark (shown ss)
  q :: (ss.flatMap (quotedSign q) ++ [q])

/-- Characters are quoted as before. -/
theorem quotedSigns_char (cs : List Char) : quotedSigns (cs.map .char) = quotedChars cs := by
  simp [quotedSigns, quotedChars, shown_map_char, List.flatMap_map, quotedSign]

example : quotedSigns [.char 'i', .half 0x3D] = "'i\\ud83d'".toList := by decide

end ElementLookup.Text
