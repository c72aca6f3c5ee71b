/-
**Values taken for a field.**

A field of a document or a setting wants a text, a truth value or a whole number.  Values of other
kinds are taken where their meaning is beyond doubt: octets for the text that they encode, the
numbers zero and one and the usual words for truth values, a text or a floating-point number without
a fraction for a whole number.  Where a text is to be read, it must be one that can be written.

Main definitions:

* `Check.text`, `Check.bool`, `Check.whole`, `Check.level` — the kinds of field;
* `Check.optional` — a field that may be null;
* `Check.truthWord?` — the words for truth values.

Main results:

* `Check.text_text`, `Check.bool_bool`, `Check.whole_int` — a value of the wanted kind is taken as
  it is.
-/

import ElementLookup.Check.Problem
import ElementLookup.Text.Utf8
import ElementLookup.Value.Display

set_option autoImplicit false

namespace ElementLookup.Check

/-! ### Texts -/

/-- A text, or octets that encode one.  A text with halves of surrogate pairs is taken with the
replacement character for each half. -/
def text : Value → Checked String
  | .text s => .good s
  | .halved signs => .good (String.ofList (Text.shown signs))
  | .octets bs =>
    match Text.decode bs with
    | .ok cs => .good (String.ofList cs)
    | .error _ => .fail .textUndecodable
  | _ => .fail .notText

@[simp] theorem text_text (s : String) : text (.text s) = .good s := rfl

/-! ### Truth values -/

/-- The words for falsehood and for truth. -/
def falseWords : List String := ["0", "off", "f", "false", "n", "no"]
def trueWords : List String := ["1", "on", "t", "true", "y", "yes"]

/-- The truth value of a word, whatever its letter case. -/
def truthWord? (s : String) : Option Bool :=
  let w := String.ofList (s.toList.map Char.toLower)
  if w ∈ falseWords then some false
  else if w ∈ trueWords then some true
  else none

/-- A truth value given by a text. -/
def boolOfText (s : String) : Checked Bool :=
  match truthWord? s with
  | some b => .good b
  | none => .fail .boolUnclear

/-- The least magnitude that is beyond a word of 64 bits with a sign. -/
def wordLimit : Nat := Nat.pow 2 63

/-- Whether a whole number fits a word of 64 bits. -/
def fitsWord (n : Int) : Bool :=
  -(wordLimit : Int) ≤ n && n < wordLimit

/-- Whether a whole floating-point number lies strictly within a word of 64 bits. -/
def withinWord (n : Int) : Bool :=
  n.natAbs < wordLimit

/-- A truth value given by a whole number. -/
def boolOfWhole (n : Int) : Checked Bool :=
  if n = 0 then .good false
  else if n = 1 then .good true
  else .fail .boolUnclear

/-- A truth value. -/
def bool : Value → Checked Bool
  | .bool b => .good b
  | .text s => boolOfText s
  | .halved _ => .fail .textUndecodable
  | .octets bs =>
    match Text.decode bs with
    | .ok cs => boolOfText (String.ofList cs)
    | .error _ => .fail .boolUnclear
  | .int n => if fitsWord n then boolOfWhole n else .fail .notBool
  | .float x =>
    match x.whole? with
    | some n => if withinWord n then boolOfWhole n else .fail .notBool
    | none => .fail .notBool
  | _ => .fail .notBool

@[simp] theorem bool_bool (b : Bool) : bool (.bool b) = .good b := rfl

/-! ### Whole numbers -/

/-- A whole number given by a text. -/
def wholeOfText (cs : List Char) : Checked Int :=
  match Number.readOffered cs with
  | .ok n => .good n
  | .error .malformed => .fail .wholeUnclear
  | .error .tooLong => .fail .wholeTooLong

/-- A whole number. -/
def whole : Value → Checked Int
  | .bool b => .good (if b then 1 else 0)
  | .int n => .good n
  | .float x =>
    match x with
    | .finite .. =>
      match x.whole? with
      | some n => if withinWord n then .good n else .fail .wholeTooLong
      | none => .fail .wholeFraction
    | _ => .fail .notFinite
  | .text s => wholeOfText s.toList
  | .halved _ => .fail .textUndecodable
  | .octets bs =>
    match Text.decode bs with
    | .ok cs => wholeOfText cs
    | .error _ => .fail .wholeUnclear
  | _ => .fail .notWhole

@[simp] theorem whole_int (n : Int) : whole (.int n) = .good n := rfl

/-- A whole number from one on. -/
def level (v : Value) : Checked Int :=
  (whole v).andThen fun n => if 1 ≤ n then .good n else .fail .belowOne

/-! ### Fields -/

/-- A field that may be null. -/
def optional {α : Type} (check : Value → Checked α) : Value → Checked (Option α)
  | .null => .good none
  | v => some <$> check v

/-- A text that must not be blank, without the blanks around it. -/
def nonBlank (problem : String) (s : String) : Checked String :=
  let stripped := Text.strip s
  if stripped = "" then .fail (.rule problem) else .good stripped

/-- A field that must be there. -/
def required {α : Type} (entries : List (Value × Value)) (key : String)
    (check : Value → Checked α) : Checked α :=
  Checked.within key <| match Value.entry? entries key with
    | some v => check v
    | none => .fail .missing

/-- A field with a value for its absence. -/
def withDefault {α : Type} (entries : List (Value × Value)) (key : String) (default : α)
    (check : Value → Checked α) : Checked α :=
  match Value.entry? entries key with
  | some v => Checked.within key (check v)
  | none => .good default

end ElementLookup.Check
