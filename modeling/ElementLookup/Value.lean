/-
**Values.**

Lookups, query documents and log records are given values whose shape is not known beforehand: a
role option may be any value, and a document holds whatever its text says.  Containers keep the
order in which their members were given.  A text with halves of surrogate pairs is a text too, but
is kept apart from those that can be written.

Main definitions:

* `Value` — the values;
* `Value.ofSigns` — a text of signs;
* `Value.same` — equality of the values that can be keys; a whole number equals the truth value or
  the floating-point number of the same size;
* `Value.entry?` — the value of a text key;
* `Value.isTrue` — whether a value counts as given.

Main results:

* `Value.ofSigns_char` — signs that are characters make up a text that can be written.
-/

import ElementLookup.Calendar
import ElementLookup.Number.Binary64
import ElementLookup.Pattern
import ElementLookup.Text.Halved

set_option autoImplicit false

namespace ElementLookup

/-- The shape of a container that may contain itself. -/
inductive Value.Shape where
  | list
  | tuple
  | map
  deriving DecidableEq, Repr

/-- A value.  A `halved` text holds half a surrogate pair at least; `enclosing` stands where a
container contains itself, and tells its shape. -/
inductive Value where
  | null
  | bool (b : Bool)
  | int (n : Int)
  | float (x : Binary64)
  | text (s : String)
  | halved (signs : List Text.Sign)
  | octets (bs : List UInt8)
  | date (d : Date)
  | dateTime (t : DateTime)
  | list (items : List Value)
  | tuple (items : List Value)
  | set (items : List Value)
  | map (entries : List (Value × Value))
  | textValue (t : TextValue)
  | compiled (c : CompiledPattern)
  | enclosing (shape : Value.Shape)

namespace Value

instance : Inhabited Value := ⟨.null⟩

/-! ### Texts -/

/-- The text of signs. -/
def ofSigns (signs : List Text.Sign) : Value :=
  match Text.chars? signs with
  | some cs => .text (String.ofList cs)
  | none => .halved signs

/-- Signs that are characters make up a text that can be written. -/
theorem ofSigns_char (cs : List Char) : ofSigns (cs.map .char) = .text (String.ofList cs) := by
  simp [ofSigns, Text.chars?_map_char]

/-- Whether a value is a text that cannot be written. -/
def isHalved : Value → Bool
  | .halved _ => true
  | _ => false

/-! ### Keys -/

/-- The number that a truth value or a number stands for, if it is whole. -/
def whole? : Value → Option Int
  | .bool b => some (if b then 1 else 0)
  | .int n => some n
  | .float x => x.whole?
  | _ => none

/-- Equality of keys. -/
def same (v w : Value) : Bool :=
  match v, w with
  | .null, .null => true
  | .text s, .text t => s = t
  | .halved a, .halved b => a = b
  | .octets a, .octets b => a = b
  | .date d, .date e => d = e
  | .dateTime t, .dateTime u => t.same u
  | .float x, .float y => x.same y
  | v, w =>
    match v.whole?, w.whole? with
    | some m, some n => m = n
    | _, _ => false

/-- The value of a text key. -/
def entry? (entries : List (Value × Value)) (key : String) : Option Value :=
  (entries.find? fun e => match e.1 with
    | .text k => k = key
    | _ => false).map (·.2)

/-! ### Truth -/

/-- Whether a value counts as given: zeros, empty texts and empty containers do not. -/
def isTrue : Value → Bool
  | .null => false
  | .bool b => b
  | .int n => n ≠ 0
  | .float (.finite _ 0 _) => false
  | .text s => s ≠ ""
  | .octets bs => !bs.isEmpty
  | .list items | .tuple items | .set items => !items.isEmpty
  | .map entries => !entries.isEmpty
  | _ => true

end Value

end ElementLookup
