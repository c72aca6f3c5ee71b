/-
**The environment, and references to it.**

Variables have names and values.  Data may refer to them by `${NAME}`, where the name is a letter or
an underscore followed by letters, digits and underscores.  A reference to a defined variable stands
for its value, even an empty one; every other text stands for itself.  What a variable's value says
is not read again.

Main definitions:

* `Environment` — variables in the order in which they were set;
* `Environment.reference?` — the reference that a text begins with;
* `Environment.expandChars`, `Environment.expand` — references replaced in a text;
* `Environment.substitute` — references replaced in all texts of a value, keys excepted;
* `Environment.isTooDeep`, `Environment.substitute?` — the same where recursion can go down so far.

Main results:

* `Environment.expandChars_plain` — a text without a dollar sign stands for itself.
-/

import ElementLookup.Value

set_option autoImplicit false

namespace ElementLookup

/-! ### Variables -/

/-- Variables with their values, each name at most once. -/
structure Environment where
  bindings : List (String × String)

namespace Environment

/-- No variable is defined. -/
def empty : Environment := ⟨[]⟩

/-- The value of a variable. -/
def value? (env : Environment) (name : String) : Option String :=
  (env.bindings.find? fun v => v.1 = name).map (·.2)

/-- The environment without a variable. -/
def erase (env : Environment) (name : String) : Environment :=
  ⟨env.bindings.filter fun v => v.1 ≠ name⟩

/-- The environment with a variable set; one that is set already keeps its place. -/
def set (env : Environment) (name value : String) : Environment :=
  if (env.value? name).isSome then
    ⟨env.bindings.map fun v => if v.1 = name then (name, value) else v⟩
  else ⟨env.bindings ++ [(name, value)]⟩

/-! ### References -/

/-- The characters of a name. -/
def isNameChar (c : Char) : Bool :=
  c.isAlphanum || c = '_'

/-- Whether this is a name. -/
def isName (cs : List Char) : Bool :=
  match cs with
  | [] => false
  | c :: _ => !c.isDigit && cs.all isNameChar

/-- The name and the rest, if a text begins with a reference. -/
def reference? (cs : List Char) : Option (List Char × List Char) :=
  match cs with
  | '$' :: '\x7b' :: r =>
    let name := r.takeWhile isNameChar
    match r.dropWhile isNameChar with
    | '\x7d' :: rest => if isName name then some (name, rest) else none
    | _ => none
  | _ => none

/-- What follows a reference is shorter. -/
theorem length_lt_of_reference? {cs name rest : List Char}
    (h : reference? cs = some (name, rest)) : rest.length < cs.length := by
  unfold reference? at h
  split at h
  · rename_i r
    simp only at h
    split at h
    · rename_i tail heq
      split at h
      -- what follows the name is a suffix of the text, and the brace takes one character more
      · have hsuf := (List.dropWhile_suffix isNameChar (l := r)).length_le
        rw [heq] at hsuf
        cases h
        simp at hsuf ⊢; omega
      · cases h
    · cases h
  · cases h

/-- A reference in writing. -/
def written (name : List Char) : List Char :=
  '$' :: '\x7b' :: (name ++ ['\x7d'])

/-- What a reference stands for: the variable's value, or itself if there is none. -/
def meaning (env : Environment) (name : List Char) : List Char :=
  match env.value? (String.ofList name) with
  | some value => value.toList
  | none => written name

/-- The text with its references replaced. -/
def expandChars (env : Environment) : List Char → List Char
  | [] => []
  | c :: r =>
    match h : reference? (c :: r) with
    | some (name, rest) =>
      -- reading goes on behind the reference, never inside its value
      have := length_lt_of_reference? h
      env.meaning name ++ expandChars env rest
    | none => c :: expandChars env r
termination_by cs => cs.length
decreasing_by all_goals (simp only [List.length_cons] at *; omega)

@[simp] theorem expandChars_nil (env : Environment) : env.expandChars [] = [] := by
  rw [expandChars]

theorem expandChars_of_reference (env : Environment) {cs name rest : List Char}
    (h : reference? cs = some (name, rest)) :
    env.expandChars cs = env.meaning name ++ env.expandChars rest := by
  cases cs with
  | nil => simp [reference?] at h
  | cons c r =>
    rw [expandChars]
    split
    · rename_i heq; rw [h] at heq; cases heq; rfl
    · rename_i heq; rw [h] at heq; cases heq

theorem expandChars_cons (env : Environment) {c : Char} {r : List Char}
    (h : reference? (c :: r) = none) : env.expandChars (c :: r) = c :: env.expandChars r := by
  rw [expandChars]
  split
  · rename_i heq; rw [h] at heq; cases heq
  · rfl

theorem reference?_eq_none_of_ne {c : Char} (h : c ≠ '$') (r : List Char) :
    reference? (c :: r) = none := by
  unfold reference?
  split
  · rename_i heq; cases heq; exact absurd rfl h
  · rfl

/-- A text without a dollar sign stands for itself. -/
theorem expandChars_plain (env : Environment) (cs : List Char) (h : '$' ∉ cs) :
    env.expandChars cs = cs := by
  induction cs with
  | nil => simp
  | cons c r ih =>
    have hc : c ≠ '$' := fun e => h (by simp [e])
    rw [expandChars_cons env (reference?_eq_none_of_ne hc r),
      ih fun m => h (List.mem_cons_of_mem _ m)]

/-- The text with its references replaced. -/
def expand (env : Environment) (s : String) : String :=
  String.ofList (env.expandChars s.toList)

/-- The text with its references replaced; no reference holds half a surrogate pair. -/
def expandSigns (env : Environment) (signs : List Text.Sign) : List Text.Sign :=
  let (first, more) := Text.runs signs
  let expanded (cs : List Char) := (env.expandChars cs).map Text.Sign.char
  expanded first ++ more.flatMap fun m => .half m.1 :: expanded m.2

theorem expandSigns_char (env : Environment) (cs : List Char) :
    env.expandSigns (cs.map .char) = (env.expandChars cs).map .char := by
  simp [expandSigns, Text.runs_map_char]

/-! ### Values -/

mutual

/-- The value with the references in its texts replaced; keys and what is neither text, list nor
mapping stay as they are. -/
def substitute (env : Environment) : Value → Value
  | .text s => .text (env.expand s)
  | .halved signs => .halved (env.expandSigns signs)
  | .list items => .list (substituteItems env items)
  | .map entries => .map (substituteEntries env entries)
  | v => v

/-- The members of a list with their references replaced. -/
def substituteItems (env : Environment) : List Value → List Value
  | [] => []
  | v :: r => substitute env v :: substituteItems env r

/-- The entries of a mapping with the references in their values replaced. -/
def substituteEntries (env : Environment) : List (Value × Value) → List (Value × Value)
  | [] => []
  | (k, v) :: r => (k, substitute env v) :: substituteEntries env r

end

mutual

/-- Whether lists and mappings stand in one another more than `depth` deep.  A container within
itself is too deep for any depth. -/
def isTooDeep (depth : Nat) : Value → Bool
  | .enclosing _ => true
  | .list items => depth == 0 || areItemsTooDeep (depth - 1) items
  | .map entries => depth == 0 || areEntriesTooDeep (depth - 1) entries
  | _ => false

/-- Whether they do in an item of a list. -/
def areItemsTooDeep (depth : Nat) : List Value → Bool
  | [] => false
  | v :: r => isTooDeep depth v || areItemsTooDeep depth r

/-- Whether they do in the value of an entry. -/
def areEntriesTooDeep (depth : Nat) : List (Value × Value) → Bool
  | [] => false
  | (_, v) :: r => isTooDeep depth v || areEntriesTooDeep depth r

end

/-- The value with the references in its texts replaced.  This goes all the way down, which is
impossible in a value that is too deep. -/
def substitute? (env : Environment) (depth : Nat) (v : Value) : Option Value :=
  if isTooDeep depth v then none else some (env.substitute v)

end Environment

end ElementLookup
