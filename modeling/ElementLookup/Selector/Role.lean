/-
**Selectors by role.**

A role selector names a role and restricts it by clauses, one for each property that was given, in
the order of the properties whatever the order of the options.  Options come by text keys; a hidden
element may be asked for under a second spelling, which counts only where the first is absent.

Main definitions:

* `Role.Property` — the eight properties, their option keys and their clause keys;
* `Role.Options` — options by key;
* `Role.given` — the value of a property among the options, under either spelling;
* `Role.ignored` — the option keys that mean nothing here, sorted;
* `Role.clauses`, `Role.render`, `Role.selector` — the selector.

Main results:

* `Role.clauses_congr` — the selector depends on the given values alone.
-/

import ElementLookup.Selector.Escape
import ElementLookup.Value.Display

set_option autoImplicit false

namespace ElementLookup.Role

/-! ### Properties -/

/-- What a role lookup may ask of an element. -/
inductive Property where
  | checked
  | disabled
  | selected
  | expanded
  | includeHidden
  | level
  | name
  | pressed
  deriving DecidableEq, Repr

/-- All properties, in the order of their clauses. -/
def Property.all : List Property :=
  [.checked, .disabled, .selected, .expanded, .includeHidden, .level, .name, .pressed]

/-- The key of the option that gives a property. -/
def Property.key : Property → String
  | .checked => "checked"
  | .disabled => "disabled"
  | .selected => "selected"
  | .expanded => "expanded"
  | .includeHidden => "includeHidden"
  | .level => "level"
  | .name => "name"
  | .pressed => "pressed"

/-- The key of a property's clause. -/
def Property.clauseKey : Property → String
  | .includeHidden => "include-hidden"
  | p => p.key

/-- The second spelling of the key for hidden elements. -/
def hiddenAlias : String := "include_hidden"

/-! ### Options -/

/-- Options by key, each key at most once. -/
abbrev Options := List (String × Value)

/-- The value of an option. -/
def option? (options : Options) (key : String) : Option Value :=
  (options.find? fun o => o.1 = key).map (·.2)

/-- The value that the options give to a property. -/
def given (options : Options) (p : Property) : Option Value :=
  match p with
  -- the second spelling counts only where the first is absent
  | .includeHidden => (option? options p.key).or (option? options hiddenAlias)
  | p => option? options p.key

/-- Only what is said of hidden elements has two spellings. -/
theorem given_of_ne {p : Property} (h : p ≠ .includeHidden) (options : Options) :
    given options p = option? options p.key := by
  cases p with
  | includeHidden => exact absurd rfl h
  | checked | disabled | selected | expanded | level | name | pressed => rfl

/-- Whether a key gives a property, under either spelling. -/
def isKnown (key : String) : Bool :=
  key = hiddenAlias || Property.all.any fun p => p.key = key

/-- The order of texts by code points. -/
def textLe (s t : String) : Bool :=
  !(t.toList < s.toList)

/-- The keys that give no property, sorted. -/
def ignored (options : Options) : List String :=
  ((options.map (·.1)).filter fun k => !isKnown k).mergeSort textLe

/-! ### Clauses -/

/-- Truth values are written as the engine reads them, all else as displayed. -/
def stateText : Value → String
  | .bool b => if b then "true" else "false"
  | v => v.display

/-- The accessible name: a pattern, or a text that is looked for without regard to case.  What is
neither is taken by its display. -/
def nameText : Value → Except PatternFault String
  | .textValue t => .ok (Selector.attributeBody t false)
  | .compiled c => do
    let p ← TextPattern.ofCompiled c
    return p.literal
  | v => .ok (Selector.attributeBody (.literal v.display) false)

/-- The value of a property's clause. -/
def clauseText (p : Property) (v : Value) : Except PatternFault String :=
  match p with
  | .name => nameText v
  | _ => .ok (stateText v)

/-- One clause. -/
def clause (p : Property) (text : String) : String :=
  "[" ++ p.clauseKey ++ "=" ++ text ++ "]"

/-- The texts of the properties that have a value. -/
def clauses (values : Property → Option Value) : Except PatternFault (List (Property × String)) :=
  Property.all.filterMapM fun p =>
    match values p with
    | none => .ok none
    | some v => do return some (p, ← clauseText p v)

theorem clauses_congr {f g : Property → Option Value} (h : ∀ p, f p = g p) :
    clauses f = clauses g := by
  rw [show f = g from funext h]

/-- The selector with a role and clauses. -/
def render (role : String) (texts : List (Property × String)) : String :=
  "role=" ++ role ++ String.join (texts.map fun c => clause c.1 c.2)

/-- The selector of a role under options. -/
def selector (role : String) (options : Options) : Except PatternFault String :=
  render role <$> clauses (given options)

/-- What is said about ignored options. -/
def ignoredMessage (role : String) (keys : List String) : String :=
  "role=" ++ role ++ ": ignoring unsupported option(s) " ++ (Value.list (keys.map .text)).inspect

end ElementLookup.Role
