/-
**Lookups.**

There are seven kinds of lookup.  Six look for a text: in the attribute that identifies elements to
tests, in another attribute, in a label or in the element's own text.  The seventh looks for a role.
A lookup by test id compares an attribute whose name is configured elsewhere; that name is asked for
when it is needed, which is only then, and before the value is looked at.

Main definitions:

* `TextKind`, `Kind` — the kinds of lookup;
* `TextKind.selector` — the selector of a text value;
* `Lookup`, `Lookup.compile` — a lookup with values as they were given, and its selector;
* `Lookup.isOverlong` — whether the selector would need a number with too many digits;
* `LookupFault` — why there is none.

Main results:

* `TextKind.attributeFor_of_ne` — only a test id asks for the attribute.
-/

import ElementLookup.Log.Record
import ElementLookup.Selector.Role

set_option autoImplicit false

namespace ElementLookup

/-! ### Kinds -/

/-- The lookups for a text. -/
inductive TextKind where
  | testId
  | altText
  | label
  | placeholder
  | text
  | title
  deriving DecidableEq, Repr

/-- The kinds of lookup. -/
inductive Kind where
  | text (kind : TextKind)
  | role
  deriving DecidableEq, Repr

/-- The name of a kind of text lookup. -/
def TextKind.name : TextKind → String
  | .testId => "test_id"
  | .altText => "alt_text"
  | .label => "label"
  | .placeholder => "placeholder"
  | .text => "text"
  | .title => "title"

/-- The name of a kind. -/
def Kind.name : Kind → String
  | .text kind => kind.name
  | .role => "role"

/-- All kinds, in the order in which messages list them. -/
def Kind.all : List Kind :=
  [.text .testId, .text .altText, .text .label, .text .placeholder, .text .text, .text .title,
   .role]

/-- The kind with a name. -/
def Kind.ofName? (s : String) : Option Kind :=
  Kind.all.find? fun k => k.name = s

theorem Kind.ofName?_name (k : Kind) : Kind.ofName? k.name = some k := by
  cases k with
  | text kind => cases kind <;> decide
  | role => decide

/-! ### Selectors of text values -/

/-- The selector of a text value; `idAttribute` is the one that holds test ids, which are always
compared exactly. -/
def TextKind.selector (kind : TextKind) (idAttribute : String) (value : TextValue) (exact : Bool) :
    String :=
  match kind with
  | .testId => Selector.byAttribute idAttribute value true
  | .altText => Selector.byAttribute "alt" value exact
  | .title => Selector.byAttribute "title" value exact
  | .placeholder => Selector.byAttribute "placeholder" value exact
  | .label => "internal:label=" ++ Selector.textBody value exact
  | .text => "text=" ++ Selector.textBody value exact

/-- The attribute that holds test ids, if a lookup of this kind needs it. -/
def TextKind.attributeFor {m : Type → Type} [Monad m] (kind : TextKind) (idAttribute : m String) :
    m String :=
  if kind = .testId then idAttribute else pure ""

theorem TextKind.attributeFor_of_ne {m : Type → Type} [Monad m] {kind : TextKind}
    (h : kind ≠ .testId) (idAttribute : m String) : kind.attributeFor idAttribute = pure "" := by
  simp [TextKind.attributeFor, h]

/-! ### Lookups as they are asked for -/

/-- Why a lookup has no selector. -/
inductive LookupFault where
  | pattern (fault : PatternFault)
  | notText (kindName : String)
  | misused
  deriving DecidableEq, Repr

/-- The fault in words; misuse needs none. -/
def LookupFault.message? : LookupFault → Option String
  | .pattern fault => some fault.message
  | .notText kindName => some ("expected str or compiled pattern, got " ++ kindName)
  | .misused => none

/-- The text value that a value stands for. -/
def Value.toTextValue : Value → Except LookupFault TextValue
  | .textValue t => .ok t
  | .text s => .ok (.literal s)
  | .compiled c =>
    match TextPattern.ofCompiled c with
    | .ok p => .ok (.pattern p)
    | .error fault => .error (.pattern fault)
  | v => .error (.notText v.kindName)

/-- A lookup with values as they were given. -/
inductive Lookup where
  | byText (kind : TextKind) (value : Value) (exact : Option Value)
  | byRole (role : Value) (options : Role.Options)

/-- The option keys that would clash with the role itself. -/
def Lookup.reservedKeys : List String := ["role", "self"]

/-- Whether a lookup is asked for in a way that has no meaning: a test id is always exact, and a
role is not among its own options. -/
def Lookup.isMisused : Lookup → Bool
  | .byText kind _ exact => kind = .testId && exact.isSome
  | .byRole _ options => options.any fun o => o.1 ∈ Lookup.reservedKeys

/-- The options that are given: absent ones are left out. -/
def Role.present (options : Role.Options) : Role.Options :=
  options.filter fun o => match o.2 with
    | .null => false
    | _ => true

/-- What is said about the options of a role that mean nothing. -/
def Role.note? (role : Value) (options : Role.Options) : Option Log.Note :=
  match Role.ignored options with
  | [] => none
  | keys =>
    some ⟨"getby.selectors.encoders", Log.Severity.debug, Role.ignoredMessage role.display keys⟩

/-- The selector of a role under options, as a lookup. -/
def Role.lookupSelector (role : Value) (options : Role.Options) : Except LookupFault String :=
  match Role.selector role.display options with
  | .ok s => .ok s
  | .error fault => .error (.pattern fault)

/-- What is said before a lookup is answered; nothing is, if the role itself cannot be written. -/
def Lookup.note? (l : Lookup) : Option Log.Note :=
  match l with
  | .byText .. => none
  | .byRole role options =>
    if l.isMisused || role.isOverlong then none else Role.note? role (Role.present options)

/-- Whether a number with too many digits is come upon before a pattern is refused, when the clauses
are written in order and the role after them; what is said of ignored options shows the role, too,
and comes first. -/
def Role.isOverlong (role : Value) (options : Role.Options) : Bool :=
  let values := Role.given options
  let sound := Role.Property.all.takeWhile fun p =>
    (values p).all fun v => (Role.clauseText p v).isOk
  sound.any (fun p => (values p).any Value.isOverlong)
    || role.isOverlong && (sound = Role.Property.all || !(Role.ignored options).isEmpty)

/-- Whether the selector of a lookup would need a number with more digits than may be written. -/
def Lookup.isOverlong (l : Lookup) : Bool :=
  match l with
  | .byText .. => false
  | .byRole role options => !l.isMisused && Role.isOverlong role (Role.present options)

/-- The selector of a lookup. -/
def Lookup.compile {m : Type → Type} [Monad m] (l : Lookup) (idAttribute : m String) :
    m (Except LookupFault String) :=
  if l.isMisused then pure (.error .misused)
  else match l with
    | .byText kind value exact => do
      let name ← kind.attributeFor idAttribute
      return (fun v => kind.selector name v (exact.any Value.isTrue)) <$> value.toTextValue
    | .byRole role options => pure (Role.lookupSelector role (Role.present options))

end ElementLookup
