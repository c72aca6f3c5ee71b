/-
**Queries.**

A query is a lookup that was checked: its values have the kinds that the lookup wants.  A document
holds a version, perhaps a name and an attribute for test ids of its own, and queries.  A query has
a selector, and a document has one for each of its queries; only queries by test id need to know the
attribute for test ids.

Main definitions:

* `TextQuery`, `RoleQuery`, `Query` — queries;
* `QueryDocument` — a document;
* `Query.compile`, `QueryDocument.compile` — selectors, given a way to learn the attribute;
* `Query.isOverlong` — whether a selector would need too many digits;
* `RoleQuery.options` — the options of a role query as a role lookup is given them;
* `Query.toValue`, `QueryDocument.toValue` — the data of a query or a document.

Main results:

* `RoleQuery.selector_options` — a role query has the selector of its options.
-/

import ElementLookup.Selector.Lookup

set_option autoImplicit false

namespace ElementLookup

/-! ### Types -/

/-- A query for a text; one by test id is never marked exact, because it always is. -/
structure TextQuery where
  kind : TextKind
  description : Option String
  value : TextValue
  exact : Bool
  deriving DecidableEq

/-- A query for a role. -/
@[ext] structure RoleQuery where
  description : Option String
  role : String
  checked : Option Bool
  disabled : Option Bool
  selected : Option Bool
  expanded : Option Bool
  includeHidden : Option Bool
  level : Option Int
  name : Option TextValue
  pressed : Option Bool
  deriving DecidableEq

/-- A query. -/
inductive Query where
  | text (q : TextQuery)
  | role (q : RoleQuery)
  deriving DecidableEq

/-- A document of queries. -/
structure QueryDocument where
  version : String
  name : Option String
  testIdAttribute : Option String
  queries : List Query
  deriving DecidableEq

/-- The kind of a query. -/
def Query.kind : Query → Kind
  | .text q => .text q.kind
  | .role _ => .role

/-- The description of a query. -/
def Query.description : Query → Option String
  | .text q => q.description
  | .role q => q.description

/-! ### Selectors -/

/-- The value of a property as a role option; absent ones are null. -/
def RoleQuery.value (q : RoleQuery) : Role.Property → Value
  | .checked => (q.checked.map .bool).getD .null
  | .disabled => (q.disabled.map .bool).getD .null
  | .selected => (q.selected.map .bool).getD .null
  | .expanded => (q.expanded.map .bool).getD .null
  | .includeHidden => (q.includeHidden.map .bool).getD .null
  | .level => (q.level.map .int).getD .null
  | .name => (q.name.map .textValue).getD .null
  | .pressed => (q.pressed.map .bool).getD .null

/-- A role query as options of a role lookup. -/
def RoleQuery.options (q : RoleQuery) : Role.Options :=
  Role.Property.all.map fun p => (p.key, q.value p)

/-- The text of a property's clause, if the query has that property. -/
def RoleQuery.clauseText? (q : RoleQuery) : Role.Property → Option String
  | .name => q.name.map fun t => Selector.attributeBody t false
  | .level => q.level.map toString
  | p =>
    match q.value p with
    | .null => none
    | v => some (Role.stateText v)

/-- The selector of a role query. -/
def RoleQuery.selector (q : RoleQuery) : String :=
  Role.render q.role <| Role.Property.all.filterMap fun p =>
    (q.clauseText? p).map fun text => (p, text)

theorem Role.Property.key_inj {p q : Role.Property} (h : p.key = q.key) : p = q := by
  cases p <;> cases q <;> simp_all [Role.Property.key]

theorem Role.Property.key_ne_alias (p : Role.Property) : p.key ≠ Role.hiddenAlias := by
  cases p <;> decide

/-- The value of an option, if it is given and not null. -/
def Value.present? : Value → Option Value
  | .null => none
  | v => some v

theorem Value.present?_of_ne {v : Value} (h : v ≠ .null) : v.present? = some v := by
  cases v with
  | null => exact absurd rfl h
  | _ => rfl

/-- Options that are null are left out, and the others keep their values. -/
theorem Role.option?_present (f : Role.Property → Value) (ps : List Role.Property) (key : String) :
    Role.option? (Role.present (ps.map fun p => (p.key, f p))) key =
      (ps.find? fun p => p.key = key && (f p).present?.isSome).bind fun p => (f p).present? := by
  induction ps with
  | nil => rfl
  | cons q r ih =>
    rw [Role.option?] at ih ⊢
    cases hq : f q <;> by_cases hk : q.key = key <;>
      simp_all [Role.present, Value.present?]

theorem Role.Property.mem_all (p : Role.Property) : p ∈ Role.Property.all := by
  cases p <;> decide

theorem Role.option?_present_key (f : Role.Property → Value) (p : Role.Property) :
    Role.option? (Role.present (Role.Property.all.map fun p => (p.key, f p))) p.key =
      (f p).present? := by
  rw [Role.option?_present]
  -- the property itself is among those that are looked through
  cases hfind : Role.Property.all.find? fun q => q.key = p.key && (f q).present?.isSome with
  | none =>
    have hp := List.find?_eq_none.1 hfind p p.mem_all
    simp_all
  | some q =>
    have hq := List.find?_some hfind
    simp only [Bool.and_eq_true, decide_eq_true_eq] at hq
    rw [Role.Property.key_inj hq.1, Option.bind_some]

theorem Role.option?_present_alias (f : Role.Property → Value) (ps : List Role.Property) :
    Role.option? (Role.present (ps.map fun p => (p.key, f p))) Role.hiddenAlias = none := by
  rw [Role.option?_present, List.find?_eq_none.2 fun p _ => by simp [p.key_ne_alias]]
  rfl

/-- The options made of values by property give each property its value, unless that is null. -/
theorem Role.given_present (f : Role.Property → Value) (p : Role.Property) :
    Role.given (Role.present (Role.Property.all.map fun p => (p.key, f p))) p =
      (f p).present? := by
  cases p <;> simp only [Role.given, Role.option?_present_key, Role.option?_present_alias,
    Option.or_none]

/-- The clauses of a role query are those of its values. -/
theorem RoleQuery.clause_value (q : RoleQuery) (p : Role.Property) :
    (match (q.value p).present? with
      | none => (.ok none : Except PatternFault (Option (Role.Property × String)))
      | some v => do return some (p, ← Role.clauseText p v)) =
    .ok ((q.clauseText? p).map fun text => (p, text)) := by
  obtain ⟨_, _, checked, disabled, selected, expanded, hidden, level, name, pressed⟩ := q
  cases p
  case checked => cases checked <;> rfl
  case disabled => cases disabled <;> rfl
  case selected => cases selected <;> rfl
  case expanded => cases expanded <;> rfl
  case includeHidden => cases hidden <;> rfl
  case level => cases level <;> rfl
  case name => cases name <;> rfl
  case pressed => cases pressed <;> rfl

theorem filterMapM_ok {α β ε : Type} (f : α → Option β) (l : List α) :
    l.filterMapM (fun a => (.ok (f a) : Except ε (Option β))) = .ok (l.filterMap f) := by
  induction l with
  | nil => rfl
  | cons a r ih =>
    rw [List.filterMapM_cons]
    cases h : f a <;> simp [ih, h, bind, Except.bind, pure, Except.pure]

/-- A role query has the selector of its options. -/
theorem RoleQuery.selector_options (q : RoleQuery) :
    Role.selector q.role (Role.present q.options) = .ok q.selector := by
  have hclauses : Role.clauses (Role.given (Role.present q.options)) =
      .ok (Role.Property.all.filterMap fun p => (q.clauseText? p).map fun text => (p, text)) := by
    rw [RoleQuery.options, Role.clauses_congr (Role.given_present q.value), Role.clauses]
    -- clause by clause: no value of a query can be refused
    refine Eq.trans ?_ (filterMapM_ok _ _)
    congr 1
    funext p
    exact q.clause_value p
  rw [Role.selector, hclauses]
  rfl

/-- The selector of a query, given a way to learn the attribute for test ids. -/
def Query.compile {m : Type → Type} [Monad m] (q : Query) (idAttribute : m String) : m String :=
  match q with
  | .text q => do
    let name ← q.kind.attributeFor idAttribute
    return q.kind.selector name q.value q.exact
  | .role q => pure q.selector

/-- The selector of a query under an attribute for test ids. -/
def Query.selector (q : Query) (idAttribute : String) : String :=
  Id.run (q.compile (pure idAttribute))

/-- The attribute for test ids of a document: its own, or else the given one. -/
def QueryDocument.attributeOr {m : Type → Type} [Monad m] (d : QueryDocument)
    (idAttribute : m String) : m String :=
  match d.testIdAttribute with
  | some name => pure name
  | none => idAttribute

/-- The selectors of a document, whose own attribute for test ids goes before the given one. -/
def QueryDocument.compile {m : Type → Type} [Monad m] (d : QueryDocument)
    (idAttribute : m String) : m (List String) :=
  d.queries.mapM fun q => q.compile (d.attributeOr idAttribute)

/-- Whether a query has a level with more digits than may be written. -/
def Query.isOverlong : Query → Bool
  | .text _ => false
  | .role q => q.level.any Number.isOverlong

/-! ### Data -/

/-- A text that may be absent, as data. -/
def Value.ofText? (s : Option String) : Value := (s.map .text).getD .null

/-- A text value as data: a pattern is a mapping. -/
def TextValue.toValue : TextValue → Value
  | .literal s => .text s
  | .pattern p => .map [(.text "pattern", .text p.source), (.text "flags", .text p.flags)]

/-- The data of a text query. -/
def TextQuery.toValue (q : TextQuery) : Value :=
  .map <| [(.text "kind", .text q.kind.name), (.text "description", Value.ofText? q.description),
      (.text "value", q.value.toValue)]
    ++ (if q.kind = .testId then [] else [(.text "exact", .bool q.exact)])

/-- The data of a role query. -/
def RoleQuery.toValue (q : RoleQuery) : Value :=
  .map [(.text "kind", .text Kind.role.name), (.text "description", Value.ofText? q.description),
    (.text "role", .text q.role), (.text "checked", q.value .checked),
    (.text "disabled", q.value .disabled), (.text "selected", q.value .selected),
    (.text "expanded", q.value .expanded), (.text Role.hiddenAlias, q.value .includeHidden),
    (.text "level", q.value .level),
    (.text "name", (q.name.map TextValue.toValue).getD .null),
    (.text "pressed", q.value .pressed)]

/-- The data of a query. -/
def Query.toValue : Query → Value
  | .text q => q.toValue
  | .role q => q.toValue

/-- The data of a document. -/
def QueryDocument.toValue (d : QueryDocument) : Value :=
  .map [(.text "version", .text d.version), (.text "name", Value.ofText? d.name),
    (.text "test_id_attribute", Value.ofText? d.testIdAttribute),
    (.text "queries", .list (d.queries.map Query.toValue))]

end ElementLookup
