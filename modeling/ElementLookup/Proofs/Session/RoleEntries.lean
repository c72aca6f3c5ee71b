/-
**Role entries and role lookups.**

An element may be asked for by its role in two ways: by an entry of a document, which has the role
and the wanted properties beside each other, and by a lookup, which has the properties as options.
Both read the same keys and take null for a property that is not wanted, and one property may be
spelled in two ways.  They differ in the order of these two rules: an entry chooses between the
spellings first, and then the chosen value may be null; a lookup drops what is null first, and then
chooses among what is left.  So they mean the same, except where the first spelling is null and the
second one is not: the entry then says nothing of hidden elements, the lookup what the second
spelling says.

Main definitions:

* `Role.Options.IsProper` — options that spell properties and have values of their types;
* `Role.Shadowed` — the first spelling is null and the second one is not;
* `Role.AsksFor`, `Role.entries` — entries that have a role and options;
* `Session.SameRole` — a role query and a role lookup are the same step;
* `Session.ReadAs` — what an entry means beside the lookup with its options.

Main results:

* `Role.given_present_of_proper` — null options are as good as absent, unless one is shadowed;
* `Check.exists_query_of_asksFor` — an entry with proper options is accepted, and says what the
  options give;
* `Session.readAs_of_asksFor` — **an entry means what the lookup with its options means**, up to
  what is shadowed.
-/

import ElementLookup.Proofs.Query.OwnData
import ElementLookup.Proofs.Session.Routes
import ElementLookup.Proofs.Selector.SinglePart

set_option autoImplicit false

namespace ElementLookup

/-! ### Values that may be null -/

/-- What stands for a value that may be absent is present exactly if that value is. -/
theorem Value.present?_getD {α : Type} {f : α → Value} (hf : ∀ a, f a ≠ .null) (o : Option α) :
    ((o.map f).getD .null).present? = o.map f := by
  cases o with
  | none => rfl
  | some a => exact Value.present?_of_ne (hf a)

theorem Value.bool_ne_null (b : Bool) : Value.bool b ≠ .null :=
  Value.noConfusion

theorem Value.int_ne_null (n : Int) : Value.int n ≠ .null :=
  Value.noConfusion

theorem TextValue.given_ne_null (t : TextValue) : t.given ≠ .null := by
  cases t <;> exact Value.noConfusion

/-- A role query is determined by its description, its role and the values that it gives. -/
theorem RoleQuery.ext_given {q r : RoleQuery} (hdescription : q.description = r.description)
    (hrole : q.role = r.role) (h : ∀ p, (q.given p).present? = (r.given p).present?) : q = r := by
  have hvalue {α : Type} {f : α → Value} (hne : ∀ a, f a ≠ .null) (hf : Function.Injective f)
      {o o' : Option α}
      (ho : ((o.map f).getD .null).present? = ((o'.map f).getD .null).present?) : o = o' := by
    rw [Value.present?_getD hne, Value.present?_getD hne] at ho
    exact Option.map_injective hf ho
  have hbool : Function.Injective Value.bool := fun _ _ => Value.bool.inj
  have hint : Function.Injective Value.int := fun _ _ => Value.int.inj
  have hname : Function.Injective TextValue.given := by
    intro t u htu
    cases t <;> cases u <;> cases htu <;> rfl
  have hstate {o o' : Option Bool}
      (ho : ((o.map Value.bool).getD .null).present? = ((o'.map Value.bool).getD .null).present?) :
      o = o' :=
    hvalue Value.bool_ne_null hbool ho
  exact RoleQuery.ext hdescription hrole (hstate (h .checked)) (hstate (h .disabled))
    (hstate (h .selected)) (hstate (h .expanded)) (hstate (h .includeHidden))
    (hvalue Value.int_ne_null hint (h .level)) (hvalue TextValue.given_ne_null hname (h .name))
    (hstate (h .pressed))

namespace Role

/-! ### Proper options -/

/-- Whether a key spells a property. -/
def Property.IsSpelled (p : Property) (key : String) : Prop :=
  key = p.key ∨ p = .includeHidden ∧ key = hiddenAlias

/-- Whether a value has the type of a property. -/
def Property.Takes (p : Property) (v : Value) : Prop :=
  match p with
  | .level => ∃ n : Int, 1 ≤ n ∧ v = .int n
  | .name => ∃ s : String, v = .text s
  | _ => ∃ b : Bool, v = .bool b

/-- Every key spells a property and occurs once, and every value is null or has the type of that
property. -/
structure Options.IsProper (options : Options) : Prop where
  nodup : (options.map (·.1)).Nodup
  takes : ∀ o ∈ options, ∃ p : Property, p.IsSpelled o.1 ∧ (o.2 = .null ∨ p.Takes o.2)

/-- The first spelling for hidden elements is null, and the second one is the truth value `b`. -/
def Shadowed (options : Options) (b : Bool) : Prop :=
  option? options Property.includeHidden.key = some .null ∧
    option? options hiddenAlias = some (.bool b)

theorem Property.eq_of_isSpelled {p q : Property} {key : String} (hp : p.IsSpelled key)
    (hq : q.IsSpelled key) : p = q := by
  rcases hp with rfl | ⟨rfl, rfl⟩ <;> rcases hq with hq | ⟨rfl, hq⟩
  · exact key_inj hq
  · exact absurd hq p.key_ne_alias
  · exact absurd hq.symm q.key_ne_alias
  · rfl

theorem Property.isKnown_of_isSpelled {p : Property} {key : String} (h : p.IsSpelled key) :
    isKnown key = true := by
  rcases h with rfl | ⟨-, rfl⟩
  · exact p.isKnown_key
  · decide

section Proper

variable {options : Options}

/-- A value that is found under a spelling of a property is null or has the type of the property. -/
theorem Options.IsProper.takes_option? (h : options.IsProper) {p : Property} {key : String}
    (hkey : p.IsSpelled key) {v : Value} (hv : option? options key = some v) :
    v = .null ∨ p.Takes v := by
  obtain ⟨q, hq, htakes⟩ := h.takes _ (mem_of_option? hv)
  rwa [Property.eq_of_isSpelled hkey hq]

/-- Null options are left out and the others stay, if no key occurs twice. -/
theorem option?_present_of_nodup (h : (options.map (·.1)).Nodup) (key : String) :
    option? (present options) key = (option? options key).bind Value.present? := by
  induction options with
  | nil => rfl
  | cons o r ih =>
    obtain ⟨key', v⟩ := o
    rw [List.map_cons, List.nodup_cons] at h
    by_cases hkey : key' = key
    · subst hkey
      have habsent : option? r key' = none := by
        rw [← Option.not_isSome_iff_eq_none, isSome_option?]
        exact h.1
      have hrest := ih h.2
      rw [habsent, option?] at hrest
      cases v <;> simp_all [option?, present, Value.present?]
    · have hrest := ih h.2
      rw [option?, option?] at hrest
      cases v <;> simp_all [option?, present]

/-- Null options are as good as absent ones, unless something is shadowed. -/
theorem given_present_of_proper (h : options.IsProper) (hfree : ∀ b, ¬ Shadowed options b)
    (p : Property) : given (present options) p = (given options p).bind Value.present? := by
  by_cases hp : p = .includeHidden
  · subst hp
    rw [given, given, option?_present_of_nodup h.nodup, option?_present_of_nodup h.nodup]
    cases hfirst : option? options Property.includeHidden.key with
    | none => rfl
    | some v =>
      rcases h.takes_option? (.inl rfl) hfirst with rfl | ⟨b, rfl⟩
      · cases hsecond : option? options hiddenAlias with
        | none => rfl
        | some w =>
          rcases h.takes_option? (p := .includeHidden) (.inr ⟨rfl, rfl⟩) hsecond with
            rfl | ⟨b, rfl⟩
          · rfl
          · exact absurd ⟨hfirst, hsecond⟩ (hfree b)
      · rfl
  · rw [given_of_ne hp, given_of_ne hp]
    exact option?_present_of_nodup h.nodup _

/-- What is shadowed shows in a lookup, and only that. -/
theorem given_present_of_shadowed (h : options.IsProper) {b : Bool} (hb : Shadowed options b)
    (p : Property) : given (present options) p =
      if p = .includeHidden then some (.bool b) else (given options p).bind Value.present? := by
  cases p with
  | includeHidden =>
    rw [given, option?_present_of_nodup h.nodup, option?_present_of_nodup h.nodup, hb.1, hb.2]
    rfl
  | _ => exact option?_present_of_nodup h.nodup _

end Proper

/-! ### Entries -/

/-- Entries have the kind for roles, a role and options, and perhaps more that means nothing. -/
structure AsksFor (entries : List (Value × Value)) (role : String) (options : Options) :
    Prop where
  kind : Value.entry? entries "kind" = some (.text Kind.role.name)
  role : Value.entry? entries "role" = some (.text role)
  description : Value.entry? entries "description" = none
  options : ∀ (p : Property) (key : String), p.IsSpelled key →
    Value.entry? entries key = option? options key

/-- The entries with a role and options, and nothing else. -/
def entries (role : String) (options : Options) : List (Value × Value) :=
  (.text "kind", .text Kind.role.name) :: (.text "role", .text role) ::
    options.map fun o => (.text o.1, o.2)

theorem entry?_cons_of_ne {key key' : String} (h : key' ≠ key) (v : Value)
    (r : List (Value × Value)) :
    Value.entry? ((.text key', v) :: r) key = Value.entry? r key := by
  rw [Value.entry?, List.find?_cons_of_neg (by simpa using h), Value.entry?]

theorem entry?_map_text (options : Options) (key : String) :
    Value.entry? (options.map fun o => (.text o.1, o.2)) key = option? options key := by
  rw [Value.entry?, List.find?_map, option?, Option.map_map]
  rfl

theorem asksFor_entries {options : Options} (h : options.IsProper) (role : String) :
    AsksFor (entries role options) role options where
  kind := rfl
  role := by
    rw [entries, entry?_cons_of_ne (by decide)]
    rfl
  description := by
    rw [entries, entry?_cons_of_ne (by decide), entry?_cons_of_ne (by decide), entry?_map_text,
      ← Option.not_isSome_iff_eq_none, isSome_option?, List.mem_map]
    rintro ⟨o, ho, hkey⟩
    obtain ⟨p, hp, -⟩ := h.takes o ho
    rw [hkey] at hp
    exact absurd (p.isKnown_of_isSpelled hp) (by decide)
  options p key hkey := by
    have hknown := p.isKnown_of_isSpelled hkey
    have hne {other : String} (hother : isKnown other = false) : other ≠ key := by
      rintro rfl
      exact absurd hknown (by rw [hother]; decide)
    rw [entries, entry?_cons_of_ne (hne (by decide)), entry?_cons_of_ne (hne (by decide)),
      entry?_map_text]

end Role

namespace Check

open Role (AsksFor Property)

variable {entries : List (Value × Value)} {role : String} {options : Role.Options}

/-! ### What an entry says -/

/-- A field that may be absent or null is accepted if what it holds is, and has what it holds. -/
theorem exists_withDefault_optional {α : Type} {check : Value → Checked α} {f : α → Value}
    {key : String} (h : ∀ v, Value.entry? entries key = some v →
      v = .null ∨ ∃ a, check v = .good a ∧ f a = v ∧ v ≠ .null) :
    ∃ o, withDefault entries key none (optional check) = .good o ∧
      o.map f = (Value.entry? entries key).bind Value.present? := by
  cases hentry : Value.entry? entries key with
  | none => exact ⟨none, withDefault_eq_good.2 (.inl ⟨hentry, rfl⟩), rfl⟩
  | some v =>
    rcases h v hentry with rfl | ⟨a, ha, rfl, hne⟩
    · exact ⟨none, withDefault_of_entry hentry rfl, rfl⟩
    · have hgood := optional_eq_good.2 (.inr ⟨hne, a, ha, rfl⟩)
      exact ⟨some a, withDefault_of_entry hentry hgood, (Value.present?_of_ne hne).symm⟩

theorem isSpelled_hiddenKey (entries : List (Value × Value)) :
    Property.includeHidden.IsSpelled (hiddenKey entries) := by
  rw [hiddenKey]
  split
  · exact .inl rfl
  · exact .inr ⟨rfl, rfl⟩

/-- The spelling that an entry reads is the one that options give. -/
theorem option?_hiddenKey (hasks : AsksFor entries role options) :
    Role.option? options (hiddenKey entries) = Role.given options .includeHidden := by
  rw [hiddenKey, hasks.options .includeHidden _ (.inl rfl), Role.given]
  cases hfirst : Role.option? options Property.includeHidden.key with
  | none => rfl
  | some v => exact hfirst

section AsksFor

variable (hasks : AsksFor entries role options) (hproper : options.IsProper)

include hasks hproper

/-- The field of a property is accepted, and has what is found under the spelling that is read. -/
theorem exists_field_of_asksFor {α : Type} {check : Value → Checked α} {f : α → Value}
    {p : Property} {key : String} (hkey : p.IsSpelled key)
    (h : ∀ v, p.Takes v → ∃ a, check v = .good a ∧ f a = v ∧ v ≠ .null) :
    ∃ o, withDefault entries key none (optional check) = .good o ∧
      o.map f = (Role.option? options key).bind Value.present? := by
  rw [← hasks.options p key hkey]
  refine exists_withDefault_optional fun v hv => ?_
  rw [hasks.options p key hkey] at hv
  exact (hproper.takes_option? hkey hv).imp_right (h v)

theorem exists_state_of_asksFor {p : Property} {key : String} (hkey : p.IsSpelled key)
    (hbool : ∀ v, p.Takes v → ∃ b, v = .bool b) :
    ∃ o, state entries key = .good o ∧
      o.map .bool = (Role.option? options key).bind Value.present? := by
  refine exists_field_of_asksFor hasks hproper hkey fun v hv => ?_
  obtain ⟨b, rfl⟩ := hbool v hv
  exact ⟨b, rfl, rfl, Value.bool_ne_null b⟩

theorem exists_level_of_asksFor :
    ∃ o, withDefault entries "level" none (optional level) = .good o ∧
      o.map .int = (Role.option? options "level").bind Value.present? := by
  refine exists_field_of_asksFor hasks hproper (p := .level) (.inl rfl) ?_
  rintro _ ⟨n, hn, rfl⟩
  exact ⟨n, level_eq_good.2 ⟨rfl, hn⟩, rfl, Value.int_ne_null n⟩

theorem exists_name_of_asksFor :
    ∃ o, withDefault entries "name" none (optional textOrPattern) = .good o ∧
      o.map TextValue.given = (Role.option? options "name").bind Value.present? := by
  refine exists_field_of_asksFor hasks hproper (p := .name) (.inl rfl) ?_
  rintro _ ⟨s, rfl⟩
  exact ⟨.literal s, rfl, rfl, TextValue.given_ne_null (.literal s)⟩

/-- An entry with proper options is accepted, if its role is not blank.  It says what the options
give, unless that is null. -/
theorem exists_query_of_asksFor (hrole : Text.strip role ≠ "") :
    ∃ q : RoleQuery, query (.map entries) = .good (.role q) ∧
      q.description = none ∧ q.role = Text.strip role ∧
      ∀ p, (q.given p).present? = (Role.given options p).bind Value.present? := by
  have hstate (p : Property) (hbool : ∀ v, p.Takes v → ∃ b, v = .bool b) :=
    exists_state_of_asksFor hasks hproper (p := p) (.inl rfl) hbool
  obtain ⟨checked, hchecked, checked_eq⟩ := hstate .checked fun _ h => h
  obtain ⟨disabled, hdisabled, disabled_eq⟩ := hstate .disabled fun _ h => h
  obtain ⟨selected, hselected, selected_eq⟩ := hstate .selected fun _ h => h
  obtain ⟨expanded, hexpanded, expanded_eq⟩ := hstate .expanded fun _ h => h
  obtain ⟨hidden, hhidden, hidden_eq⟩ :=
    exists_state_of_asksFor hasks hproper (isSpelled_hiddenKey entries) fun _ h => h
  obtain ⟨level, hlevel, level_eq⟩ := exists_level_of_asksFor hasks hproper
  obtain ⟨name, hname, name_eq⟩ := exists_name_of_asksFor hasks hproper
  obtain ⟨pressed, hpressed, pressed_eq⟩ := hstate .pressed fun _ h => h
  have hroleField : required entries "role"
      (fun v => (text v).andThen (nonBlank "role cannot be empty")) = .good (Text.strip role) :=
    required_of_entry hasks.role
      (Checked.andThen_eq_good.2 ⟨role, rfl, nonBlank_eq_good.2 ⟨rfl, hrole⟩⟩)
  refine ⟨⟨none, Text.strip role, checked, disabled, selected, expanded, hidden, level, name,
    pressed⟩, ?_, rfl, rfl, fun p => ?_⟩
  · refine query_eq_good.2 ⟨entries, _, rfl, hasks.kind, Kind.ofName?_name .role, ?_⟩
    refine queryOfKind_eq_good.2 (.inr ⟨_, rfl, rfl, roleQuery_eq_good.2 ⟨?_, hroleField, hchecked,
      hdisabled, hselected, hexpanded, hhidden, hlevel, hname, hpressed⟩⟩)
    exact withDefault_eq_good.2 (.inl ⟨hasks.description, rfl⟩)
  · rw [option?_hiddenKey hasks] at hidden_eq
    cases p
    case level => exact (Value.present?_getD Value.int_ne_null level).trans level_eq
    case name => exact (Value.present?_getD TextValue.given_ne_null name).trans name_eq
    case checked => exact (Value.present?_getD Value.bool_ne_null checked).trans checked_eq
    case disabled => exact (Value.present?_getD Value.bool_ne_null disabled).trans disabled_eq
    case selected => exact (Value.present?_getD Value.bool_ne_null selected).trans selected_eq
    case expanded => exact (Value.present?_getD Value.bool_ne_null expanded).trans expanded_eq
    case includeHidden => exact (Value.present?_getD Value.bool_ne_null hidden).trans hidden_eq
    case pressed => exact (Value.present?_getD Value.bool_ne_null pressed).trans pressed_eq

end AsksFor

end Check

/-! ### Entries and lookups -/

/-- Options that give a role query its values, once null ones are left out. -/
theorem RoleQuery.GivenBy.of_given {q : RoleQuery} {options : Role.Options}
    (hproper : options.IsProper)
    (h : ∀ p, Role.given (Role.present options) p = (q.given p).present?) : q.GivenBy options where
  known o ho := by
    obtain ⟨p, hp, -⟩ := hproper.takes o ho
    exact p.isKnown_of_isSpelled hp
  name := by
    rw [h, RoleQuery.given, Value.present?_getD TextValue.given_ne_null, Option.map_map]
    congr 1
    funext t
    exact t.toTextValue_given
  other p hp := by
    rw [h]
    rw [q.given_of_ne hp]

namespace Session

/-- A role query and the lookup for its role under options are the same step, under whatever
context. -/
def SameRole (q : RoleQuery) (options : Role.Options) : Prop :=
  ∀ c, selectorOf c (.byRole (.text q.role) options) = compileQuery c (.role q)

theorem sameRole_of_given {q : RoleQuery} {options : Role.Options} (hproper : options.IsProper)
    (h : ∀ p, Role.given (Role.present options) p = (q.given p).present?) : SameRole q options :=
  fun c => selectorOf_eq_compileQuery (.role (.of_given hproper h)) c

/-- A role query comes to its selector and changes nothing. -/
theorem outcome_compileQuery_role (c : Option ContextId) (q : RoleQuery) (s : Session) :
    outcome (compileQuery c (.role q)) s =
      (if (Query.role q).isOverlong then .error .overlongLevel else .ok q.selector, s) := by
  rw [compileQuery, compileUnder]
  cases (Query.role q).isOverlong <;> rfl

theorem outcome_compileQuery_of_short {q : RoleQuery} (h : (Query.role q).isOverlong = false)
    (c : Option ContextId) (s : Session) :
    outcome (compileQuery c (.role q)) s = (.ok q.selector, s) := by
  rw [outcome_compileQuery_role, h]
  rfl

/-- What an entry for a role means: the query `q`, and what it has to do with lookups for the same
role. -/
structure ReadAs (entries : List (Value × Value)) (role : String) (options : Role.Options)
    (q : RoleQuery) : Prop where
  accepted : Check.query (.map entries) = .good (.role q)
  role_eq : q.role = Text.strip role
  /-- The query comes to its selector, in every context and session, and changes nothing; only a
  level that cannot be written is a fault. -/
  compiled : ∀ c s, outcome (compileQuery c (.role q)) s =
    (if (Query.role q).isOverlong then .error .overlongLevel else .ok q.selector, s)
  /-- Unless something is shadowed, the lookup with the same options is the same step. -/
  same : (∀ b, ¬ Role.Shadowed options b) → SameRole q options
  /-- Whatever differs from the options only in what is null is the same lookup and the same
  query. -/
  null : (∀ b, ¬ Role.Shadowed options b) → ∀ others : Role.Options, others.IsProper →
    Role.present others = Role.present options →
      SameRole q others ∧ ((∀ b, ¬ Role.Shadowed others b) → ∀ entries',
        Role.AsksFor entries' role others → Check.query (.map entries') = .good (.role q))
  /-- What is shadowed shows in the lookup and not in the entry. -/
  shadowed : ∀ b, Role.Shadowed options b →
    q.includeHidden = none ∧ SameRole { q with includeHidden := some b } options

/-- An entry with proper options means what the lookup with these options means, except for what is
shadowed. -/
theorem readAs_of_asksFor {entries : List (Value × Value)} {role : String} {options : Role.Options}
    (hasks : Role.AsksFor entries role options) (hproper : options.IsProper)
    (hrole : Text.strip role ≠ "") : ∃ q, ReadAs entries role options q := by
  obtain ⟨q, haccepted, hdescription, hrole_eq, hgiven⟩ :=
    Check.exists_query_of_asksFor hasks hproper hrole
  have hpresent (hfree : ∀ b, ¬ Role.Shadowed options b) (p : Role.Property) :
      Role.given (Role.present options) p = (q.given p).present? :=
    (Role.given_present_of_proper hproper hfree p).trans (hgiven p).symm
  refine ⟨q, haccepted, hrole_eq, fun c s => outcome_compileQuery_role c q s, ?_, ?_, ?_⟩
  · exact fun hfree => sameRole_of_given hproper (hpresent hfree)
  · intro hfree others hothers hsame
    refine ⟨sameRole_of_given hothers fun p => hsame ▸ hpresent hfree p, ?_⟩
    intro hothersFree entries' hasks'
    obtain ⟨r, hr, hrdescription, hrrole, hrgiven⟩ :=
      Check.exists_query_of_asksFor hasks' hothers hrole
    -- both queries say what the options give that are not null
    obtain rfl : r = q := by
      refine RoleQuery.ext_given (hrdescription.trans hdescription.symm)
        (hrrole.trans hrole_eq.symm) fun p => ?_
      rw [hrgiven, ← Role.given_present_of_proper hothers hothersFree, hsame, hpresent hfree]
    exact hr
  · intro b hb
    have hhidden : (q.given .includeHidden).present? = none := by
      rw [hgiven, Role.given, hb.1]
      rfl
    refine ⟨?_, sameRole_of_given hproper fun p => ?_⟩
    · have hnone : q.includeHidden.map Value.bool = none :=
        (Value.present?_getD Value.bool_ne_null _).symm.trans hhidden
      exact Option.map_eq_none_iff.1 hnone
    · rw [Role.given_present_of_shadowed hproper hb]
      cases p
      case includeHidden => rfl
      all_goals exact (hgiven _).symm

/-- Options with both spellings, of which the second one is null, and a role with blanks. -/
def paddedOptions : Role.Options :=
  [("include_hidden", .null), ("name", .text "Save"), ("includeHidden", .bool false),
    ("pressed", .null), ("level", .int 2)]

/-- The statement for these options: the entry and the lookup have the same selector. -/
theorem readAs_of_asksFor_padded :
    Role.AsksFor (Role.entries " button " paddedOptions) " button " paddedOptions ∧
    paddedOptions.IsProper ∧ Text.strip " button " ≠ "" ∧
    (∃ q, ReadAs (Role.entries " button " paddedOptions) " button " paddedOptions q) ∧
    ∀ c s, outcome (selectorOf c (.byRole (.text "button") paddedOptions)) s =
      (.ok "role=button[include-hidden=false][level=2][name=\"Save\"i]", s) := by
  have hproper : paddedOptions.IsProper := by
    refine ⟨by decide, fun o ho => ?_⟩
    simp only [paddedOptions, List.mem_cons, List.not_mem_nil, or_false] at ho
    rcases ho with rfl | rfl | rfl | rfl | rfl
    · exact ⟨.includeHidden, .inr ⟨rfl, rfl⟩, .inl rfl⟩
    · exact ⟨.name, .inl rfl, .inr ⟨_, rfl⟩⟩
    · exact ⟨.includeHidden, .inl rfl, .inr ⟨_, rfl⟩⟩
    · exact ⟨.pressed, .inl rfl, .inl rfl⟩
    · exact ⟨.level, .inl rfl, .inr ⟨2, by decide, rfl⟩⟩
  have hasks := Role.asksFor_entries hproper " button "
  have hrole : Text.strip " button " ≠ "" := by decide +kernel
  obtain ⟨q, hq⟩ := readAs_of_asksFor hasks hproper hrole
  have hfree : ∀ b, ¬ Role.Shadowed paddedOptions b := fun b hb => nomatch hb.1
  have haccepted : Check.query (.map (Role.entries " button " paddedOptions)) =
      .good (.role ⟨none, "button", none, none, none, none, some false, some 2,
        some (.literal "Save"), none⟩) := by
    decide +kernel
  obtain rfl := Query.role.inj (Checked.good.inj (hq.accepted.symm.trans haccepted))
  refine ⟨hasks, hproper, hrole, ⟨_, hq⟩, fun c s => ?_⟩
  rw [hq.same hfree c, outcome_compileQuery_of_short (by decide +kernel)]
  rfl

/-- Options with both spellings, of which the first one is null. -/
def shadowedOptions : Role.Options :=
  [("includeHidden", .null), ("include_hidden", .bool true)]

/-- An entry and the lookup with its options may have different selectors. -/
theorem shadowed_not_same :
    shadowedOptions.IsProper ∧
    Role.AsksFor (Role.entries "button" shadowedOptions) "button" shadowedOptions ∧
    ∃ q, Check.query (.map (Role.entries "button" shadowedOptions)) = .good (.role q) ∧
      (∀ c s, outcome (compileQuery c (.role q)) s = (.ok "role=button", s)) ∧
      (∀ c s, outcome (selectorOf c (.byRole (.text "button") shadowedOptions)) s =
        (.ok "role=button[include-hidden=true]", s)) ∧
      ¬ SameRole q shadowedOptions := by
  have hproper : shadowedOptions.IsProper := by
    refine ⟨by decide, fun o ho => ?_⟩
    simp only [shadowedOptions, List.mem_cons, List.not_mem_nil, or_false] at ho
    rcases ho with rfl | rfl
    · exact ⟨.includeHidden, .inl rfl, .inl rfl⟩
    · exact ⟨.includeHidden, .inr ⟨rfl, rfl⟩, .inr ⟨true, rfl⟩⟩
  let q : RoleQuery := ⟨none, "button", none, none, none, none, none, none, none, none⟩
  let r : RoleQuery := { q with includeHidden := some true }
  have hentry (c : Option ContextId) (s : Session) :
      outcome (compileQuery c (.role q)) s = (.ok "role=button", s) := by
    rw [outcome_compileQuery_of_short (by decide +kernel)]
    rfl
  have hlookup (c : Option ContextId) (s : Session) :
      outcome (selectorOf c (.byRole (.text "button") shadowedOptions)) s =
        (.ok "role=button[include-hidden=true]", s) := by
    have hsame : SameRole r shadowedOptions :=
      sameRole_of_given hproper fun p => by cases p <;> rfl
    rw [hsame c, outcome_compileQuery_of_short (by decide +kernel)]
    rfl
  refine ⟨hproper, Role.asksFor_entries hproper _, q, by decide +kernel, hentry, hlookup, ?_⟩
  intro hsame
  have hequal := hentry none oneOfEach
  rw [← hsame none, hlookup] at hequal
  exact absurd (congrArg Prod.fst hequal) (by decide)

end Session

end ElementLookup
