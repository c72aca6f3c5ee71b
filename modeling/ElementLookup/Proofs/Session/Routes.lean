/-
**Routes from a request to a selector.**

There are four ways to come to a selector: a query is compiled, a builder is asked for the lookup
with the values of the query, a page is asked for that lookup, and a page is asked for the query.
Queries and lookups are taken apart kind by kind, each in its own way, and the two ways never meet.
Yet the query and the lookup are the same step, provided that the lookup asks what the query says;
in which form it says so does not matter.  Hence all routes come to the same selector, in every
session and whatever route was taken before.

Main definitions:

* `Query.AskedBy` — a lookup asks what a query says;
* `Query.lookup` — the lookup with the values of a query;
* `Session.Route` — what a step comes to wherever a certain attribute is used, and what pages are
  asked;
* `Session.RoutesTo` — all routes come to the same result.

Main results:

* `Query.askedBy_lookup` — every query is asked for by the lookup with its values;
* `Session.selectorOf_eq_compileQuery` — **the lookup and the query are the same step**;
* `Session.agree_of_askedBy` — **all routes agree**, and a page is asked once.
-/

import Mathlib.Data.List.TakeWhile
import ElementLookup.Proofs.Session.TestIdAttribute

set_option autoImplicit false

namespace ElementLookup

/-! ### Lookups that ask for a query -/

/-- Options give a role query its values.  They come in any order and under either spelling, and may
be null if absent; a name may be a plain text, a text value or a compiled pattern. -/
structure RoleQuery.GivenBy (q : RoleQuery) (options : Role.Options) : Prop where
  /-- There are no options but those that mean something. -/
  known : ∀ o ∈ options, Role.isKnown o.1 = true
  /-- The name is given as some value that stands for it. -/
  name : (Role.given (Role.present options) .name).map Value.toTextValue = q.name.map .ok
  /-- Everything else is given as it is. -/
  other : ∀ p, p ≠ .name → Role.given (Role.present options) p = (q.value p).present?

/-- A lookup asks what a query says. -/
inductive Query.AskedBy : Query → Lookup → Prop where
  | testId {q : TextQuery} {v : Value} (hkind : q.kind = .testId)
      (hvalue : v.toTextValue = .ok q.value) : AskedBy (.text q) (.byText .testId v none)
  | text {q : TextQuery} {v : Value} {exact : Option Value} (hkind : q.kind ≠ .testId)
      (hvalue : v.toTextValue = .ok q.value) (hexact : exact.any Value.isTrue = q.exact) :
      AskedBy (.text q) (.byText q.kind v exact)
  | role {q : RoleQuery} {options : Role.Options} (hgiven : q.GivenBy options) :
      AskedBy (.role q) (.byRole (.text q.role) options)

/-- A text value as it is usually given: a literal as a plain text. -/
def TextValue.given : TextValue → Value
  | .literal s => .text s
  | .pattern p => .textValue (.pattern p)

@[simp] theorem TextValue.toTextValue_given (t : TextValue) : t.given.toTextValue = .ok t := by
  cases t <;> rfl

/-- The value of a property as it is usually given. -/
def RoleQuery.given (q : RoleQuery) : Role.Property → Value
  | .name => (q.name.map TextValue.given).getD .null
  | p => q.value p

/-- Only the name is given as it was written. -/
theorem RoleQuery.given_of_ne (q : RoleQuery) {p : Role.Property} (h : p ≠ .name) :
    q.given p = q.value p := by
  cases p with
  | name => exact absurd rfl h
  | checked | disabled | selected | expanded | includeHidden | level | pressed => rfl

/-- The lookup with the values of a query. -/
def Query.lookup : Query → Lookup
  | .text q =>
    .byText q.kind q.value.given (if q.kind = .testId then none else some (.bool q.exact))
  | .role q => .byRole (.text q.role) (Role.Property.all.map fun p => (p.key, q.given p))

theorem Role.Property.isKnown_key (p : Role.Property) : Role.isKnown p.key = true := by
  cases p <;> decide

theorem RoleQuery.givenBy_given (q : RoleQuery) :
    q.GivenBy (Role.Property.all.map fun p => (p.key, q.given p)) where
  known o ho := by
    obtain ⟨p, -, rfl⟩ := List.mem_map.1 ho
    exact p.isKnown_key
  name := by
    rw [Role.given_present, given]
    cases q.name with
    | none => rfl
    | some t => cases t <;> rfl
  other p hp := by
    rw [Role.given_present, q.given_of_ne hp]

/-- Every query is asked for by the lookup with its values. -/
theorem Query.askedBy_lookup (q : Query) : q.AskedBy q.lookup := by
  cases q with
  | text q =>
    rw [lookup]
    by_cases hkind : q.kind = .testId
    · rw [if_pos hkind, hkind]
      exact .testId hkind q.value.toTextValue_given
    · rw [if_neg hkind]
      exact .text hkind q.value.toTextValue_given rfl
  | role q => exact .role q.givenBy_given

/-! ### Values that stand for texts -/

/-- A name that is given as a text value is written as that value. -/
theorem Role.nameText_of_toTextValue {v : Value} {t : TextValue} (h : v.toTextValue = .ok t) :
    Role.nameText v = .ok (Selector.attributeBody t false) := by
  cases v
  case textValue u =>
    obtain rfl : u = t := Except.ok.inj h
    rfl
  case text s =>
    obtain rfl : TextValue.literal s = t := Except.ok.inj h
    rfl
  case compiled c =>
    rw [Value.toTextValue] at h
    rw [Role.nameText]
    cases hc : TextPattern.ofCompiled c with
    | error fault => rw [hc] at h; exact nomatch h
    | ok p =>
      rw [hc] at h
      obtain rfl : TextValue.pattern p = t := Except.ok.inj h
      rfl
  all_goals exact nomatch h

theorem Value.isOverlong_of_toTextValue {v : Value} {t : TextValue} (h : v.toTextValue = .ok t) :
    v.isOverlong = false := by
  cases v
  case textValue | text | compiled => rfl
  all_goals exact nomatch h

/-! ### Options that give a role query its values -/

namespace RoleQuery.GivenBy

variable {q : RoleQuery} {options : Role.Options}

/-- Either the query has no name and none is given, or a value is given that stands for it. -/
theorem name_cases (h : q.GivenBy options) :
    (q.name = none ∧ Role.given (Role.present options) .name = none) ∨
      ∃ v t, q.name = some t ∧ Role.given (Role.present options) .name = some v ∧
        v.toTextValue = .ok t := by
  have hname := h.name
  cases hq : q.name with
  | none =>
    rw [hq] at hname
    exact .inl ⟨rfl, Option.map_eq_none_iff.1 hname⟩
  | some t =>
    rw [hq] at hname
    obtain ⟨v, hv, ht⟩ := Option.map_eq_some_iff.1 hname
    exact .inr ⟨v, t, rfl, hv, ht⟩

/-- The clause of a property is that of the query. -/
theorem clause (h : q.GivenBy options) (p : Role.Property) :
    (match Role.given (Role.present options) p with
      | none => (.ok none : Except PatternFault (Option (Role.Property × String)))
      | some v => do return some (p, ← Role.clauseText p v)) =
    .ok ((q.clauseText? p).map fun text => (p, text)) := by
  by_cases hp : p = .name
  · subst hp
    rcases h.name_cases with ⟨hq, hgiven⟩ | ⟨v, t, hq, hgiven, ht⟩
    · rw [hgiven, clauseText?, hq]
      rfl
    · rw [hgiven, clauseText?, hq]
      dsimp only [Role.clauseText]
      rw [Role.nameText_of_toTextValue ht]
      rfl
  · rw [h.other p hp]
    exact q.clause_value p

/-- The role has the selector of the query. -/
theorem lookupSelector (h : q.GivenBy options) :
    Role.lookupSelector (.text q.role) (Role.present options) = .ok q.selector := by
  have hclauses : Role.clauses (Role.given (Role.present options)) =
      .ok (Role.Property.all.filterMap fun p => (q.clauseText? p).map fun text => (p, text)) := by
    rw [Role.clauses, ← filterMapM_ok]
    congr 1
    funext p
    exact h.clause p
  rw [Role.lookupSelector, Role.selector, hclauses]
  rfl

/-- Every value that is given can be written in its clause, if it is not too long. -/
theorem isOk_clauseText (h : q.GivenBy options) (p : Role.Property) :
    (Role.given (Role.present options) p).all (fun v => (Role.clauseText p v).isOk) = true := by
  have hclause := h.clause p
  cases hv : Role.given (Role.present options) p with
  | none => rfl
  | some v =>
    rw [hv] at hclause
    dsimp only at hclause
    rw [Option.all_some]
    cases htext : Role.clauseText p v with
    | ok text => rfl
    | error fault =>
      rw [htext] at hclause
      exact nomatch hclause

/-- A level is all that may be too long. -/
theorem isOverlong_given (h : q.GivenBy options) (p : Role.Property) :
    (Role.given (Role.present options) p).any Value.isOverlong =
      (p = .level && q.level.any Number.isOverlong) := by
  by_cases hp : p = .name
  · subst hp
    rcases h.name_cases with ⟨-, hgiven⟩ | ⟨v, t, -, hgiven, ht⟩
    · rw [hgiven]
      rfl
    · rw [hgiven]
      exact Value.isOverlong_of_toTextValue ht
  · rw [h.other p hp]
    obtain ⟨_, _, checked, disabled, selected, expanded, hidden, level, name, pressed⟩ := q
    cases p
    case name => contradiction
    case checked => cases checked <;> rfl
    case disabled => cases disabled <;> rfl
    case selected => cases selected <;> rfl
    case expanded => cases expanded <;> rfl
    case includeHidden => cases hidden <;> rfl
    case level =>
      cases level with
      | none => rfl
      | some n => simp [value, Value.present?, Value.isOverlong]
    case pressed => cases pressed <;> rfl

theorem isOverlong (h : q.GivenBy options) :
    Role.isOverlong (.text q.role) (Role.present options) = q.level.any Number.isOverlong := by
  have hsound : Role.Property.all.takeWhile (fun p =>
      (Role.given (Role.present options) p).all fun v => (Role.clauseText p v).isOk) =
        Role.Property.all :=
    List.takeWhile_eq_self_iff.2 fun p _ => h.isOk_clauseText p
  rw [Role.isOverlong, hsound]
  simp only [h.isOverlong_given]
  cases q.level.any Number.isOverlong <;> rfl

theorem isMisused (h : q.GivenBy options) :
    (Lookup.byRole (.text q.role) options).isMisused = false := by
  have hreserved : ∀ key, Role.isKnown key = true → key ∉ Lookup.reservedKeys := by
    intro key hkey hmem
    simp only [Lookup.reservedKeys, List.mem_cons, List.not_mem_nil, or_false] at hmem
    rcases hmem with rfl | rfl <;> exact absurd hkey (by decide)
  refine List.any_eq_false.2 fun o ho => ?_
  simpa using hreserved o.1 (h.known o ho)

theorem note? (h : q.GivenBy options) :
    (Lookup.byRole (.text q.role) options).note? = none := by
  have hignored : Role.ignored (Role.present options) = [] := by
    have hkeys : ((Role.present options).map (·.1)).filter (fun k => !Role.isKnown k) = [] := by
      refine List.filter_eq_nil_iff.2 fun key hkey => ?_
      obtain ⟨o, ho, rfl⟩ := List.mem_map.1 hkey
      rw [h.known o (List.mem_filter.1 ho).1]
      decide
    rw [Role.ignored, hkeys, List.mergeSort_nil]
  rw [Lookup.note?, h.isMisused, Role.note?, hignored]
  rfl

end RoleQuery.GivenBy

/-! ### Lookups and queries as steps -/

section Compile

variable {m : Type → Type} [Monad m] [LawfulMonad m]

/-- A lookup for a text has the selector of its kind, unless it is misused. -/
theorem Lookup.compile_of_toTextValue {kind : TextKind} {v : Value} {exact : Option Value}
    {t : TextValue} (hused : (Lookup.byText kind v exact).isMisused = false)
    (hvalue : v.toTextValue = .ok t) (idAttribute : m String) :
    (Lookup.byText kind v exact).compile idAttribute =
      (fun name => .ok (kind.selector name t (exact.any Value.isTrue))) <$>
        kind.attributeFor idAttribute := by
  rw [Lookup.compile.eq_def, hused, if_neg Bool.false_ne_true]
  dsimp only
  rw [hvalue]
  exact bind_pure_comp _ _

theorem Query.compile_text (q : TextQuery) (idAttribute : m String) :
    (Query.text q).compile idAttribute =
      (fun name => q.kind.selector name q.value q.exact) <$> q.kind.attributeFor idAttribute :=
  bind_pure_comp _ _

namespace Query.AskedBy

variable {q : Query} {l : Lookup}

theorem note? (h : q.AskedBy l) : l.note? = none := by
  cases h with
  | testId | text => rfl
  | role hgiven => exact hgiven.note?

/-- A lookup is too long for the same reason as the query. -/
theorem isOverlong (h : q.AskedBy l) : l.isOverlong = q.isOverlong := by
  cases h with
  | testId | text => rfl
  | role hgiven =>
    rw [Lookup.isOverlong, hgiven.isMisused, hgiven.isOverlong]
    rfl

/-- A lookup is compiled as the query is. -/
theorem compile (h : q.AskedBy l) (idAttribute : m String) :
    l.compile idAttribute = .ok <$> q.compile idAttribute := by
  cases h with
  | @testId q v hkind hvalue =>
    obtain ⟨kind, description, value, exact⟩ := q
    obtain rfl : kind = .testId := hkind
    rw [Lookup.compile_of_toTextValue rfl hvalue, compile_text, Functor.map_map]
    -- a test id is compared exactly, whatever the lookup or the query says
    rfl
  | @text q v exact hkind hvalue hexact =>
    have hused : (Lookup.byText q.kind v exact).isMisused = false := by
      rw [Lookup.isMisused, decide_eq_false hkind]
      rfl
    rw [Lookup.compile_of_toTextValue hused hvalue, compile_text, Functor.map_map, hexact]
  | @role q options hgiven =>
    rw [Lookup.compile.eq_def, hgiven.isMisused, Query.compile]
    simp [hgiven.lookupSelector]

end Query.AskedBy

end Compile

namespace Session

variable {q : Query} {l : Lookup} {c : Option ContextId} {name : String} {α β : Type}

/-- The lookup and the query are the same step. -/
theorem selectorOf_eq_compileQuery (h : q.AskedBy l) (c : Option ContextId) :
    selectorOf c l = compileQuery c q := by
  rw [selectorOf, h.note?, h.isOverlong, compileQuery, compileUnder, h.compile]
  simp

/-! ### What routes leave behind -/

theorem usedIn?_eq (s : Session) (c : Option ContextId) :
    s.usedIn? c = match c.or s.view.shared with
      | some d => s.view.attributes[d]?
      | none => s.view.first? := rfl

/-- Opening the shared context does not change the attribute that is used. -/
theorem usedIn?_of_opened {s t : Session} (ht : t.view = s.view.opened)
    (hs : s.usedIn? c = some name) : t.usedIn? c = some name := by
  rw [usedIn?_eq] at hs ⊢
  rw [ht]
  rcases s.view.opened_cases with ⟨hopened, -⟩ | ⟨first, hshared, hfirst, hopened⟩
  · rwa [hopened]
  · rw [hopened]
    cases c with
    | some d =>
      have hd : s.view.attributes[d]? = some name := hs
      exact (List.getElem?_append_left (List.getElem?_eq_some_iff.1 hd).1).trans hd
    | none =>
      rw [hshared] at hs
      obtain rfl : first = name := Option.some.inj (hfirst.symm.trans hs)
      exact List.getElem?_concat_length

/-- Steps that read contexts do not change the attribute that is used. -/
theorem Reads.usedIn? {step : SessionM α} (h : Reads step) {s : Session}
    (hs : s.usedIn? c = some name) : (outcome step s).2.usedIn? c = some name := by
  rcases h s with hview | hview
  · rw [usedIn?_eq, hview]
    exact hs
  · exact usedIn?_of_opened hview hs

/-- Opening the shared context asks no page for anything. -/
theorem pages_builderAttribute (c : Option ContextId) (s : Session) :
    (outcome (builderAttribute c) s).2.pages = s.pages := by
  cases c with
  | some d => rfl
  | none =>
    rw [builderAttribute, contextOr, defaultContext, bind_assoc, outcome_bind_ok (outcome_get s)]
    cases s.shared with
    | some d => rfl
    | none =>
      obtain ⟨files, loaded, hsettings, -⟩ := outcome_settings s
      dsimp only
      cases havailable : s.available with
      | error fault =>
        rw [havailable] at hsettings
        rw [bind_assoc, outcome_bind_error hsettings]
      | ok settings =>
        rw [havailable] at hsettings
        rw [bind_assoc, outcome_bind_ok hsettings]
        rfl

/-- Wherever the builders with a context use a certain attribute, a step comes to a result; they use
it still, and the calls of the pages are as said. -/
def Route (c : Option ContextId) (name : String) (step : SessionM α) (result : Except Fault α)
    (pages : List (List String) → List (List String)) : Prop :=
  ∀ s : Session, s.usedIn? c = some name →
    ∃ t, outcome step s = (result, t) ∧ t.usedIn? c = some name ∧ t.pages = pages s.pages

/-- The calls of the pages after one of them was asked for a selector, if there is one. -/
def askedFor (p : PageId) (selector : Except Fault String) (pages : List (List String)) :
    List (List String) :=
  match selector with
  | .ok sel => pages.modify p (· ++ [sel])
  | .error _ => pages

theorem Route.bind {x : SessionM α} {f : α → SessionM β} {a : α} {result : Except Fault β}
    {before after : List (List String) → List (List String)} (hx : Route c name x (.ok a) before)
    (hf : Route c name (f a) result after) :
    Route c name (x >>= f) result (after ∘ before) := by
  intro s hs
  obtain ⟨t, ht, hused, hpages⟩ := hx s hs
  obtain ⟨u, hu, hstill, hcalls⟩ := hf t hused
  exact ⟨u, (outcome_bind_ok ht f).trans hu, hstill, hcalls.trans (congrArg after hpages)⟩

theorem Route.bind_error {x : SessionM α} {fault : Fault}
    {pages : List (List String) → List (List String)}
    (hx : Route c name x (.error fault) pages) (f : α → SessionM β) :
    Route c name (x >>= f) (.error fault) pages := by
  intro s hs
  obtain ⟨t, ht, hstays⟩ := hx s hs
  exact ⟨t, outcome_bind_error ht f, hstays⟩

/-- A query comes to its selector, and no page is asked. -/
theorem route_compileQuery (c : Option ContextId) (name : String) (q : Query) :
    Route c name (compileQuery c q) (q.compiled name) id := by
  intro s hs
  -- the class of sessions that are like this one in all that matters here
  let I : Session → Prop := fun t => t.usedIn? c = some name ∧ t.pages = s.pages
  have hattribute : Yields I (builderAttribute c) (.ok name) := by
    rintro t ⟨hused, hpages⟩
    obtain ⟨u, hu, -⟩ := supplies_of_usedIn? hused
    have hstill := (reads_builderAttribute c).usedIn? hused
    have hcalls := pages_builderAttribute c t
    rw [hu] at hstill hcalls
    exact ⟨u, hu, hstill, hcalls.trans hpages⟩
  exact hattribute.compileUnder q s ⟨hs, rfl⟩

/-- A page that is asked for a selector is asked once, and its answer is given. -/
theorem route_locate (p : PageId) (sel : String) :
    Route c name (locate p sel) (.ok (.located p sel)) (askedFor p (.ok sel)) := by
  intro s hs
  refine ⟨_, rfl, (reads_locate p sel).usedIn? hs, ?_⟩
  obtain ⟨ds, hheard⟩ := s.heard_eq (pageNote sel)
  change List.modify (s.heard (pageNote sel)).pages p _ = _
  rw [hheard]
  rfl

/-! ### All routes -/

/-- All routes from a query, and from a lookup that asks for it, come to the same. -/
structure RoutesTo (q : Query) (l : Lookup) (c : Option ContextId) (name : String) (p : PageId)
    (result : Except Fault String) : Prop where
  /-- The query is compiled. -/
  compiled : Route c name (compileQuery c q) result id
  /-- A builder is asked, whose answer is the selector. -/
  built : Route c name (lookup ⟨.answer, c⟩ l) (.selector <$> result) id
  /-- A page is asked for the lookup: it is asked for the selector once, and what it gives is the
  answer. -/
  located : Route c name (lookup ⟨.page p, c⟩ l) (.located p <$> result) (askedFor p result)
  /-- A page is asked for the query, to the same effect. -/
  resolved : Route c name (resolve p c q) (.located p <$> result) (askedFor p result)
  /-- Who has no use for selectors compiles the same one. -/
  written : Route c name (selectorOf c l) result id
  /-- It has no answer, though. -/
  unused : Route c name (lookup ⟨.none, c⟩ l) (result >>= fun _ => .error .noLocator) id

/-- The routes are made of the first. -/
theorem RoutesTo.of_compiled {p : PageId} {result : Except Fault String} (h : q.AskedBy l)
    (hcompiled : Route c name (compileQuery c q) result id) :
    RoutesTo q l c name p result := by
  have hwritten : Route c name (selectorOf c l) result id := by
    rw [selectorOf_eq_compileQuery h]
    exact hcompiled
  cases result with
  | error fault =>
    exact ⟨hcompiled, hwritten.bind_error _, hwritten.bind_error _, hcompiled.bind_error _,
      hwritten, hwritten.bind_error _⟩
  | ok sel =>
    have hanswer : Route c name (put .answer sel) (.ok (.selector sel)) id :=
      fun s hs => ⟨s, rfl, hs, rfl⟩
    have hnone : Route c name (put .none sel) (.error .noLocator) id :=
      fun s hs => ⟨s, rfl, hs, rfl⟩
    exact ⟨hcompiled, hwritten.bind hanswer, hwritten.bind (route_locate p sel),
      hcompiled.bind (route_locate p sel), hwritten, hwritten.bind hnone⟩

/-- Every query is asked for by some lookup, and whichever does so, all routes come to the selector
of the query under the attribute of the context.  Only a level that cannot be written is a fault,
and then it is one on every route, before a page is asked. -/
theorem agree_of_askedBy (q : Query) (c : Option ContextId) (name : String) (p : PageId) :
    q.AskedBy q.lookup ∧ ∀ l, q.AskedBy l →
      (q.isOverlong = false → RoutesTo q l c name p (.ok (q.selector name))) ∧
      (q.isOverlong = true → RoutesTo q l c name p (.error .overlongLevel)) := by
  have hcompiled := route_compileQuery c name q
  refine ⟨q.askedBy_lookup, fun l h => ⟨fun hshort => ?_, fun hlong => ?_⟩⟩
  · rw [Query.compiled_of_short hshort] at hcompiled
    exact .of_compiled h hcompiled
  · rw [Query.compiled_of_overlong hlong] at hcompiled
    exact .of_compiled h hcompiled

/-- A query for a button that is hidden or not. -/
def buttonQuery : Query :=
  .role ⟨none, "button", some true, none, none, none, some false, some 2, some (.literal "Save"),
    none⟩

/-- A lookup for that button, with the second spelling, a null and an order of its own. -/
def buttonLookup : Lookup :=
  .byRole (.text "button")
    [("name", .text "Save"), ("include_hidden", .bool false), ("pressed", .null), ("level", .int 2),
      ("checked", .bool true)]

/-- A session with one context and one page. -/
def oneOfEach : Session :=
  { start (.all 9) ⟨[]⟩ ⟨.directory [], .ofText "/"⟩ Log.Severity.warning [] with
    contexts := ["data-qa"], pages := [[]] }

/-- The statement for that button. -/
theorem agree_of_askedBy_button :
    buttonQuery.AskedBy buttonLookup ∧
    RoutesTo buttonQuery buttonLookup (some 0) "data-qa" 0
      (.ok "role=button[checked=true][include-hidden=false][level=2][name=\"Save\"i]") ∧
    ∃ t, outcome (resolve 0 (some 0) buttonQuery) oneOfEach =
        (.ok (.located 0
          "role=button[checked=true][include-hidden=false][level=2][name=\"Save\"i]"), t) ∧
      t.pages = [["role=button[checked=true][include-hidden=false][level=2][name=\"Save\"i]"]] := by
  have hasked : buttonQuery.AskedBy buttonLookup := by
    refine .role ⟨by decide, rfl, fun p hp => ?_⟩
    cases p with
    | name => exact absurd rfl hp
    | checked | disabled | selected | expanded | includeHidden | level | pressed => rfl
  obtain ⟨-, hagree⟩ := agree_of_askedBy buttonQuery (some 0) "data-qa" 0
  have hroutes := (hagree buttonLookup hasked).1 (by decide +kernel)
  have hselector : buttonQuery.selector "data-qa" =
      "role=button[checked=true][include-hidden=false][level=2][name=\"Save\"i]" := by
    decide +kernel
  rw [hselector] at hroutes
  refine ⟨hasked, hroutes, ?_⟩
  obtain ⟨t, houtcome, -, hpages⟩ := hroutes.resolved oneOfEach rfl
  exact ⟨t, houtcome, hpages⟩

/-- Data with a level that has one digit more than may be written. -/
def overlongData : Value :=
  .map [(.text "kind", .text "role"), (.text "role", .text "a"),
    (.text "level", .int (Nat.pow 10 Number.digitLimit))]

/-- The query that these data are accepted as. -/
def overlongQuery : Query :=
  .role ⟨none, "a", none, none, none, none, none, some (Nat.pow 10 Number.digitLimit), none, none⟩

/-- There is an accepted query that has no selector, in whatever session and context. -/
theorem overlong_not_compiled :
    Check.query overlongData = .good overlongQuery ∧
      ∀ (s : Session) (c : Option ContextId) (sel : String),
        (outcome (compileQuery c overlongQuery) s).1 ≠ .ok sel := by
  have hlong : overlongQuery.isOverlong = true := by decide +kernel
  refine ⟨by decide +kernel, fun s c sel => ?_⟩
  have houtcome : outcome (compileQuery c overlongQuery) s = (.error .overlongLevel, s) := by
    rw [compileQuery, compileUnder, hlong]
    rfl
  rw [houtcome]
  intro h
  cases h

end Session

end ElementLookup
