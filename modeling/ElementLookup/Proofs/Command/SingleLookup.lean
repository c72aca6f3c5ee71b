/-
**Single lookups on the command line.**

The seven commands for single lookups and the queries of a document are two ways to say the same.
They take in what they are told each in its own way: a command has its own options and its own look
at the flags of a pattern, a query is checked field by field.  Yet once its arguments are read, a
command prints the selector of the query with these very fields, and where the flags would not be
accepted in a query, the command is refused.

Main definitions:

* `Command.textData`, `Command.roleData` — the data of the query that a command stands for;
* `Command.AcceptsFlags` — a query would accept the flags;
* `Command.Selects` — the selector of a query, in a context with an attribute of its own or in the
  shared one;
* `Command.Prints`, `Command.Refuses` — what a run comes to.

Main results:

* `Command.outcome_prepare` — setting up the delivery of records changes no context;
* `Command.agrees_of_text`, `Command.agrees_of_role` — the commands for texts and for roles;
* `Command.single_lookup_agrees` — **commands for single lookups agree with queries**.
-/

import ElementLookup.Proofs.Command.Parsing
import ElementLookup.Proofs.Number.Whole
import ElementLookup.Proofs.Query.OwnData
import ElementLookup.Proofs.Session.History
import ElementLookup.Proofs.Session.Routes

set_option autoImplicit false

namespace ElementLookup

namespace Command

/-! ### Data of queries -/

/-- The data of a pattern. -/
def patternData (source flags : String) : Value :=
  .map [(.text "pattern", .text source), (.text "flags", .text flags)]

/-- The data of a value: a text, or a pattern with its flags. -/
def valueData (value : String) (r : Reading Choice) : Value :=
  if r.isPattern then patternData value r.flags else .text value

/-- The data of the query that a command for a text stands for. -/
def textData (kind : TextKind) (value : String) (r : Reading Choice) : Value :=
  .map <| [(.text "kind", .text kind.name), (.text "value", valueData value r)]
    ++ (if kind = .testId then [] else [(.text "exact", .bool r.isExact)])

/-- The data of the query that a command for a role stands for; what is not given is null. -/
def roleData (role : String) (level : Option Int) (r : Reading Choice) : Value :=
  .map <| [(.text "kind", .text Kind.role.name), (.text "role", .text role)]
    ++ Role.Property.all.map fun p => (.text p.key, propertyValue r level p)

/-- The flags are accepted: there are none, or they belong to a pattern that a query accepts. -/
def AcceptsFlags (value : String) (r : Reading Choice) : Prop :=
  r.flags = "" ∨ r.isPattern = true ∧ ∃ p, Check.pattern (patternData value r.flags) = .good p

/-- What is read as a pattern is what a query accepts as one. -/
theorem pattern_patternData {source flags : String} {p : TextPattern} :
    Check.pattern (patternData source flags) = .good p ↔ TextPattern.make source flags = .ok p := by
  constructor
  · intro h
    obtain ⟨entries, hentries, hsource, hflags⟩ := Check.pattern_eq_good.1 h
    cases hentries
    obtain ⟨v, hv, hcheck⟩ := Check.required_eq_good.1 hsource
    cases hv
    obtain rfl : source = p.source := Checked.good.inj hcheck
    rcases Check.withDefault_eq_good.1 hflags with ⟨hnone, -⟩ | ⟨v, hv, hcheck⟩
    · exact nomatch hnone
    · cases hv
      obtain ⟨hflags, -⟩ := Check.flags_eq_good.1 hcheck
      rw [hflags]
      exact Check.make_self p
  · intro h
    obtain ⟨rfl, rfl⟩ := TextPattern.eq_of_make h
    exact Check.pattern_toValue p

/-! ### Values of texts -/

variable {r : Reading Choice} {value : String} {kind : TextKind}

/-- Flags that are accepted make a value, and it is the one of the query. -/
theorem exists_textValue (h : AcceptsFlags value r) :
    ∃ t, textValue value r.isPattern r.flags = .ok t ∧
      Check.textOrPattern (valueData value r) = .good t := by
  rw [textValue, valueData]
  cases hpattern : r.isPattern with
  | false =>
    have hflags : r.flags = "" := h.resolve_right fun hr => by simp [hpattern] at hr
    rw [if_neg Bool.false_ne_true, if_neg Bool.false_ne_true, if_pos hflags]
    exact ⟨_, rfl, rfl⟩
  | true =>
    have haccepted : ∃ p, Check.pattern (patternData value r.flags) = .good p := by
      rcases h with hflags | ⟨-, hp⟩
      · rw [hflags]
        exact ⟨⟨value, "", by decide⟩, pattern_patternData.2 rfl⟩
      · exact hp
    obtain ⟨p, hp⟩ := haccepted
    rw [if_pos rfl, if_pos rfl, pattern_patternData.1 hp]
    exact ⟨_, rfl, Check.textOrPattern_eq_good.2 (.inr ⟨⟨_, rfl⟩, p, hp, rfl⟩)⟩

/-- Flags that are not accepted are a fault of usage. -/
theorem exists_usage (h : ¬ AcceptsFlags value r) :
    ∃ u, textValue value r.isPattern r.flags = .error u := by
  rw [AcceptsFlags, not_or, not_and] at h
  obtain ⟨hflags, hpattern⟩ := h
  rw [textValue]
  cases hr : r.isPattern with
  | true =>
    rw [if_pos rfl]
    cases hmake : TextPattern.make value r.flags with
    | ok p => exact absurd ⟨p, pattern_patternData.2 hmake⟩ (hpattern hr)
    | error fault => exact ⟨_, rfl⟩
  | false =>
    rw [if_neg Bool.false_ne_true, if_neg hflags]
    exact ⟨_, rfl⟩

/-! ### Queries -/

/-- The query that a command for a text stands for. -/
def textQuery (kind : TextKind) (t : TextValue) (r : Reading Choice) : TextQuery :=
  ⟨kind, none, t, if kind = .testId then false else r.isExact⟩

/-- The lookup that a command for a text asks for. -/
def textLookup (kind : TextKind) (t : TextValue) (r : Reading Choice) : Lookup :=
  .byText kind (.textValue t) (if kind = .testId then none else some (.bool r.isExact))

theorem query_textData {t : TextValue} (h : Check.textOrPattern (valueData value r) = .good t) :
    Check.query (textData kind value r) = .good (.text (textQuery kind t r)) := by
  have hfields : ∀ entries, textData kind value r = .map entries →
      Check.textQuery kind entries = .good (textQuery kind t r) := by
    intro entries hentries
    rw [textData, Value.map.injEq] at hentries
    subst hentries
    refine Check.textQuery_eq_good.2 ⟨rfl, ?_, Check.required_of_entry rfl h, ?_⟩
    · exact Check.withDefault_eq_good.2 (.inl ⟨by cases kind <;> rfl, rfl⟩)
    · by_cases hkind : kind = .testId
      · rw [if_pos hkind, textQuery, if_pos hkind]
      · rw [if_neg hkind, if_neg hkind, textQuery, if_neg hkind]
        exact Check.withDefault_of_entry rfl rfl
  refine Check.query_eq_good.2 ⟨_, .text kind.name, rfl, rfl, Kind.ofName?_name (.text kind), ?_⟩
  exact Check.queryOfKind_eq_good.2 (.inl ⟨kind, _, rfl, rfl, hfields _ rfl⟩)

theorem askedBy_textLookup (kind : TextKind) (t : TextValue) (r : Reading Choice) :
    (Query.text (textQuery kind t r)).AskedBy (textLookup kind t r) := by
  rw [textLookup]
  by_cases hkind : kind = .testId
  · subst hkind
    exact .testId rfl rfl
  · rw [if_neg hkind]
    refine .text (q := textQuery kind t r) hkind rfl ?_
    rw [textQuery, if_neg hkind]
    rfl

/-- The query that a command for a role stands for. -/
def roleQuery (role : String) (level : Option Int) (r : Reading Choice) : RoleQuery where
  description := none
  role := role
  checked := r.state? (.property .checked)
  disabled := r.state? (.property .disabled)
  selected := r.state? (.property .selected)
  expanded := r.state? (.property .expanded)
  includeHidden := r.state? (.property .includeHidden)
  level := level
  name := (r.text? (.property .name)).map .literal
  pressed := r.state? (.property .pressed)

/-- The lookup that a command for a role asks for. -/
def roleLookup (role : String) (level : Option Int) (r : Reading Choice) : Lookup :=
  .byRole (.text role) (Role.Property.all.map fun p => (p.key, propertyValue r level p))

theorem query_roleData {role : String} {level : Option Int} (hstrip : Text.strip role = role)
    (hne : role ≠ "") (hlevel : ∀ n, level = some n → 1 ≤ n) :
    Check.query (roleData role level r) = .good (.role (roleQuery role level r)) := by
  have hwell : (roleQuery role level r).WellFormed :=
    ⟨hne, hstrip ▸ Text.unpadded_strip role, hlevel⟩
  have hfields : ∀ entries, roleData role level r = .map entries →
      Check.roleQuery entries = .good (roleQuery role level r) := by
    intro entries hentries
    rw [roleData, Value.map.injEq] at hentries
    subst hentries
    refine Check.roleQuery_of_entries hwell (Check.withDefault_eq_good.2 (.inl ⟨rfl, rfl⟩)) rfl ?_
      fun p hp => ?_
    · rw [roleQuery, Option.map_map]
      rfl
    · cases p with
      | name => exact absurd rfl hp
      | checked | disabled | selected | expanded | includeHidden | level | pressed => rfl
  refine Check.query_eq_good.2 ⟨_, .text Kind.role.name, rfl, rfl, Kind.ofName?_name .role, ?_⟩
  exact Check.queryOfKind_eq_good.2 (.inr ⟨_, rfl, rfl, hfields _ rfl⟩)

theorem askedBy_roleLookup (role : String) (level : Option Int) (r : Reading Choice) :
    (Query.role (roleQuery role level r)).AskedBy (roleLookup role level r) := by
  refine .role (q := roleQuery role level r) ⟨fun o ho => ?_, ?_, fun p hp => ?_⟩
  · obtain ⟨p, -, rfl⟩ := List.mem_map.1 ho
    exact p.isKnown_key
  · rw [Role.given_present, propertyValue, roleQuery]
    cases r.text? (.property .name) <;> rfl
  · rw [Role.given_present]
    cases p with
    | name => exact absurd rfl hp
    | checked | disabled | selected | expanded | includeHidden | level | pressed => rfl

/-! ### The delivery of records -/

/-- Setting up the delivery of records may load the settings, but changes no context. -/
theorem outcome_configure {s : Session} {settings : Settings} (h : s.available = .ok settings) :
    ∃ t, Session.outcome Session.configure s = (.ok ⟨⟩, t) ∧ t.view = s.view ∧
      t.delivering.configured = true := by
  rw [Session.configure, Session.outcome_bind_ok (Session.outcome_get s)]
  cases hconfigured : s.delivering.configured with
  | true => exact ⟨s, rfl, rfl, hconfigured⟩
  | false =>
    obtain ⟨files, loaded, hsettings, hstays⟩ := Session.outcome_settings s
    rw [h] at hsettings
    refine ⟨_, Session.outcome_bind_ok hsettings _, ?_, rfl⟩
    change Session.view { s with files := files, loaded := loaded } = s.view
    rw [Session.view, Session.view, hstays]

theorem outcome_setSeverity {s : Session} (h : s.delivering.configured = true)
    (severity : Log.Severity) :
    ∃ t, Session.outcome (Session.setSeverity severity) s = (.ok ⟨⟩, t) ∧ t.view = s.view := by
  have hconfigure : Session.outcome Session.configure s = (.ok ⟨⟩, s) := by
    rw [Session.configure, Session.outcome_bind_ok (Session.outcome_get s), h]
    rfl
  rw [Session.setSeverity, Session.outcome_bind_ok hconfigure]
  exact ⟨_, rfl, rfl⟩

/-- A run begins by setting up the delivery of records, which changes no context. -/
theorem outcome_prepare {s : Session} {settings : Settings} (h : s.available = .ok settings)
    (level : Option Log.Level) :
    ∃ t, Session.outcome (prepare level) s = (.ok ⟨⟩, t) ∧ t.view = s.view := by
  obtain ⟨t, ht, hview, hconfigured⟩ := outcome_configure h
  rw [prepare.eq_def, Session.outcome_bind_ok ht]
  cases level with
  | none => exact ⟨t, rfl, hview⟩
  | some l =>
    obtain ⟨u, hu, hsame⟩ := outcome_setSeverity hconfigured l.severity
    exact ⟨u, hu, hsame.trans hview⟩

/-! ### Lookups within a run -/

/-- What a query comes to: in a context that has the given attribute, or else in the shared context
of a session. -/
def Selects (s : Session) (own : Option String) (q : Query) (sel : String) : Prop :=
  match own with
  | some name => ∀ (t : Session) (d : ContextId), t.attributeIn d = name →
      (Session.outcome (Session.compileQuery (some d) q) t).1 = .ok sel
  | none => (Session.outcome (Session.compileQuery none q) s).1 = .ok sel

variable {q : Query} {l : Lookup} {s t : Session} {name : String}

theorem outcome_compileQuery_some (t : Session) (d : ContextId) (hshort : q.isOverlong = false) :
    Session.outcome (Session.compileQuery (some d) q) t =
      (.ok (q.selector (t.attributeIn d)), t) := by
  rw [Session.compileQuery,
    ((Session.yields_builderAttribute t d).compileUnder q).outcome_eq,
    Query.compiled_of_short hshort]

theorem selects_selector (hused : s.usedIn? none = some name) (hshort : q.isOverlong = false)
    (own : Option String) : Selects s own q (q.selector (own.getD name)) := by
  cases own with
  | some chosen =>
    intro t d hd
    rw [outcome_compileQuery_some t d hshort, hd]
    rfl
  | none =>
    obtain ⟨t, ht, -⟩ := Session.route_compileQuery none name q s hused
    rw [Selects, ht, Query.compiled_of_short hshort]
    rfl

/-- A lookup within a run comes to the selector of the query that it asks for. -/
theorem outcome_lookupSelector (h : q.AskedBy l) (hused : t.usedIn? none = some name)
    (hshort : q.isOverlong = false) (own : Option String) :
    ∃ u, Session.outcome (lookupSelector own l) t =
      (.ok (q.selector (own.getD name)), u) := by
  cases own with
  | some chosen =>
    -- the new context is the one behind the others
    let u : Session := { t with contexts := t.contexts ++ [chosen] }
    have hcontext : Session.outcome (lookupContext (some chosen)) t =
        (.ok (some t.contexts.length), u) := rfl
    have hattribute : u.attributeIn t.contexts.length = chosen := by
      rw [Session.attributeIn, List.getElem?_concat_length]
      rfl
    refine ⟨u, ?_⟩
    rw [lookupSelector, Session.outcome_bind_ok hcontext, Session.selectorOf_eq_compileQuery h,
      outcome_compileQuery_some u _ hshort, hattribute]
    rfl
  | none =>
    obtain ⟨u, hu, -⟩ := Session.route_compileQuery none name q t hused
    rw [Query.compiled_of_short hshort] at hu
    refine ⟨u, ?_⟩
    have hcontext : Session.outcome (lookupContext none) t = (.ok none, t) := rfl
    rw [lookupSelector, Session.outcome_bind_ok hcontext, Session.selectorOf_eq_compileQuery h, hu]
    rfl

/-! ### Runs -/

/-- A run ends well and prints a selector and nothing else. -/
structure Prints (s : Session) (args : List String) (sel : String) : Prop where
  exitCode : (outcome s args).exitCode = 0
  out : (outcome s args).console.out = [sel]
  err : (outcome s args).console.err = []
  /-- The selector is written as one line, of which only a terminal is given the style codes. -/
  written : ∀ terminal, Console.written terminal (outcome s args).console.out =
    (if terminal then sel else Text.withoutStyles sel) ++ "\n"
  /-- A selector without style codes is written as it is. -/
  unstyled : (∀ code, Text.IsStyle code → ¬ code <:+: sel.toList) →
    ∀ terminal, Console.written terminal (outcome s args).console.out = sel ++ "\n"

/-- A run is refused because of its usage, and prints nothing. -/
structure Refuses (s : Session) (args : List String) : Prop where
  exitCode : (outcome s args).exitCode = 2
  out : (outcome s args).console.out = []
  err : (outcome s args).console.err = []

theorem prints_of_after {args : List String} {sel : String} {c : Session}
    (h : after (run args) ⟨s, [], []⟩ = (.ok ⟨⟩, ⟨c, [sel], []⟩)) : Prints s args sel := by
  have hrun : (run args).run ⟨s, [], []⟩ = (.ok ⟨⟩, ⟨c, [sel], []⟩) := h
  have houtcome : outcome s args = ⟨none, ⟨c, [sel], []⟩⟩ := by rw [outcome, hrun]
  have hwritten : ∀ terminal, Console.written terminal (outcome s args).console.out =
      (if terminal then sel else Text.withoutStyles sel) ++ "\n" := by
    intro terminal
    rw [houtcome]
    simp [Console.written, Console.unlines, Console.shown]
  refine ⟨by rw [houtcome]; rfl, by rw [houtcome], by rw [houtcome], hwritten, ?_⟩
  intro hunstyled terminal
  rw [hwritten, Text.withoutStyles_of_unstyled hunstyled, ite_self]

theorem refuses_of_after {args : List String} {u : Usage} {c : Session}
    (h : after (run args) ⟨s, [], []⟩ = (.error (.usage u), ⟨c, [], []⟩)) : Refuses s args := by
  have houtcome := outcome_of_after h
  exact ⟨by rw [houtcome]; rfl, by rw [houtcome], by rw [houtcome]⟩

variable {args : List String} {n : Name} {settings : Settings}

/-- Who has valid settings has an attribute for the shared context. -/
theorem exists_usedIn? (havailable : s.available = .ok settings) (hsound : s.view.Sound) :
    ∃ name, s.usedIn? none = some name := by
  rw [Session.usedIn?_eq, Option.none_or]
  cases hshared : s.view.shared with
  | some d => exact ⟨_, List.getElem?_eq_getElem (hsound d hshared)⟩
  | none =>
    refine ⟨settings.testIdAttribute, ?_⟩
    rw [Session.view, havailable]
    rfl

/-- A run that asks for a lookup prints the selector of the query that is asked for. -/
theorem prints_of_request (havailable : s.available = .ok settings)
    (hused : s.usedIn? none = some name) (hparses : Parses args n r) {own : Option String}
    (hrequest : ∀ files, Request.ofReading files n r = .ok (.lookup own l)) (h : q.AskedBy l)
    (hshort : q.isOverlong = false) : Prints s args (q.selector (own.getD name)) := by
  obtain ⟨level, rest, hopening, hread⟩ := hparses.opening
  obtain ⟨t, ht, hview⟩ := outcome_prepare havailable level
  have husedt : t.usedIn? none = some name := by
    rw [Session.usedIn?_eq, hview]
    exact hused
  obtain ⟨u, hu⟩ := outcome_lookupSelector h husedt hshort own
  have hperform : after (perform n (.lookup own l)) ⟨t, [], []⟩ =
      (.ok ⟨⟩, ⟨u, [q.selector (own.getD name)], []⟩) := by
    rw [perform, after_bind, after_inSession hu]
    rfl
  refine prints_of_after (c := u) ((after_run_of_opening hopening ht).trans ?_)
  rw [read_of_reading hread hparses.quiet, hrequest]
  exact hperform

/-- A run whose request is a fault of usage is refused. -/
theorem refuses_of_request (havailable : s.available = .ok settings) (hparses : Parses args n r)
    {u : Usage} (hrequest : ∀ files, Request.ofReading files n r = .error u) :
    Refuses s args := by
  obtain ⟨level, rest, hopening, hread⟩ := hparses.opening
  obtain ⟨t, ht, -⟩ := outcome_prepare havailable level
  refine refuses_of_after (u := u) (c := t) ((after_run_of_opening hopening ht).trans ?_)
  rw [read_of_reading hread hparses.quiet, hrequest]
  rfl

/-- A run agrees with the check of data as a query: where what is wanted of the arguments holds, it
prints the selector of the query, and otherwise it is refused. -/
structure Agrees (s : Session) (args : List String) (own : Option String) (data : Value)
    (wanted : Prop) : Prop where
  printed : wanted → ∃ q sel, Check.query data = .good q ∧ Selects s own q sel ∧ Prints s args sel
  refused : ¬ wanted → Refuses s args

/-- A command for a text asks for the lookup of its value, if that can be made. -/
theorem ofReading_byText (kind : TextKind) (hvalue : r.positional = [value]) (files : Files) :
    Request.ofReading files (.byText kind) r =
      (textValue value r.isPattern r.flags).map fun t =>
        .lookup r.attribute? (textLookup kind t r) := by
  change readText kind r = _
  rw [readText, theArgument, hvalue]
  change (textValue value r.isPattern r.flags >>= _) = _
  cases textValue value r.isPattern r.flags <;> rfl

/-- A command for a text agrees with the query that has its value, provided that its flags are
accepted. -/
theorem agrees_of_text (havailable : s.available = .ok settings) (hsound : s.view.Sound)
    (hparses : Parses args (.byText kind) r) (hvalue : r.positional = [value]) :
    Agrees s args r.attribute? (textData kind value r) (AcceptsFlags value r) where
  printed haccepts := by
    obtain ⟨name, hused⟩ := exists_usedIn? havailable hsound
    obtain ⟨t, ht, hdata⟩ := exists_textValue haccepts
    have hrequest : ∀ files, Request.ofReading files (.byText kind) r =
        .ok (.lookup r.attribute? (textLookup kind t r)) := by
      intro files
      rw [ofReading_byText kind hvalue, ht]
      rfl
    exact ⟨_, _, query_textData hdata, selects_selector hused rfl r.attribute?,
      prints_of_request havailable hused hparses hrequest (askedBy_textLookup kind t r) rfl⟩
  refused hrefused := by
    obtain ⟨u, hu⟩ := exists_usage hrefused
    refine refuses_of_request havailable hparses (u := u) fun files => ?_
    rw [ofReading_byText kind hvalue, hu]
    rfl

/-- The level that a command for a role is given can be written, and is one that a query accepts. -/
theorem level_of_readHeading {level : Option Int} (h : readHeading r = .ok level) :
    level.any Number.isOverlong = false ∧ ∀ n, level = some n → 1 ≤ n := by
  rw [readHeading] at h
  cases htext : r.text? (.property .level) with
  | none =>
    rw [htext] at h
    obtain rfl : none = level := Except.ok.inj h
    exact ⟨rfl, nofun⟩
  | some s =>
    rw [htext] at h
    cases hwhole : Number.readWhole 10 s.toList with
    | none => simp [hwhole] at h
    | some n =>
      simp only [hwhole] at h
      split at h
      · rename_i hle
        obtain rfl : some n = level := Except.ok.inj h
        refine ⟨?_, fun m hm => Option.some.inj hm ▸ hle⟩
        rw [Option.any_some]
        exact Number.isOverlong_of_readWhole hwhole
      · exact nomatch h

/-- A command for a role agrees with the query that has its options, provided that the role is not
blank and has no blanks around it. -/
theorem agrees_of_role (havailable : s.available = .ok settings) (hsound : s.view.Sound)
    (hparses : Parses args .role r) {role : String} (hrole : r.positional = [role])
    {level : Option Int} (hlevel : readHeading r = .ok level) (hstrip : Text.strip role = role)
    (hne : role ≠ "") : Agrees s args none (roleData role level r) True where
  printed _ := by
    obtain ⟨name, hused⟩ := exists_usedIn? havailable hsound
    obtain ⟨hwritable, hpositive⟩ := level_of_readHeading hlevel
    have hshort : (Query.role (roleQuery role level r)).isOverlong = false := hwritable
    have hrequest : ∀ files, Request.ofReading files .role r =
        .ok (.lookup none (roleLookup role level r)) := by
      intro files
      change readRole r = _
      rw [readRole, hlevel, theArgument, hrole]
      rfl
    exact ⟨_, _, query_roleData hstrip hne hpositive, selects_selector hused hshort none,
      prints_of_request havailable hused hparses hrequest (askedBy_roleLookup role level r) hshort⟩
  refused h := absurd trivial h

/-- Commands for single lookups agree with queries. -/
theorem single_lookup_agrees (havailable : s.available = .ok settings) (hsound : s.view.Sound)
    (hparses : Parses args n r) :
    (∀ kind value, n = .byText kind → r.positional = [value] →
      Agrees s args r.attribute? (textData kind value r) (AcceptsFlags value r)) ∧
    (∀ role level, n = .role → r.positional = [role] → readHeading r = .ok level →
      Text.strip role = role → role ≠ "" → Agrees s args none (roleData role level r) True) := by
  constructor
  · rintro kind value rfl hvalue
    exact agrees_of_text havailable hsound hparses hvalue
  · rintro role level rfl hrole hlevel hstrip hne
    exact agrees_of_role havailable hsound hparses hrole hlevel hstrip hne

/-! ### Two runs -/

/-- A session in an empty directory and an empty environment. -/
def firstSession : Session :=
  Session.start (.all 9) Environment.empty (Batch.Surroundings.ofTexts []).files
    Log.Severity.warning []

theorem available_firstSession :
    firstSession.available = .ok (Batch.Surroundings.ofTexts []).settings :=
  Batch.Surroundings.available_ofTexts (List.forall_mem_nil _) _ _

theorem sound_firstSession : firstSession.view.Sound := fun _ hc => nomatch hc

/-- Arguments that ask for a pattern in an attribute of their own. -/
def patternArgs : List String :=
  ["test-id", "--attribute", "data-qa", "--regex", "sa.e", "--flags=im"]

/-- Their reading. -/
def patternReading : Reading Choice :=
  ⟨[(.idAttribute, .text "data-qa"), (.regex, .state true), (.flags, .text "im")], ["sa.e"]⟩

theorem parses_patternArgs : Parses patternArgs (.byText .testId) patternReading :=
  ⟨⟨none, _, opening_read (.byText .testId) _, by rfl⟩, rfl⟩

/-- The statement for these arguments. -/
theorem single_lookup_agrees_pattern :
    Check.query (textData .testId "sa.e" patternReading) =
      .good (.text ⟨.testId, none, .pattern ⟨"sa.e", "im", by decide⟩, false⟩) ∧
    Prints firstSession patternArgs "internal:attr=[data-qa=/sa.e/im]" := by
  obtain ⟨htext, -⟩ :=
    single_lookup_agrees available_firstSession sound_firstSession parses_patternArgs
  have haccepts : AcceptsFlags "sa.e" patternReading :=
    .inr ⟨rfl, ⟨"sa.e", "im", by decide⟩, pattern_patternData.2 rfl⟩
  obtain ⟨q, sel, hq, hselects, hprints⟩ := (htext .testId "sa.e" rfl rfl).printed haccepts
  have hdata : Check.query (textData .testId "sa.e" patternReading) =
      .good (.text ⟨.testId, none, .pattern ⟨"sa.e", "im", by decide⟩, false⟩) := by decide +kernel
  refine ⟨hdata, ?_⟩
  obtain rfl := Checked.good.inj (hdata.symm.trans hq)
  have hsel : Except.ok "internal:attr=[data-qa=/sa.e/im]" = Except.ok sel :=
    hselects Session.oneOfEach 0 rfl
  rwa [← Except.ok.inj hsel] at hprints

/-- Arguments that ask for a text with a style code in it. -/
def styledArgs : List String := ["text", "\x1b[31mred"]

/-- The selector of a query with a style code is not written as it is, unless to a terminal. -/
theorem style_code_not_written :
    ∃ q, Check.query (textData .text "\x1b[31mred" ⟨[], ["\x1b[31mred"]⟩) = .good q ∧
      Selects firstSession none q "text=\x1b[31mred" ∧
      Prints firstSession styledArgs "text=\x1b[31mred" ∧
      Console.written false (outcome firstSession styledArgs).console.out = "text=red\n" := by
  have hparses : Parses styledArgs (.byText .text) ⟨[], ["\x1b[31mred"]⟩ :=
    ⟨⟨none, _, opening_read (.byText .text) _, by rfl⟩, rfl⟩
  obtain ⟨q, sel, hq, hselects, hprints⟩ :=
    (agrees_of_text available_firstSession sound_firstSession hparses rfl).printed (.inl rfl)
  have hdata : Check.query (textData .text "\x1b[31mred" ⟨[], ["\x1b[31mred"]⟩) =
      .good (.text ⟨.text, none, .literal "\x1b[31mred", false⟩) := by decide +kernel
  obtain rfl := Checked.good.inj (hdata.symm.trans hq)
  have hsel : Except.ok "text=\x1b[31mred" = Except.ok sel := hselects
  obtain rfl := Except.ok.inj hsel
  refine ⟨_, hdata, hselects, hprints, (hprints.written false).trans ?_⟩
  decide

end Command

end ElementLookup
