/-
**What depends on configuration.**

A session is configured by its environment, by the files that it finds, by the settings once they
are loaded, and by its contexts, as whoever wrote to them left them.  Answers hardly depend on that.
A lookup by test id depends on the attribute of its context; given a context, it depends on nothing
else.  No other lookup depends on configuration at all, nor does a document that brings its own
attribute or has no query by test id.  None of these loads the settings, so settings that are not
valid do no harm.

These are statements about two runs: a step that is run under another configuration, perhaps with
another context, comes to the same, and leaves that other configuration as it was.  They are shown
for the smallest steps and carried over to those that are put together.

Main definitions:

* `Configuration`, `Session.under` — what configures a session, and a session under another one;
* `Session.DependsOn` — of all that configures a session, a step depends on one thing at most;
* `Session.Ignores` — a step does not depend on configuration;
* `QueryDocument.IsSelfContained` — a document does not need the attribute of a context;
* `QueryDocument.Unconfigured`, `Lookup.Unconfigured`, `Lookup.ConfiguredByAttribute` — the three
  cases.

Main results:

* `Session.DependsOn.bind` — steps one after the other;
* `Session.configuration_only_for_testId` — **only lookups by test id depend on configuration**, and
  with a context of their own on its attribute alone.
-/

import ElementLookup.Proofs.Query.LoadOutcome
import ElementLookup.Proofs.Session.Routes

set_option autoImplicit false

namespace ElementLookup

/-! ### Configurations -/

/-- What configures a session: environment and files, settings if they are loaded, and contexts with
what was written to them. -/
structure Configuration where
  environment : Environment
  files : Files
  loaded : Option Settings
  contexts : List String
  shared : Option ContextId

/-- The attribute of a context. -/
def Configuration.attributeIn (k : Configuration) (c : ContextId) : String :=
  (k.contexts[c]?).getD defaultTestIdAttribute

/-- The kind of a lookup. -/
def Lookup.kind : Lookup → Kind
  | .byText kind _ _ => .text kind
  | .byRole _ _ => .role

theorem Query.AskedBy.kind {q : Query} {l : Lookup} (h : q.AskedBy l) : l.kind = q.kind := by
  cases h with
  | testId hkind => exact congrArg Kind.text hkind.symm
  | text => rfl
  | role => rfl

namespace Session

/-- What configures a session. -/
def configuration (s : Session) : Configuration :=
  ⟨s.environment, s.files, s.loaded, s.contexts, s.shared⟩

/-- A session under another configuration. -/
def under (s : Session) (k : Configuration) : Session :=
  { s with
    environment := k.environment
    files := k.files
    loaded := k.loaded
    contexts := k.contexts
    shared := k.shared }

@[simp] theorem under_configuration (s : Session) : s.under s.configuration = s := rfl

@[simp] theorem configuration_under (s : Session) (k : Configuration) :
    (s.under k).configuration = k := rfl

/-- Whether a note is delivered does not depend on configuration. -/
theorem heard_under (s : Session) (k : Configuration) (n : Log.Note) :
    (s.under k).heard n = (s.heard n).under k := by
  have hhears : (s.under k).hears n = s.hears n := rfl
  rw [heard, heard, hhears]
  split <;> rfl

/-! ### Two runs -/

variable {ι α β δ : Type}

/-- Of all that configures a session, a step depends on one thing at most, which it looks for in its
own place: wherever that is the same, so is what the step comes to and does, and it leaves the
configuration as it is. -/
def DependsOn (read : ι → Configuration → δ) (step : ι → SessionM α) : Prop :=
  ∀ (i j : ι) (s : Session) (k : Configuration), read i s.configuration = read j k →
    outcome (step j) (s.under k) = ((outcome (step i) s).1, (outcome (step i) s).2.under k)

/-- A step does not depend on configuration. -/
def Ignores (step : ι → SessionM α) : Prop := DependsOn (fun _ _ => ()) step

variable {read : ι → Configuration → δ}

/-- Such a step leaves the configuration as it is. -/
theorem DependsOn.configuration {step : ι → SessionM α} (h : DependsOn read step) (i : ι)
    (s : Session) : (outcome (step i) s).2.configuration = s.configuration := by
  have hself := congrArg Prod.snd (h i i s s.configuration rfl)
  rw [under_configuration] at hself
  rw [hself, configuration_under]

theorem DependsOn.pure (a : α) : DependsOn read fun _ => (pure a : SessionM α) :=
  fun _ _ _ _ _ => rfl

theorem DependsOn.throw (fault : Fault) : DependsOn read fun _ => (throw fault : SessionM α) :=
  fun _ _ _ _ _ => rfl

theorem DependsOn.emit (n : Log.Note) : DependsOn read fun _ => emit n :=
  fun _ _ s k _ => congrArg (Prod.mk _) (heard_under s k n)

/-- Between one step and the next, what they depend on does not change. -/
theorem DependsOn.bind {x : ι → SessionM α} {f : ι → α → SessionM β} (hx : DependsOn read x)
    (hf : ∀ a, DependsOn read fun i => f i a) : DependsOn read fun i => x i >>= f i := by
  intro i j s k hk
  have hrun := hx i j s k hk
  rw [← hx.configuration i s] at hk
  rw [outcome_bind, outcome_bind, hrun]
  rcases hxs : outcome (x i) s with ⟨fault | a, t⟩
  · rfl
  · rw [hxs] at hk
    exact hf a i j t k hk

/-- A step that always comes to the same and changes nothing does not depend on configuration. -/
theorem Ignores.of_outcome {step : ι → SessionM α} {result : Except Fault α}
    (h : ∀ i s, outcome (step i) s = (result, s)) : Ignores step := by
  intro i j s k _
  rw [h, h]

/-! ### Lookups -/

/-- The attribute of a context is a thing to depend on. -/
theorem dependsOn_builderAttribute :
    DependsOn (fun d k => k.attributeIn d) fun d => builderAttribute (some d) :=
  fun _ _ s k hk => congrArg (fun name => (Except.ok name, s.under k)) hk.symm

theorem dependsOn_locate (p : PageId) (sel : String) : DependsOn read fun _ => locate p sel :=
  .bind (.emit _) fun _ => .bind (fun _ _ _ _ _ => rfl) fun _ => .pure _

theorem dependsOn_put (u : Use) (sel : String) : DependsOn read fun _ => put u sel := by
  cases u with
  | answer => exact .pure _
  | page p => exact dependsOn_locate p sel
  | none => exact .throw _

variable {c : ι → Option ContextId} {l : Lookup}

/-- A lookup depends on what the attribute depends on, if it asks for it. -/
theorem dependsOn_compile {idAttribute : ι → SessionM String}
    (h : l.kind = .text .testId → DependsOn read idAttribute) :
    DependsOn read fun i => l.compile (idAttribute i) := by
  simp only [Lookup.compile.eq_def]
  split
  · exact .pure _
  · cases l with
    | byRole role options => exact .pure _
    | byText kind value exact =>
      by_cases hkind : kind = .testId
      · subst hkind
        exact (h rfl).bind fun _ => .pure _
      · simp only [TextKind.attributeFor_of_ne hkind]
        exact .bind (.pure _) fun _ => .pure _

/-- What a lookup comes to is answered or thrown. -/
theorem dependsOn_answer {x : ι → SessionM (Except LookupFault String)} (hx : DependsOn read x) :
    DependsOn read fun i => (do
      match ← x i with
      | .ok sel => return sel
      | .error fault => throw (.lookup fault) : SessionM String) := by
  refine hx.bind fun result => ?_
  cases result with
  | ok sel => exact .pure sel
  | error fault => exact .throw _

theorem dependsOn_answer_unless (long : Bool) {x : ι → SessionM (Except LookupFault String)}
    (hx : DependsOn read x) :
    DependsOn read fun i => (do
      if long then throw .overlongLevel
      match ← x i with
      | .ok sel => return sel
      | .error fault => throw (.lookup fault) : SessionM String) := by
  split
  · exact (DependsOn.throw _).bind fun _ => dependsOn_answer hx
  · exact dependsOn_answer hx

theorem dependsOn_selectorOf
    (h : l.kind = .text .testId → DependsOn read fun i => builderAttribute (c i)) :
    DependsOn read fun i => selectorOf (c i) l := by
  have hanswer := dependsOn_answer_unless l.isOverlong (dependsOn_compile h)
  simp only [selectorOf]
  cases l.note? with
  | none => exact hanswer
  | some n => exact (DependsOn.emit n).bind fun _ => hanswer

/-- The use that a builder makes of selectors depends on nothing more. -/
theorem dependsOn_lookup
    (h : l.kind = .text .testId → DependsOn read fun i => builderAttribute (c i)) (u : Use) :
    DependsOn read fun i => lookup ⟨u, c i⟩ l :=
  (dependsOn_selectorOf h).bind fun sel => dependsOn_put u sel

/-! ### Queries -/

/-- Only a query by test id asks for the attribute. -/
theorem compileUnder_of_ne {q : Query} (h : q.kind ≠ .text .testId) (x y : SessionM String) :
    compileUnder x q = compileUnder y q := by
  rw [compileUnder, compileUnder]
  cases q with
  | role q => rfl
  | text q =>
    have hkind : q.kind ≠ .testId := fun hq => h (congrArg Kind.text hq)
    rw [Query.compile, Query.compile, TextKind.attributeFor_of_ne hkind,
      TextKind.attributeFor_of_ne hkind]

/-- A query that is not by test id comes to the same under every attribute, and nothing changes. -/
theorem outcome_compileUnder_of_ne {q : Query} (h : q.kind ≠ .text .testId) (x : SessionM String)
    (name : String) (s : Session) : outcome (compileUnder x q) s = (q.compiled name, s) := by
  rw [compileUnder_of_ne h x (pure name)]
  exact ((Yields.pure name).compileUnder q).outcome_eq

end Session

/-- A document does not need the attribute of a context: it has one of its own, or no query by test
id. -/
def QueryDocument.IsSelfContained (d : QueryDocument) : Prop :=
  d.testIdAttribute.isSome = true ∨ ∀ q ∈ d.queries, q.kind ≠ .text .testId

namespace Session

/-- Such a document comes to the same under every attribute, and nothing changes. -/
theorem outcome_compileDocument {d : QueryDocument} (h : d.IsSelfContained)
    (c : Option ContextId) (s : Session) :
    outcome (compileDocument c d) s =
      (d.queries.mapM (Query.compiled (d.testIdAttribute.getD "")), s) := by
  refine Yields.outcome_eq (Yields.mapM fun q hq => ?_)
  rw [QueryDocument.attributeOr]
  rcases hown : d.testIdAttribute with _ | own
  · rintro _ rfl
    have hkind := (h.resolve_left (by simp [hown])) q hq
    exact ⟨_, outcome_compileUnder_of_ne hkind _ _ _, rfl⟩
  · exact (Yields.pure own).compileUnder q

end Session

/-! ### The three cases -/

open Session

/-- A document does not depend on configuration. -/
structure QueryDocument.Unconfigured (d : QueryDocument) : Prop where
  /-- Whatever the configuration and the context, it comes to the same. -/
  ignores : Ignores fun c => compileDocument c d
  /-- That is a list of selectors, and nothing changes. -/
  supported : (∀ q ∈ d.queries, q.isOverlong = false) →
    ∃ sels, ∀ c s, outcome (compileDocument c d) s = (.ok sels, s)
  /-- Only a level that cannot be written is a fault. -/
  refused : (∃ q ∈ d.queries, q.isOverlong = true) →
    ∀ c s, outcome (compileDocument c d) s = (.error .overlongLevel, s)

/-- A lookup does not depend on configuration. -/
structure Lookup.Unconfigured (l : Lookup) : Prop where
  /-- Whatever the configuration and the context, it comes to the same. -/
  ignores : Ignores fun c => selectorOf c l
  /-- So it does through a builder, whatever use that makes of selectors. -/
  answer : ∀ u, Ignores fun c => lookup ⟨u, c⟩ l
  /-- If it asks what a query says, it comes to a selector, and nothing changes. -/
  supported : ∀ q : Query, q.AskedBy l → q.isOverlong = false →
    ∃ sel, ∀ c s, outcome (selectorOf c l) s = (.ok sel, s)

/-- With a context of its own, a lookup depends on the attribute of that context alone. -/
structure Lookup.ConfiguredByAttribute (l : Lookup) : Prop where
  /-- Wherever a context has the same attribute, the lookup comes to the same. -/
  dependsOn : DependsOn (fun d k => k.attributeIn d) fun d => selectorOf (some d) l
  /-- So it does through a builder, whatever use that makes of selectors. -/
  answer : ∀ u, DependsOn (fun d k => k.attributeIn d) fun d => lookup ⟨u, some d⟩ l
  /-- If it asks what a query says, it comes to a selector, and nothing changes. -/
  supported : ∀ q : Query, q.AskedBy l → q.isOverlong = false → ∀ d s,
    outcome (selectorOf (some d) l) s = (.ok (q.selector (s.attributeIn d)), s)

theorem QueryDocument.IsSelfContained.unconfigured {d : QueryDocument} (h : d.IsSelfContained) :
    d.Unconfigured where
  ignores := .of_outcome (outcome_compileDocument h)
  supported hshort := by
    refine ⟨d.queries.map fun q => q.selector (d.testIdAttribute.getD ""), fun c s => ?_⟩
    rw [outcome_compileDocument h, Query.mapM_compiled_of_short hshort]
  refused hlong c s := by
    rw [outcome_compileDocument h, Query.mapM_compiled_of_overlong hlong]

theorem Lookup.unconfigured_of_ne {l : Lookup} (h : l.kind ≠ .text .testId) : l.Unconfigured where
  ignores := dependsOn_selectorOf fun hkind => (h hkind).elim
  answer := dependsOn_lookup fun hkind => (h hkind).elim
  supported q hq hshort := by
    refine ⟨q.selector "", fun c s => ?_⟩
    rw [selectorOf_eq_compileQuery hq, compileQuery,
      outcome_compileUnder_of_ne (hq.kind ▸ h) _ "", Query.compiled_of_short hshort]

theorem Lookup.configuredByAttribute (l : Lookup) : l.ConfiguredByAttribute where
  dependsOn := dependsOn_selectorOf fun _ => dependsOn_builderAttribute
  answer := dependsOn_lookup fun _ => dependsOn_builderAttribute
  supported q hq hshort d s := by
    rw [selectorOf_eq_compileQuery hq, compileQuery,
      ((yields_builderAttribute s d).compileUnder q).outcome_eq, Query.compiled_of_short hshort]

namespace Session

/-- Documents that need no context and lookups that are not by test id do not depend on
configuration, and lookups by test id that have a context depend on its attribute alone. -/
theorem configuration_only_for_testId {d : QueryDocument} {l : Lookup} (hd : d.IsSelfContained)
    (hl : l.kind ≠ .text .testId) (value : Value) (exact : Option Value) :
    d.Unconfigured ∧ l.Unconfigured ∧
      (Lookup.byText .testId value exact).ConfiguredByAttribute :=
  ⟨hd.unconfigured, Lookup.unconfigured_of_ne hl, Lookup.configuredByAttribute _⟩

/-- A document with an attribute of its own and a query by test id. -/
def ownedDocument : QueryDocument :=
  ⟨"1", none, some "data-qa", [.text ⟨.testId, none, .literal "save", false⟩]⟩

/-- A session whose environment asks for a level that does not exist. -/
def misconfigured : Session :=
  start (.all 9) ⟨[("LOG_LEVEL", "LOUD")]⟩ ⟨.directory [], ⟨.root, []⟩⟩ Log.Severity.warning []

theorem available_misconfigured :
    misconfigured.available =
      .error (.invalid [⟨["LOG_LEVEL"], .notOneOf (Log.Level.all.map Log.Level.name)⟩]) := by
  have hnode : misconfigured.files.node? environmentFile = .error .missing := by
    rw [QueryFile.node?_of_names (by simp [environmentFile])]
    rfl
  refine available_of_unread rfl ?_
  rw [readSettings, fileVariables, hnode]
  rfl

/-- The statement for a document, a lookup by role and one by test id; the document has its selector
although there are no settings to be had. -/
theorem configuration_only_for_testId_misconfigured :
    ownedDocument.Unconfigured ∧ buttonLookup.Unconfigured ∧
      (Lookup.byText .testId (.text "save") none).ConfiguredByAttribute ∧
      misconfigured.available.isOk = false ∧
      outcome (compileDocument none ownedDocument) misconfigured =
        (.ok ["internal:attr=[data-qa=\"save\"]"], misconfigured) := by
  have hself : ownedDocument.IsSelfContained := .inl rfl
  have hkind : buttonLookup.kind ≠ .text .testId := by decide
  obtain ⟨hdocument, hrole, htestId⟩ :=
    configuration_only_for_testId hself hkind (.text "save") none
  refine ⟨hdocument, hrole, htestId, ?_, ?_⟩
  · rw [available_misconfigured]
    rfl
  · rw [outcome_compileDocument hself]
    exact congrArg (fun result => (result, misconfigured)) (by decide +kernel)

/-- Data of a document with one query, whose level has too many digits. -/
def overlongDocumentData : Value := .map [(.text "queries", .list [overlongData])]

/-- The document that these data are accepted as. -/
def overlongDocument : QueryDocument := ⟨"1", none, none, [overlongQuery]⟩

/-- An accepted document without a query by test id may still come to nothing. -/
theorem overlong_document_refused :
    Check.document overlongDocumentData = .good overlongDocument ∧
      overlongDocument.IsSelfContained ∧
      ∀ c s, outcome (compileDocument c overlongDocument) s = (.error .overlongLevel, s) := by
  have hself : overlongDocument.IsSelfContained := .inr (by decide)
  refine ⟨by decide +kernel, hself, hself.unconfigured.refused ⟨overlongQuery, ?_, ?_⟩⟩
  · exact List.mem_singleton_self _
  · decide +kernel

end Session

end ElementLookup
