/-
**What steps do to contexts.**

Steps that answer a lookup, a query or a document change records and pages, but of contexts they do
one thing at most: they open the shared context, if there is none yet and its attribute is asked
for.  It begins with the attribute that the settings name, and is the one that is used from then on.
Only three steps do more: a new context is added behind the others, and two steps set an attribute.

Main definitions:

* `Contexts`, `Session.view` — what a session knows of contexts;
* `Contexts.opened` — the contexts with the shared one opened;
* `Session.Reads` — steps that at most open the shared context;
* `Session.contextFor` — the context that is used if perhaps none is given.

Main results:

* `Session.outcome_contextOr`, `Session.outcome_applyAttribute` — who needs the shared context opens
  it;
* `Session.Reads.bind`, `Session.Reads.mapM` — reading steps may be put together;
* `Session.reads_lookup`, `Session.reads_compileQuery`, `Session.reads_compileDocument`,
  `Session.reads_resolve` — **answers change no context**.
-/

import ElementLookup.Proofs.Session.Outcome

set_option autoImplicit false

namespace ElementLookup

/-! ### Contexts -/

/-- What a session knows of contexts: their attributes, the shared one, and the attribute that the
shared one begins with, if the settings are to be had. -/
structure Contexts where
  attributes : List String
  shared : Option ContextId
  first? : Option String
  deriving DecidableEq, Repr

namespace Contexts

/-- The contexts with a new one behind the others. -/
def add (v : Contexts) (name : String) : Contexts :=
  { v with attributes := v.attributes ++ [name] }

/-- The contexts with an attribute set. -/
def set (v : Contexts) (c : ContextId) (name : String) : Contexts :=
  { v with attributes := v.attributes.set c name }

/-- The contexts with the attribute of the given or the shared one set. -/
def write (v : Contexts) (c : Option ContextId) (name : String) : Contexts :=
  match c.or v.shared with
  | some d => v.set d name
  | none => v

/-- The contexts with a new one that is the shared one. -/
def share (v : Contexts) (name : String) : Contexts :=
  { v.add name with shared := some v.attributes.length }

/-- The contexts with the shared one opened, if there is none yet and it can be. -/
def opened (v : Contexts) : Contexts :=
  match v.shared, v.first? with
  | none, some name => v.share name
  | _, _ => v

theorem opened_of_shared {v : Contexts} {c : ContextId} (h : v.shared = some c) :
    v.opened = v := by
  rw [opened, h]

theorem opened_of_first?_none {v : Contexts} (h : v.first? = none) : v.opened = v := by
  rw [opened, h]
  cases v.shared with
  | none | some c => rfl

theorem opened_of_first? {v : Contexts} {name : String} (h : v.shared = none)
    (hfirst : v.first? = some name) :
    v.opened = v.share name := by
  rw [opened, h, hfirst]

/-- Either there is nothing to open, or nothing to open it with, or it is opened. -/
theorem opened_cases (v : Contexts) :
    (v.opened = v ∧ (v.shared = none → v.first? = none)) ∨
      ∃ name, v.shared = none ∧ v.first? = some name ∧ v.opened = v.share name := by
  cases hshared : v.shared with
  | some c => exact .inl ⟨opened_of_shared hshared, fun h => nomatch h⟩
  | none =>
    cases hfirst : v.first? with
    | none => exact .inl ⟨opened_of_first?_none hfirst, fun _ => rfl⟩
    | some name => exact .inr ⟨name, rfl, rfl, opened_of_first? hshared hfirst⟩

/-- The shared context is missing only if there are no settings. -/
theorem first?_of_opened {v : Contexts} (h : v.opened.shared = none) : v.first? = none := by
  rcases v.opened_cases with ⟨heq, hfirst⟩ | ⟨name, -, -, heq⟩
  · rw [heq] at h
    exact hfirst h
  · rw [heq] at h
    exact nomatch h

@[simp] theorem opened_first? (v : Contexts) : v.opened.first? = v.first? := by
  rcases v.opened_cases with ⟨h, -⟩ | ⟨name, -, -, h⟩
  · rw [h]
  · rw [h]
    rfl

/-- The shared context is opened once. -/
@[simp] theorem opened_opened (v : Contexts) : v.opened.opened = v.opened := by
  rcases v.opened_cases with ⟨h, -⟩ | ⟨name, -, -, h⟩
  · rw [h, h]
  · rw [h]
    exact opened_of_shared rfl

end Contexts

namespace Session

variable {α β : Type}

/-- What a session knows of contexts. -/
def view (s : Session) : Contexts :=
  ⟨s.contexts, s.shared, s.available.toOption.map Settings.testIdAttribute⟩

@[simp] theorem view_heard (s : Session) (n : Log.Note) : (s.heard n).view = s.view := by
  obtain ⟨ds, h⟩ := s.heard_eq n
  rw [h]
  rfl

theorem attributeIn_eq (s : Session) (c : ContextId) :
    s.attributeIn c = (s.view.attributes[c]?).getD defaultTestIdAttribute := rfl

/-! ### The context that is used -/

/-- The context that is used: the given one, or the shared one, which is opened if need be and is
then the one behind the others. -/
def contextFor (s : Session) (c : Option ContextId) : Except Fault ContextId :=
  match c.or s.shared with
  | some c => .ok c
  | none => (fun _ => s.contexts.length) <$> s.available

theorem contextFor_of_or {s : Session} {c : Option ContextId} {d : ContextId}
    (h : c.or s.shared = some d) : s.contextFor c = .ok d := by
  rw [contextFor, h]

/-- A context that is at hand is given out without further ado. -/
theorem outcome_contextOr_of_or {s : Session} {c : Option ContextId} {d : ContextId}
    (h : c.or s.shared = some d) : outcome (contextOr c) s = (.ok d, s) := by
  cases c with
  | some c => exact congrArg (fun d => (Except.ok d, s)) (Option.some.inj h)
  | none =>
    rw [Option.none_or] at h
    rw [contextOr, defaultContext, outcome_bind_ok (outcome_get s), h]
    rfl

/-- Who needs the shared context opens it. -/
theorem outcome_defaultContext (s : Session) :
    ∃ t, outcome defaultContext s = (s.contextFor none, t) ∧ t.view = s.view.opened := by
  cases hshared : s.shared with
  | some c =>
    have hc : (none : Option ContextId).or s.shared = some c := by rw [Option.none_or, hshared]
    refine ⟨s, ?_, (Contexts.opened_of_shared hshared).symm⟩
    rw [contextFor_of_or hc]
    exact outcome_contextOr_of_or hc
  | none =>
    obtain ⟨files, loaded, hsettings, hstays⟩ := outcome_settings s
    have hview : view { s with files := files, loaded := loaded } = s.view := by
      rw [view, view, hstays]
    rw [defaultContext, outcome_bind_ok (outcome_get s), contextFor, Option.none_or, hshared]
    dsimp only
    cases havailable : s.available with
    | error fault =>
      rw [havailable] at hsettings
      have hfirst : s.view.first? = none := by rw [view, havailable]; rfl
      exact ⟨_, outcome_bind_error hsettings _,
        hview.trans (Contexts.opened_of_first?_none hfirst).symm⟩
    | ok settings =>
      rw [havailable] at hsettings
      have hfirst : s.view.first? = some settings.testIdAttribute := by
        rw [view, havailable]; rfl
      refine ⟨_, outcome_bind_ok hsettings _, ?_⟩
      rw [Contexts.opened_of_first? hshared hfirst, ← hview]
      rfl

/-- A context to be used is missing only if none is given and the shared one cannot be opened. -/
theorem contextFor_toOption (c : Option ContextId) (s : Session) :
    (s.contextFor c).toOption = c.or s.view.opened.shared := by
  cases c with
  | some c => rfl
  | none =>
    rw [contextFor, Option.none_or, Option.none_or]
    cases hshared : s.shared with
    | some d => rw [Contexts.opened_of_shared (v := s.view) hshared]; exact hshared.symm
    | none =>
      cases havailable : s.available with
      | error fault =>
        rw [Contexts.opened_of_first?_none (by rw [view, havailable]; rfl)]
        exact hshared.symm
      | ok settings =>
        rw [Contexts.opened_of_first? (v := s.view) hshared (by rw [view, havailable]; rfl)]
        rfl

/-- Afterwards the context that is used is the given one or the shared one, if there is any. -/
theorem outcome_contextOr (c : Option ContextId) (s : Session) :
    ∃ t, outcome (contextOr c) s = (s.contextFor c, t) ∧
      t.view = (if c = none then s.view.opened else s.view) ∧
      c.or t.shared = (s.contextFor c).toOption := by
  cases c with
  | none =>
    obtain ⟨t, houtcome, hview⟩ := outcome_defaultContext s
    refine ⟨t, houtcome, hview, ?_⟩
    rw [contextFor_toOption, ← hview]
    rfl
  | some c => exact ⟨s, rfl, rfl, rfl⟩

/-! ### Steps that set an attribute -/

theorem view_tellRegistry (r : RegistryId) (name : String) (s : Session) :
    (outcome (tellRegistry r name) s).2.view = s.view := by
  rw [outcome_tellRegistry]
  cases s.registries[r]? with
  | none => rfl
  | some registry => dsimp only; split <;> rfl

/-- The attribute of the given or the shared context is set, whatever the registry says to it, and
that context is the answer. -/
theorem outcome_applyAttribute (name : String) (c : Option ContextId) (r : Option RegistryId)
    (s : Session) :
    ∃ answer t, outcome (applyAttribute name c r) s = (answer, t) ∧
      t.view = (if c = none then s.view.opened else s.view).write c name ∧
      ∀ d, answer = .ok d → c.or t.shared = some d := by
  obtain ⟨t, hcontext, hview, hused⟩ := outcome_contextOr c s
  rw [← hview, Contexts.write, show t.view.shared = t.shared from rfl, hused, applyAttribute]
  cases hfor : s.contextFor c with
  | error fault =>
    rw [hfor] at hcontext
    exact ⟨_, t, outcome_bind_error hcontext _, rfl, nofun⟩
  | ok d =>
    rw [hfor] at hcontext hused
    rw [outcome_bind_ok hcontext, outcome_bind_ok (outcome_setAttribute d name t)]
    have hset := view_heard (t.withAttribute d name) (attributeNote (t.attributeIn d) name)
    generalize (t.withAttribute d name).heard (attributeNote (t.attributeIn d) name) = u at hset
    have hsame : ∀ w : Session, w.view = u.view → c.or w.shared = some d := by
      intro w hw
      rw [show w.shared = t.shared from congrArg Contexts.shared (hw.trans hset)]
      exact hused
    cases r with
    | none => exact ⟨.ok d, u, rfl, hset, fun _ h => by cases h; exact hsame u rfl⟩
    | some r =>
      have htell := view_tellRegistry r name u
      dsimp only
      rw [outcome_bind]
      rcases htold : outcome (tellRegistry r name) u with ⟨fault | ⟨⟩, w⟩ <;> rw [htold] at htell
      · exact ⟨.error fault, w, rfl, htell.trans hset, nofun⟩
      · exact ⟨.ok d, w, rfl, htell.trans hset, fun _ h => by cases h; exact hsame w htell⟩

theorem view_applyAttribute (name : String) (c : Option ContextId) (r : Option RegistryId)
    (s : Session) :
    (outcome (applyAttribute name c r) s).2.view =
      (if c = none then s.view.opened else s.view).write c name := by
  obtain ⟨answer, t, houtcome, hview, -⟩ := outcome_applyAttribute name c r s
  rw [houtcome, hview]

/-! ### Steps that read -/

/-- Steps that do nothing to contexts but open the shared one, if there is none. -/
def Reads (step : SessionM α) : Prop :=
  ∀ s, (outcome step s).2.view = s.view ∨ (outcome step s).2.view = s.view.opened

theorem Reads.of_view {step : SessionM α} (h : ∀ s, (outcome step s).2.view = s.view) :
    Reads step :=
  fun s => .inl (h s)

theorem Reads.pure (a : α) : Reads (pure a : SessionM α) := .of_view fun _ => rfl

theorem Reads.throw (fault : Fault) : Reads (throw fault : SessionM α) := .of_view fun _ => rfl

theorem Reads.emit (n : Log.Note) : Reads (emit n) := .of_view fun s => s.view_heard n

/-- The shared context is opened by one of two steps at most. -/
theorem Reads.bind {x : SessionM α} {f : α → SessionM β} (hx : Reads x) (hf : ∀ a, Reads (f a)) :
    Reads (x >>= f) := by
  intro s
  have hs := hx s
  rw [outcome_bind]
  rcases hxs : outcome x s with ⟨fault | a, t⟩
  · rw [hxs] at hs
    exact hs
  · rw [hxs] at hs
    dsimp only at hs ⊢
    rcases hs with hs | hs <;> rcases hf a t with ht | ht <;> simp [hs, ht]

theorem Reads.mapM {f : α → SessionM β} (hf : ∀ a, Reads (f a)) (l : List α) :
    Reads (l.mapM f) := by
  induction l with
  | nil => exact .pure []
  | cons a r ih =>
    rw [List.mapM_cons]
    exact (hf a).bind fun b => ih.bind fun bs => .pure (b :: bs)

theorem reads_contextOr (c : Option ContextId) : Reads (contextOr c) := by
  intro s
  obtain ⟨t, houtcome, hview, -⟩ := outcome_contextOr c s
  rw [houtcome, hview]
  split
  · exact .inr rfl
  · exact .inl rfl

theorem reads_builderAttribute (c : Option ContextId) : Reads (builderAttribute c) :=
  (reads_contextOr c).bind fun _ => .of_view fun _ => rfl

theorem reads_attributeFor (kind : TextKind) {idAttribute : SessionM String}
    (h : Reads idAttribute) : Reads (kind.attributeFor idAttribute) := by
  rw [TextKind.attributeFor]
  split
  · exact h
  · exact .pure ""

theorem reads_compile (l : Lookup) {idAttribute : SessionM String} (h : Reads idAttribute) :
    Reads (l.compile idAttribute) := by
  rw [Lookup.compile.eq_def]
  split
  · exact .pure _
  · cases l with
    | byText kind value exact => exact (reads_attributeFor kind h).bind fun _ => .pure _
    | byRole role options => exact .pure _

/-- What a lookup comes to is answered or thrown. -/
theorem reads_answer {x : SessionM (Except LookupFault String)} (hx : Reads x) :
    Reads (do
      match ← x with
      | .ok sel => return sel
      | .error fault => throw (.lookup fault) : SessionM String) := by
  refine hx.bind fun result => ?_
  cases result with
  | ok sel => exact .pure sel
  | error fault => exact .throw _

theorem reads_answer_unless (long : Bool) {x : SessionM (Except LookupFault String)}
    (hx : Reads x) :
    Reads (do
      if long then throw .overlongLevel
      match ← x with
      | .ok sel => return sel
      | .error fault => throw (.lookup fault) : SessionM String) := by
  split
  · exact (Reads.throw _).bind fun _ => reads_answer hx
  · exact reads_answer hx

theorem reads_selectorOf (c : Option ContextId) (l : Lookup) : Reads (selectorOf c l) := by
  have hanswer := reads_answer_unless l.isOverlong (reads_compile l (reads_builderAttribute c))
  rw [selectorOf]
  cases l.note? with
  | none => exact hanswer
  | some n => exact (Reads.emit n).bind fun _ => hanswer

theorem reads_locate (p : PageId) (sel : String) : Reads (locate p sel) :=
  (Reads.emit _).bind fun _ => Reads.bind (.of_view fun _ => rfl) fun _ => .pure _

theorem reads_put (u : Use) (sel : String) : Reads (put u sel) := by
  cases u with
  | answer => exact .pure _
  | page p => exact reads_locate p sel
  | none => exact .throw _

theorem reads_lookup (b : Builder) (l : Lookup) : Reads (lookup b l) :=
  (reads_selectorOf b.context l).bind fun sel => reads_put b.use sel

theorem reads_compileUnder {idAttribute : SessionM String} (h : Reads idAttribute) (q : Query) :
    Reads (compileUnder idAttribute q) := by
  have hcompile : Reads (q.compile idAttribute) := by
    cases q with
    | text q => exact (reads_attributeFor q.kind h).bind fun _ => .pure _
    | role q => exact .pure _
  rw [compileUnder]
  split
  · exact (Reads.throw _).bind fun _ => hcompile
  · exact hcompile

theorem reads_compileQuery (c : Option ContextId) (q : Query) : Reads (compileQuery c q) :=
  reads_compileUnder (reads_builderAttribute c) q

theorem reads_compileDocument (c : Option ContextId) (d : QueryDocument) :
    Reads (compileDocument c d) := by
  refine Reads.mapM (fun q => reads_compileUnder ?_ q) d.queries
  rw [QueryDocument.attributeOr]
  cases d.testIdAttribute with
  | some name => exact .pure name
  | none => exact reads_builderAttribute c

theorem reads_resolve (p : PageId) (c : Option ContextId) (q : Query) : Reads (resolve p c q) :=
  (reads_compileQuery c q).bind fun sel => reads_locate p sel

end Session

end ElementLookup
