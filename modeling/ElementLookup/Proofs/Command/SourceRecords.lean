/-
**Which records say what file they are about.**

A run that compiles binds the name of a file while it looks at the file, and removes it again
however that ends.  Nothing that the library does in between binds or removes anything.  So if
nothing was bound before a run, the records that are delivered while a file is looked at carry its
name and nothing else, no others are delivered, and nothing is bound when the run has ended, be it
by itself, with an exit code, by a fault or by a line that cannot be written.

Main definitions:

* `Command.Marks` — a step of a command binds nothing, and its records carry what is bound;
* `Batch.Stage`, `Batch.stages` — the files that a run looks at, with the consoles before and after;
* `Batch.Sourced` — which records a run delivers, and what they carry.

Main results:

* `Batch.marks_entriesOf` — compiling the queries of a file binds nothing;
* `Command.records_bound` — a member that is bound to a step is carried, and not bound afterwards;
* `Batch.sourced_of_unbound` — the records of a run that compiles;
* `Batch.bound_members_exact` — **what is bound is carried exactly, and never outlives its file**.
-/

import ElementLookup.Proofs.Command.BatchReport
import ElementLookup.Proofs.Session.BoundMembers

set_option autoImplicit false

namespace ElementLookup

/-! ### Steps of the library -/

namespace Session

variable {α β : Type}

theorem marks_settings : Marks settings := by
  intro s
  obtain ⟨files, loaded, houtcome, -⟩ := outcome_settings s
  rw [houtcome]
  exact .of_eq rfl rfl

theorem marks_newContext (name : String) : Marks (newContext name) := fun _ => .of_eq rfl rfl

theorem marks_contextOr (c : Option ContextId) : Marks (contextOr c) := by
  cases c with
  | some c => exact .pure c
  | none =>
    refine Marks.get.bind fun s => ?_
    split
    · exact .pure _
    · refine marks_settings.bind fun st => (marks_newContext _).bind fun c => ?_
      exact Marks.bind (fun _ => .of_eq rfl rfl) fun _ => .pure c

theorem marks_builderAttribute (c : Option ContextId) : Marks (builderAttribute c) :=
  (marks_contextOr c).bind fun c => Marks.get.bind fun s => .pure (s.attributeIn c)

theorem Marks.attributeFor {idAttribute : SessionM String} (h : Marks idAttribute)
    (kind : TextKind) : Marks (kind.attributeFor idAttribute) := by
  rw [TextKind.attributeFor]
  split
  · exact h
  · exact .pure ""

theorem Marks.compile {idAttribute : SessionM String} (h : Marks idAttribute) (q : Query) :
    Marks (q.compile idAttribute) := by
  cases q with
  | text q => exact (h.attributeFor q.kind).bind fun _ => .pure _
  | role q => exact .pure _

theorem Marks.compileUnder {idAttribute : SessionM String} (h : Marks idAttribute) (q : Query) :
    Marks (compileUnder idAttribute q) := by
  rw [Session.compileUnder]
  split
  · exact (Marks.throw _).bind fun _ => h.compile q
  · exact h.compile q

theorem marks_compileDocument (c : Option ContextId) (d : QueryDocument) :
    Marks (compileDocument c d) := by
  refine Marks.mapM (fun q => Marks.compileUnder ?_ q) d.queries
  rw [QueryDocument.attributeOr]
  split
  · exact .pure _
  · exact marks_builderAttribute c

theorem marks_load (p : Path) : Marks (load p) := by
  refine Marks.get.bind fun s => ?_
  split
  · exact .pure _
  · exact .throw _

end Session

theorem Batch.marks_documentEntries (p : Path) (d : LoadedDocument) :
    Session.Marks (documentEntries p d) :=
  (Session.marks_compileDocument none d.document).bind fun _ =>
    (Session.Marks.emit _).bind fun _ => .pure _

/-- Compiling the queries of a file binds nothing. -/
theorem Batch.marks_entriesOf (p : Path) : Session.Marks (entriesOf p) :=
  (Session.marks_load p).bind fun ds =>
    (Session.Marks.mapM (marks_documentEntries p) ds).bind fun _ => .pure _

/-! ### Steps of a command -/

namespace Command

variable {α β : Type}

/-- A step of a command binds and removes nothing, and its records carry what is bound. -/
def Marks (step : CommandM α) : Prop :=
  ∀ c, Session.Marked c.session (after step c).2.session

theorem Marks.of_session {step : CommandM α} (h : ∀ c, (after step c).2.session = c.session) :
    Marks step := fun c => by
  rw [h c]
  exact .refl c.session

theorem Marks.pure (a : α) : Marks (pure a : CommandM α) := .of_session fun _ => rfl

theorem marks_stop (s : Stop) : Marks (stop s : CommandM α) := .of_session fun _ => rfl

theorem marks_printError (line : String) : Marks (printError line) := .of_session fun _ => rfl

theorem Marks.bind {x : CommandM α} {f : α → CommandM β} (hx : Marks x) (hf : ∀ a, Marks (f a)) :
    Marks (x >>= f) := by
  intro c
  have hc := hx c
  rw [after_bind]
  rcases hxc : after x c with ⟨stop | a, d⟩
  · rw [hxc] at hc
    exact hc
  · rw [hxc] at hc
    exact hc.trans (hf a d)

theorem Marks.attempt {step : SessionM α} (h : Session.Marks step) : Marks (attempt step) := by
  have hresult : Marks (result step) := fun c => h c.session
  refine hresult.bind fun r => ?_
  cases r with
  | ok a => exact .pure _
  | error fault =>
    cases fault with
    | load f =>
      dsimp only
      split
      · exact .pure _
      · exact marks_stop _
    | _ => exact marks_stop _

/-- The console in which a step runs that has a member bound. -/
def binding (key : String) (value : Json) (c : Console) : Console :=
  { c with session := (Session.outcome (Session.bind [(key, value)]) c.session).2 }

theorem after_bound (key : String) (value : Json) (step : CommandM α) (c : Console) :
    after (bound key value step) c =
      ((after step (binding key value c)).1, unbound [key] (after step (binding key value c)).2) :=
  rfl

/-- If nothing is bound, records carry the member that is bound to a step, and nothing is bound
afterwards. -/
theorem records_bound {step : CommandM α} (h : Marks step) {c : Console}
    (hc : c.session.bound = []) (key : String) (value : Json) :
    (after (bound key value step) c).2.session.bound = [] ∧
    ∃ ds, (after (bound key value step) c).2.session.deliveries = c.session.deliveries ++ ds ∧
      ∀ d ∈ ds, d.record.context = [(key, value)] := by
  have hbinding : (binding key value c).session.bound = [(key, value)] := by
    have hmerge : (binding key value c).session.bound =
        Json.merge c.session.bound [(key, value)] := rfl
    rw [hmerge, hc]
    rfl
  obtain ⟨hbound, ds, hds, hextra⟩ := h (binding key value c)
  rw [hbinding] at hbound hextra
  rw [after_bound]
  refine ⟨?_, ds, hds, fun d hd => ?_⟩
  · have hwithout : (unbound [key] (after step (binding key value c)).2).session.bound =
        Json.without (after step (binding key value c)).2.session.bound [key] := rfl
    rw [hwithout, hbound]
    simp [Json.without]
  · rw [Log.Record.context, hextra d hd]

end Command

/-! ### Runs -/

namespace Batch

open Command

theorem records_compileFile {c : Console} (hc : c.session.bound = []) (p : Path) :
    (after (compileFile p) c).2.session.bound = [] ∧
    ∃ ds, (after (compileFile p) c).2.session.deliveries = c.session.deliveries ++ ds ∧
      ∀ d ∈ ds, d.record.context = [("source", .text p.text)] := by
  refine records_bound ?_ hc "source" (.text p.text)
  refine (Marks.attempt (marks_entriesOf p)).bind fun r => ?_
  cases r with
  | ok entries => exact .pure _
  | error f => exact (marks_printError _).bind fun _ => .pure _

/-- A file that a run looks at, with the consoles before and after. -/
structure Stage where
  path : Path
  before : Console
  after : Console

/-- The records that are delivered while a file is looked at. -/
def Stage.emitted (st : Stage) : List Log.Delivery :=
  st.after.session.deliveries.drop st.before.session.deliveries.length

/-- The files that a run looks at, one after the other, up to one that ends the run. -/
def stages : List Path → Console → List Stage
  | [], _ => []
  | p :: r, c =>
    let (result, d) := Command.after (compileFile p) c
    ⟨p, c, d⟩ :: match result with
      | .ok _ => stages r d
      | .error _ => []

theorem stages_cons (p : Path) (r : List Path) (c : Console) :
    stages (p :: r) c =
      ⟨p, c, (Command.after (compileFile p) c).2⟩ ::
        match (Command.after (compileFile p) c).1 with
        | .ok _ => stages r (Command.after (compileFile p) c).2
        | .error _ => [] := rfl

/-- The files that a run looks at are the first of those that it was given. -/
theorem path_stages_prefix (paths : List Path) (c : Console) :
    (stages paths c).map Stage.path <+: paths := by
  induction paths generalizing c with
  | nil => exact List.nil_prefix
  | cons p r ih =>
    rw [stages_cons, List.map_cons, List.prefix_cons_inj]
    split
    · exact ih _
    · exact List.nil_prefix

/-- While a file is looked at, the records carry its name and nothing else, and nothing is bound
before and after that. -/
theorem records_stages {c : Console} (hc : c.session.bound = []) (paths : List Path) :
    ∀ st ∈ stages paths c, st.before.session.bound = [] ∧ st.after.session.bound = [] ∧
      st.after.session.deliveries = st.before.session.deliveries ++ st.emitted ∧
      ∀ d ∈ st.emitted, d.record.context = [("source", .text st.path.text)] := by
  induction paths generalizing c with
  | nil => exact fun st hst => nomatch hst
  | cons p r ih =>
    obtain ⟨hbound, ds, hds, hcontext⟩ := records_compileFile hc p
    rw [stages_cons, List.forall_mem_cons]
    have hemitted : Stage.emitted ⟨p, c, (Command.after (compileFile p) c).2⟩ = ds := by
      rw [Stage.emitted, hds, List.drop_left]
    refine ⟨⟨hc, hbound, ?_, ?_⟩, ?_⟩
    · rw [hemitted, hds]
    · rw [hemitted]
      exact hcontext
    · split
      · exact ih hbound
      · exact fun st hst => nomatch hst

/-- All records of the files together are those of each file, one after the other. -/
theorem records_mapM {c : Console} (hc : c.session.bound = []) (paths : List Path) :
    (Command.after (paths.mapM compileFile) c).2.session.bound = [] ∧
    (Command.after (paths.mapM compileFile) c).2.session.deliveries =
      c.session.deliveries ++ (stages paths c).flatMap Stage.emitted := by
  induction paths generalizing c with
  | nil => exact ⟨hc, (List.append_nil _).symm⟩
  | cons p r ih =>
    have hstage := records_stages hc (p :: r)
    rw [stages_cons, List.forall_mem_cons] at hstage
    obtain ⟨⟨-, hbound, hdeliveries, -⟩, -⟩ := hstage
    rw [List.mapM_cons, after_bind, stages_cons, List.flatMap_cons]
    rcases hp : Command.after (compileFile p) c with ⟨stop | entries, d⟩
    · rw [hp] at hbound hdeliveries
      dsimp only at hbound hdeliveries ⊢
      exact ⟨hbound, by rw [hdeliveries, List.flatMap_nil, List.append_nil]⟩
    · rw [hp] at hbound hdeliveries
      dsimp only at hbound hdeliveries ⊢
      obtain ⟨hbound', hdeliveries'⟩ := ih hbound
      rw [hdeliveries, List.append_assoc] at hdeliveries'
      have hrest : (Command.after (r.mapM compileFile >>= fun bs => pure (entries :: bs)) d).2 =
          (Command.after (r.mapM compileFile) d).2 := by
        rw [after_bind]
        rcases Command.after (r.mapM compileFile) d with ⟨_ | bs, _⟩ <;> rfl
      rw [hrest]
      exact ⟨hbound', hdeliveries'⟩

/-- Printing the entries adds no record and binds nothing. -/
theorem session_printed (asJson : Bool) (entries : List Entry) (code : Nat) (c : Console) :
    (Command.after (do
      (entryLines asJson entries).forM printLine
      stop (.exit code) : CommandM Unit) c).2.session = c.session := by
  have hstop : Does (· = c.session) (stop (.exit code) : CommandM Unit) _ [] [] :=
    does_stop (.exit code)
  have hprint : Does (· = c.session) ((entryLines asJson entries).forM printLine) _ _ _ :=
    does_printLines _
  obtain ⟨t, ht, hsame⟩ := hprint.andThen (f := fun _ => stop (.exit code)) hstop c rfl
  rw [ht]
  exact hsame

/-- A run leaves the session that its files leave. -/
theorem session_compile (asJson : Bool) (paths : List Path) (c : Console) :
    (Command.after (compile asJson paths) c).2.session =
      (Command.after (paths.mapM compileFile) c).2.session := by
  cases paths with
  | nil => rfl
  | cons p r =>
    have hne : ¬ (p :: r).isEmpty = true := Bool.false_ne_true
    rw [compile, if_neg hne]
    dsimp only
    rw [after_bind]
    rcases Command.after ((p :: r).mapM compileFile) c with ⟨stop | results, d⟩
    · rfl
    · exact session_printed _ _ _ d

/-! ### Exact records -/

/-- Which records a run that compiles delivers, and what they carry. -/
structure Sourced (asJson : Bool) (paths : List Path) (c : Console) : Prop where
  /-- The files that are looked at are those of the run, in their order, up to one that ends it. -/
  looked : (stages paths c).map Stage.path <+: paths
  /-- While a file is looked at, all records say which one it is. -/
  source : ∀ st ∈ stages paths c, ∀ d ∈ st.emitted,
    d.record.context = [("source", .text st.path.text)]
  /-- There are no other records. -/
  others : (Command.after (compile asJson paths) c).2.session.deliveries =
    c.session.deliveries ++ (stages paths c).flatMap Stage.emitted
  /-- Nothing is bound between two files. -/
  between : ∀ st ∈ stages paths c, st.before.session.bound = [] ∧ st.after.session.bound = []
  /-- However the run ends, nothing is bound any more. -/
  unbound : (Command.after (compile asJson paths) c).2.session.bound = []

/-- The records of a run that starts with nothing bound. -/
theorem sourced_of_unbound (asJson : Bool) (paths : List Path) {c : Console}
    (hc : c.session.bound = []) : Sourced asJson paths c where
  looked := path_stages_prefix paths c
  source st hst := (records_stages hc paths st hst).2.2.2
  others := by rw [session_compile, (records_mapM hc paths).2]
  between st hst := ⟨(records_stages hc paths st hst).1, (records_stages hc paths st hst).2.1⟩
  unbound := by rw [session_compile, (records_mapM hc paths).1]

/-- **What is bound is carried exactly, and never outlives its file**: records carry what was bound
and not removed since, and a run that compiles has no records but those of its files, which carry
the name of the file and nothing else, and leaves nothing bound however it ends. -/
theorem bound_members_exact :
    (∀ (l : Session.Logging) (before : List Session.LogCall) (call : Session.LogCall),
      (l.session.bound.map (·.1)).Nodup → Session.AddsExactly l before call) ∧
    ∀ (asJson : Bool) (paths : List Path) (c : Console), c.session.bound = [] →
      Sourced asJson paths c :=
  ⟨fun _ before call h => Session.adds_exactly h before call,
    fun asJson paths _ hc => sourced_of_unbound asJson paths hc⟩

/-- A session over a good file, a bad one and a missing one, in which somebody listens to
everything. -/
def overheard : Session :=
  { mixed.session with delivering := ⟨true, Log.Severity.debug, false, [.listener]⟩ }

/-- Members are bound after a logger was obtained, and some of them are removed or bound again. -/
def reboundCalls : List Session.LogCall :=
  [.logger "getby.cli", .bind [("source", .text "a"), ("run", .int 1)], .unbind ["source"],
    .bind [("run", .int 2)]]

/-- The statement for these calls and for a run over these files. -/
theorem bound_members_exact_rebound :
    ((overheard.bound.map (·.1)).Nodup ∧
      ∃ d, ((Session.LogCall.log 0 Log.Severity.info "done" []).after
          (Session.Logging.after ⟨overheard, []⟩ reboundCalls)).session.deliveries = [d] ∧
        d.record.Carries (Session.binding? [] reboundCalls) ∧
        Session.binding? [] reboundCalls "run" = some (.int 2) ∧
        Session.binding? [] reboundCalls "source" = none) ∧
    overheard.bound = [] ∧ Sourced true mixedPaths ⟨overheard, [], []⟩ := by
  have hkeys : (overheard.bound.map (·.1)).Nodup := List.nodup_nil
  refine ⟨⟨hkeys, ?_⟩, rfl, bound_members_exact.2 true mixedPaths ⟨overheard, [], []⟩ rfl⟩
  obtain ⟨⟨ds, hds, hcarries⟩, hdelivered⟩ := bound_members_exact.1 ⟨overheard, []⟩ reboundCalls
    (.log 0 Log.Severity.info "done" []) hkeys
  have hone := hdelivered 0 "getby.cli" "done" "done" Log.Severity.info [] rfl rfl (by decide) rfl
  refine ⟨_, hone, hcarries _ ?_, rfl, rfl⟩
  rw [hone] at hds
  rw [← show _ = ds from hds]
  exact List.mem_singleton_self _

end Batch

end ElementLookup
