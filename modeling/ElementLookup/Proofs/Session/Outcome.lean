/-
**Outcomes of steps.**

A step of a session gives an answer or a fault, and leaves a session behind in either case.  The two
together are its outcome.  What the small steps come to is said here once, and the outcome of a step
that is put together from others follows from theirs, so that nothing below needs to know how steps
are built.

Main definitions:

* `Session.outcome` — what a step gives, and the session that it leaves;
* `Session.available` — the settings as a session has them, or would load them.

Main results:

* `Session.outcome_bind`, `Session.outcome_bind_ok`, `Session.outcome_bind_error` — one step after
  another;
* `Session.outcome_log` — a message is filled, or the first handler shows that it cannot be;
* `Session.outcome_tellRegistry` — a registry that refuses a name leaves everything as it was;
* `Session.outcome_settings_of_loaded`, `Session.outcome_settings_of_unread`,
  `Session.outcome_settings_of_read` — asking for the settings, case by case;
* `Session.outcome_settings` — asking for the settings gives those that are available, and leaves
  them available.
-/

import ElementLookup.Proofs.Files.NewDirectories
import ElementLookup.Session

set_option autoImplicit false

namespace ElementLookup

namespace Session

variable {α β : Type}

/-! ### Steps -/

/-- What a step gives, and the session that it leaves. -/
def outcome (step : SessionM α) (s : Session) : Except Fault α × Session :=
  step.run.run s

@[simp] theorem outcome_get (s : Session) : outcome (get : SessionM Session) s = (.ok s, s) := rfl

/-- After one step comes the next, with its answer, or the fault stays. -/
theorem outcome_bind (x : SessionM α) (f : α → SessionM β) (s : Session) :
    outcome (x >>= f) s =
      match outcome x s with
      | (.ok a, t) => outcome (f a) t
      | (.error fault, t) => (.error fault, t) := by
  have h : outcome (x >>= f) s =
      StateT.run (ExceptT.bindCont f (outcome x s).1) (outcome x s).2 := rfl
  rw [h]
  rcases outcome x s with ⟨_ | a, t⟩ <;> rfl

theorem outcome_bind_ok {x : SessionM α} {s t : Session} {a : α} (h : outcome x s = (.ok a, t))
    (f : α → SessionM β) : outcome (x >>= f) s = outcome (f a) t := by
  rw [outcome_bind, h]

theorem outcome_bind_error {x : SessionM α} {s t : Session} {fault : Fault}
    (h : outcome x s = (.error fault, t)) (f : α → SessionM β) :
    outcome (x >>= f) s = (.error fault, t) := by
  rw [outcome_bind, h]

/-! ### Records -/

/-- Records are all that a note changes. -/
theorem heard_eq (s : Session) (n : Log.Note) :
    ∃ ds, s.heard n = { s with deliveries := s.deliveries ++ ds } := by
  rw [heard]
  split
  · exact ⟨_, rfl⟩
  · exact ⟨[], by rw [List.append_nil]⟩

@[simp] theorem heard_contexts (s : Session) (n : Log.Note) :
    (s.heard n).contexts = s.contexts := by
  obtain ⟨ds, h⟩ := s.heard_eq n
  rw [h]

@[simp] theorem heard_registries (s : Session) (n : Log.Note) :
    (s.heard n).registries = s.registries := by
  obtain ⟨ds, h⟩ := s.heard_eq n
  rw [h]

/-- A message that is heard is filled if that is possible; else the first handler shows the fault,
if there is a handler. -/
theorem outcome_log (logger : String) (severity : Log.Severity) (message : String)
    (values : List Value) (s : Session) :
    outcome (log logger severity message values) s =
      if s.hears ⟨logger, severity, message⟩ then
        match Log.fill message values with
        | .ok text => (.ok ⟨⟩, s.heard ⟨logger, severity, text⟩)
        | .error fault =>
          (if s.delivering.handlers.isEmpty then .ok ⟨⟩ else .error (.misfit fault),
            s.misheard ⟨logger, severity, message⟩ fault)
      else (.ok ⟨⟩, s) := by
  rw [log, outcome_bind_ok (outcome_get s)]
  split
  · cases Log.fill message values with
    | ok text => rfl
    | error fault => cases h : s.delivering.handlers.isEmpty <;> rfl
  · rfl

/-! ### Settings -/

/-- The settings as a session has them; if it has none yet, as it would load them, which is only
done if the directory of the log file can be made as well. -/
def available (s : Session) : Except Fault Settings :=
  match s.loaded with
  | some settings => .ok settings
  | none => do
    let settings ← s.readSettings
    let _ ← (withLogDirectory s.files settings).mapError fun unmade => Fault.directory unmade.fault
    return settings

theorem available_of_loaded {s : Session} {settings : Settings} (h : s.loaded = some settings) :
    s.available = .ok settings := by
  rw [available, h]

theorem available_of_read {s : Session} {settings : Settings} (h : s.loaded = none)
    (hread : s.readSettings = .ok settings) :
    s.available =
      match withLogDirectory s.files settings with
      | .ok _ => .ok settings
      | .error unmade => .error (.directory unmade.fault) := by
  rw [available, h, hread]
  change ((withLogDirectory s.files settings).mapError _ >>= fun _ => pure settings) = _
  cases withLogDirectory s.files settings <;> rfl

/-- Settings are read and available only if the directory of the log file can be made for them. -/
theorem withLogDirectory_of_available {s : Session} {read settings : Settings}
    (hloaded : s.loaded = none) (hread : s.readSettings = .ok read)
    (h : s.available = .ok settings) :
    ∃ made, withLogDirectory s.files read = .ok made ∧ read = settings := by
  rw [available_of_read hloaded hread] at h
  cases hmake : withLogDirectory s.files read with
  | error unmade => rw [hmake] at h; cases h
  | ok made =>
    rw [hmake] at h
    exact ⟨made, rfl, Except.ok.inj h⟩

theorem available_of_unread {s : Session} {fault : Fault} (h : s.loaded = none)
    (hread : s.readSettings = .error fault) : s.available = .error fault := by
  rw [available, h, hread]
  rfl

/-- Settings that are loaded are given out as they are. -/
theorem outcome_settings_of_loaded {s : Session} {st : Settings} (h : s.loaded = some st) :
    outcome settings s = (.ok st, s) := by
  rw [settings, outcome_bind_ok (outcome_get s), h]
  rfl

/-- Without good values everything stays as it was. -/
theorem outcome_settings_of_unread {s : Session} {fault : Fault} (hloaded : s.loaded = none)
    (hread : s.readSettings = .error fault) : outcome settings s = (.error fault, s) := by
  rw [settings, outcome_bind_ok (outcome_get s), hloaded]
  dsimp only
  rw [hread]
  rfl

/-- Good values are remembered once the directory of the log file is made; if it cannot be, those
above it that were made stay. -/
theorem outcome_settings_of_read {s : Session} {st : Settings} (hloaded : s.loaded = none)
    (hread : s.readSettings = .ok st) :
    outcome settings s =
      match withLogDirectory s.files st with
      | .ok files => (.ok st, { s with files := files, loaded := some st })
      | .error unmade => (.error (.directory unmade.fault), { s with files := unmade.files }) := by
  rw [settings, outcome_bind_ok (outcome_get s), hloaded]
  dsimp only
  rw [hread]
  refine (outcome_bind_ok rfl _).trans ?_
  cases withLogDirectory s.files st <;> rfl

/-- Without an environment file there are no variables of it. -/
theorem fileVariables_of_forall_ne {s : Session}
    (h : ∀ content, s.files.node? environmentFile ≠ .ok (.file content)) :
    s.fileVariables = .ok [] := by
  rw [fileVariables]
  split
  · next content hnode => exact absurd hnode (h content)
  · rfl

/-- Directories that are added are not read. -/
theorem readSettings_of_grows {s : Session} {g : Files} {p : Path} (h : s.files.Grows g p) :
    readSettings { s with files := g } = s.readSettings := by
  have hfile (content : List UInt8) :
      g.node? environmentFile = .ok (.file content) ↔
        s.files.node? environmentFile = .ok (.file content) :=
    h.node?_eq_file_iff (by decide)
  have hvariables : fileVariables { s with files := g } = s.fileVariables := by
    by_cases hnone : ∀ content, s.files.node? environmentFile ≠ .ok (.file content)
    · rw [fileVariables_of_forall_ne hnone]
      exact fileVariables_of_forall_ne fun content hg => hnone content ((hfile content).1 hg)
    · obtain ⟨content, hcontent⟩ : ∃ content, s.files.node? environmentFile = .ok (.file content) :=
        Classical.not_forall_not.1 hnone
      rw [fileVariables, fileVariables, hcontent, (hfile content).2 hcontent]
  rw [readSettings, readSettings, hvariables, h.cwd]

/-- If the directory of the log file cannot be made, it cannot be made afterwards either. -/
theorem available_of_unmade {s : Session} {settings : Settings} {unmade : Files.Unmade}
    (hloaded : s.loaded = none) (hread : s.readSettings = .ok settings)
    (hfail : withLogDirectory s.files settings = .error unmade) :
    ∃ fault, available { s with files := unmade.files } = .error fault := by
  rw [withLogDirectory] at hfail
  split at hfail
  · next hfile =>
    have hgrows : s.files.Grows unmade.files settings.logFile.parent := by
      have h := Files.grows_makeDirectories s.files settings.logFile.parent
      rwa [hfail] at h
    obtain ⟨again, hagain⟩ := Files.makeDirectories_again hfail
    refine ⟨.directory again.fault, ?_⟩
    rw [available_of_read (s := { s with files := unmade.files }) hloaded
      ((readSettings_of_grows hgrows).trans hread), withLogDirectory, if_pos hfile, hagain]
  · cases hfail

/-- Asking for the settings gives those that are available; what is remembered for that are the
settings and the files with the directory of the log file.  Settings are available afterwards
exactly if they were, and they are the same then. -/
theorem outcome_settings (s : Session) :
    ∃ files loaded, outcome settings s = (s.available, { s with files := files, loaded := loaded })
      ∧ (Session.available { s with files := files, loaded := loaded }).toOption =
        s.available.toOption := by
  cases hloaded : s.loaded with
  | some st =>
    refine ⟨s.files, s.loaded, ?_, rfl⟩
    rw [outcome_settings_of_loaded hloaded, available_of_loaded hloaded]
  | none =>
    cases hread : s.readSettings with
    | error fault =>
      refine ⟨s.files, s.loaded, ?_, rfl⟩
      rw [outcome_settings_of_unread hloaded hread, available_of_unread hloaded hread]
    | ok st =>
      rw [outcome_settings_of_read hloaded hread, available_of_read hloaded hread]
      cases hmake : withLogDirectory s.files st with
      | error unmade =>
        obtain ⟨fault, hfault⟩ := available_of_unmade hloaded hread hmake
        refine ⟨unmade.files, s.loaded, rfl, ?_⟩
        rw [hfault]
        rfl
      | ok files => exact ⟨files, some st, rfl, rfl⟩

/-! ### Contexts and registries -/

@[simp] theorem outcome_attributeOf (c : ContextId) (s : Session) :
    outcome (attributeOf c) s = (.ok (s.attributeIn c), s) := rfl

@[simp] theorem outcome_newContext (name : String) (s : Session) :
    outcome (newContext name) s =
      (.ok s.contexts.length, { s with contexts := s.contexts ++ [name] }) := rfl

@[simp] theorem outcome_setAttribute (c : ContextId) (name : String) (s : Session) :
    outcome (setAttribute c name) s =
      (.ok ⟨⟩, (s.withAttribute c name).heard (attributeNote (s.attributeIn c) name)) := rfl

/-- A registry keeps every name that it is told, unless it refuses; then nothing changes. -/
theorem outcome_tellRegistry (r : RegistryId) (name : String) (s : Session) :
    outcome (tellRegistry r name) s =
      match s.registries[r]? with
      | none => (.ok ⟨⟩, s)
      | some registry =>
        if registry.refuses then (.error .registryRefused, s)
        else
          let registry := { registry with names := registry.names ++ [name] }
          (.ok ⟨⟩, { s with registries := s.registries.set r registry }) := by
  rw [tellRegistry, outcome_bind_ok (outcome_get s)]
  cases s.registries[r]? with
  | none => rfl
  | some registry => dsimp only; split <;> rfl

end Session

end ElementLookup
