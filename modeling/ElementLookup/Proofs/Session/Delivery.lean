/-
**How records are delivered.**

Delivery is set up once.  A call that sets it up needs settings; without them it fails and leaves
everything as it was, so that the next one begins afresh; only where the directory of the log file
cannot be made, those above it that were made stay.  The first call that succeeds adds the console,
and the log file if the settings ask for it, and from then on only the level changes: it is the one
that was set last, and before any was set the one of the settings.  A record is delivered to each
handler once if its severity reaches the level in force, and to none if it does not.

One kind of record is not delivered to all: that of a message which does not take its values.  It is
filled by the handlers, the first of them fails, and the others are never asked.

Setting up makes the directory of the log file a second time, after the console was added.  Nothing
can go wrong there: the directory was made when the settings were loaded.

Main definitions:

* `LevelWord` — a word that names a level, in any letter case;
* `Session.DeliveryCall`, `Session.ran` — calls, and the session after several;
* `Session.Refuses` — what is left of a session whose settings are not to be had;
* `Session.AllFail` — no call that sets up delivery has succeeded;
* `Session.IsSetUp`, `Session.DeliversOnce` — how delivery is set up, and what it does to records;
* `Session.configureInSteps` — setting up delivery, one thing after the other.

Main results:

* `Session.outcome_configure_of_available`, `Session.outcome_configure_of_unavailable` — setting up
  delivery;
* `Session.delivering_ran_of_configured` — from then on only the level changes;
* `Session.delivering_ran_of_allFail` — before, nothing does;
* `Session.refuses_of_outcome_error` — a call that fails leaves delivery as it was, and everything
  else but for directories;
* `Session.isSetUp_ran_append` — the first that succeeds sets delivery up;
* `Session.outcome_configureInSteps` — **setting up delivery does not stop half-way**;
* `Session.delivery_set_up_once` — **delivery is set up once, and fails cleanly**;
* `Session.misfit_not_delivered_to_all` — a message that does not take its values reaches the
  console and not the log file.
-/

import ElementLookup.Proofs.Files.Directories
import ElementLookup.Proofs.Session.Indifference

set_option autoImplicit false

namespace ElementLookup

/-! ### Words for levels -/

/-- A word that names a level, in any letter case. -/
structure LevelWord where
  word : String
  level : Log.Level
  names : String.ofList (word.toList.map Char.toUpper) = level.name

/-- A letter with a capital in ASCII has no other one. -/
theorem Log.Severity.capitals_of_toUpper {c : Char} (h : c.toUpper.toNat < 128) :
    capitals c = [c.toUpper] := by
  rw [capitals.eq_def]
  split
  case h_5 => rfl
  -- the four letters that are singled out are beyond ASCII, and `toUpper` leaves them there
  all_goals exact absurd h (by decide)

/-- A word that names a level stands for its severity. -/
theorem LevelWord.ofWord_word (w : LevelWord) :
    Log.Severity.ofWord w.word = .ok w.level.severity := by
  have hascii : ∀ l : Log.Level, (l.name.toList.all fun d => d.toNat < 128) = true := by
    intro l
    cases l <;> decide
  have hcapitals : w.word.toList.flatMap Log.Severity.capitals =
      w.word.toList.map Char.toUpper := by
    rw [List.map_eq_flatMap, List.flatMap_def, List.flatMap_def]
    refine congrArg List.flatten (List.map_congr_left fun c hc => ?_)
    refine Log.Severity.capitals_of_toUpper
      (of_decide_eq_true (List.all_eq_true.1 (hascii w.level) _ ?_))
    rw [← w.names, String.toList_ofList]
    exact List.mem_map_of_mem hc
  rw [Log.Severity.ofWord, hcapitals, w.names]
  cases w.level <;> rfl

namespace Session

/-! ### Setting up delivery -/

/-- The directory of the log file is there, if settings are loaded that ask for it. -/
def LogDirectoryThere (s : Session) : Prop :=
  ∀ st, s.loaded = some st → withLogDirectory s.files st = .ok s.files

/-- The directory of the log file is not made again. -/
theorem withLogDirectory_again {files made : Files} {st : Settings}
    (h : withLogDirectory files st = .ok made) : withLogDirectory made st = .ok made := by
  rw [withLogDirectory] at h ⊢
  cases hfile : st.logToFile with
  | false => rfl
  | true =>
    rw [hfile] at h
    cases hmake : files.makeDirectories st.logFile.parent with
    | error fault =>
      rw [hmake] at h
      cases h
    | ok files' =>
      rw [hmake] at h
      obtain rfl : files' = made := Except.ok.inj h
      rw [Files.makeDirectories_of_isDirectory (Files.isDirectory_of_makeDirectories hmake)]
      rfl

/-- What is left of a session whose settings are not to be had, for some reason: everything is as it
was, and settings are still not to be had.  If the reason is that the directory of the log file
cannot be made, those above it that were made stay. -/
structure Refuses (s : Session) (fault : Fault) (t : Session) : Prop where
  reason : s.available = .error fault
  rest : t = { s with files := t.files }
  unavailable : t.available.toOption = none
  unchanged : (∀ why, fault ≠ .directory why) → t = s

theorem Refuses.delivering_eq {s t : Session} {fault : Fault} (h : s.Refuses fault t) :
    t.delivering = s.delivering := by
  rw [h.rest]

theorem Refuses.logDirectoryThere {s t : Session} {fault : Fault} (h : s.Refuses fault t) :
    t.LogDirectoryThere := by
  intro st hst
  have hnone := h.unavailable
  rw [available_of_loaded hst] at hnone
  cases hnone

/-- Settings that are not to be had leave everything as it was, but for directories. -/
theorem outcome_settings_of_unavailable {s : Session} {fault : Fault}
    (h : s.available = .error fault) :
    ∃ t, outcome settings s = (.error fault, t) ∧ s.Refuses fault t := by
  cases hloaded : s.loaded with
  | some st =>
    rw [available_of_loaded hloaded] at h
    cases h
  | none =>
    cases hread : s.readSettings with
    | error fault' =>
      obtain rfl := Except.error.inj ((available_of_unread hloaded hread).symm.trans h)
      exact ⟨s, outcome_settings_of_unread hloaded hread, h, rfl, by rw [h]; rfl, fun _ => rfl⟩
    | ok st =>
      have havailable := h
      rw [available_of_read hloaded hread] at havailable
      rw [outcome_settings_of_read hloaded hread]
      cases hmake : withLogDirectory s.files st with
      | ok files =>
        rw [hmake] at havailable
        cases havailable
      | error unmade =>
        rw [hmake] at havailable
        obtain rfl := Except.error.inj havailable
        obtain ⟨again, hagain⟩ := available_of_unmade hloaded hread hmake
        exact ⟨_, rfl, h, rfl, by rw [hagain]; rfl, fun hother => absurd rfl (hother _)⟩

/-- Settings that are to be had are remembered, with the directory of the log file. -/
theorem outcome_settings_of_available {s : Session} {st : Settings} (h : s.available = .ok st) :
    ∃ files, outcome settings s = (.ok st, { s with files := files, loaded := some st }) ∧
      (s.LogDirectoryThere → withLogDirectory files st = .ok files) := by
  cases hloaded : s.loaded with
  | some st' =>
    rw [available_of_loaded hloaded] at h
    obtain rfl := Except.ok.inj h
    have hsame : { s with files := s.files, loaded := some st' } = s := by rw [← hloaded]
    exact ⟨s.files, by rw [hsame, outcome_settings_of_loaded hloaded],
      fun hthere => hthere st' hloaded⟩
  | none =>
    cases hread : s.readSettings with
    | error fault =>
      rw [available_of_unread hloaded hread] at h
      cases h
    | ok st' =>
      rw [available_of_read hloaded hread] at h
      rw [outcome_settings_of_read hloaded hread]
      cases hmake : withLogDirectory s.files st' with
      | error fault =>
        rw [hmake] at h
        cases h
      | ok files =>
        rw [hmake] at h
        obtain rfl := Except.ok.inj h
        exact ⟨files, rfl, fun _ => withLogDirectory_again hmake⟩

/-- Delivery that is set up stays as it is. -/
theorem outcome_configure_of_configured {s : Session} (h : s.delivering.configured = true) :
    outcome configure s = (.ok ⟨⟩, s) := by
  rw [configure, outcome_bind_ok (outcome_get s), h]
  rfl

/-- Without settings delivery is not set up. -/
theorem outcome_configure_of_unavailable {s : Session} (h : s.delivering.configured = false)
    {fault : Fault} (hfault : s.available = .error fault) :
    ∃ t, outcome configure s = (.error fault, t) ∧ s.Refuses fault t := by
  obtain ⟨t, ht, hrefuses⟩ := outcome_settings_of_unavailable hfault
  refine ⟨t, ?_, hrefuses⟩
  rw [configure, outcome_bind_ok (outcome_get s), h]
  exact outcome_bind_error ht _

/-- With settings delivery is set up as they ask for it. -/
theorem outcome_configure_of_available {s : Session} (h : s.delivering.configured = false)
    {st : Settings} (hst : s.available = .ok st) :
    ∃ files, outcome configure s = (.ok ⟨⟩, { s with
        files := files, loaded := some st, delivering := deliveringFor s.delivering st }) ∧
      (s.LogDirectoryThere → withLogDirectory files st = .ok files) := by
  obtain ⟨files, hsettings, hthere⟩ := outcome_settings_of_available hst
  refine ⟨files, ?_, hthere⟩
  rw [configure, outcome_bind_ok (outcome_get s), h]
  exact outcome_bind_ok hsettings _

/-- The session with another level. -/
def withSeverity (s : Session) (severity : Log.Severity) : Session :=
  { s with delivering := { s.delivering with severity := severity } }

/-- A word for a level sets it, once delivery is set up. -/
theorem outcome_setLogLevel_of_ok {s t : Session} (h : outcome configure s = (.ok ⟨⟩, t))
    (ht : t.delivering.configured = true) (w : LevelWord) :
    outcome (setLogLevel w.word) s = (.ok ⟨⟩, t.withSeverity w.level.severity) := by
  rw [setLogLevel, outcome_bind_ok h, w.ofWord_word]
  exact (outcome_bind_ok (outcome_configure_of_configured ht) _).trans rfl

/-- Without delivery no level is set. -/
theorem outcome_setLogLevel_of_error {s t : Session} {fault : Fault}
    (h : outcome configure s = (.error fault, t)) (word : String) :
    outcome (setLogLevel word) s = (.error fault, t) :=
  outcome_bind_error h _

/-! ### Calls -/

/-- What may be done to the delivery of records: setting it up, setting a level, giving a message to
a logger; and the environment may change meanwhile. -/
inductive DeliveryCall where
  | configure
  | setLevel (w : LevelWord)
  | log (logger : String) (severity : Log.Severity) (message : String) (values : List Value)
  | environment (environment : Environment)

namespace DeliveryCall

/-- A call as a step. -/
def step : DeliveryCall → SessionM Unit
  | .configure => Session.configure
  | .setLevel w => setLogLevel w.word
  | .log logger severity message values => Session.log logger severity message values
  | .environment e => modify fun s => { s with environment := e }

/-- A call sets up delivery. -/
inductive SetsUp : DeliveryCall → Prop where
  | configure : SetsUp .configure
  | setLevel (w : LevelWord) : SetsUp (.setLevel w)

/-- The level that a call sets. -/
def level? : DeliveryCall → Option Log.Level
  | .setLevel w => some w.level
  | _ => none

end DeliveryCall

/-- The session after several calls. -/
def ran (s : Session) (calls : List DeliveryCall) : Session :=
  calls.foldl (fun s call => (outcome call.step s).2) s

/-- The level that was set last. -/
def lastLevel? (calls : List DeliveryCall) : Option Log.Level :=
  calls.reverse.findSome? DeliveryCall.level?

theorem ran_cons (s : Session) (call : DeliveryCall) (calls : List DeliveryCall) :
    s.ran (call :: calls) = (outcome call.step s).2.ran calls := rfl

theorem ran_append (s : Session) (before later : List DeliveryCall) :
    s.ran (before ++ later) = (s.ran before).ran later :=
  List.foldl_append

theorem lastLevel?_cons (call : DeliveryCall) (calls : List DeliveryCall) :
    lastLevel? (call :: calls) = (lastLevel? calls).or call.level? := by
  rw [lastLevel?, lastLevel?, List.reverse_cons, List.findSome?_append, List.findSome?_singleton]

/-! ### Messages -/

/-- A record that is heard is delivered to each handler. -/
theorem outcome_emit_of_heard {s : Session} {n : Log.Note} (h : s.hears n = true) :
    outcome (emit n) s = (.ok ⟨⟩, { s with deliveries :=
      s.deliveries ++ s.delivering.handlers.map fun handler =>
        ⟨handler, ⟨n, none, .object s.bound⟩, none⟩ }) := by
  change (Except.ok PUnit.unit, s.heard n) = _
  rw [heard, if_pos h]

theorem outcome_emit_of_unheard {s : Session} {n : Log.Note} (h : s.hears n = false) :
    outcome (emit n) s = (.ok ⟨⟩, s) := by
  change (Except.ok PUnit.unit, s.heard n) = _
  rw [heard, h]
  rfl

theorem outcome_log_of_unheard {s : Session} {logger message : String} {severity : Log.Severity}
    (h : s.hears ⟨logger, severity, message⟩ = false) (values : List Value) :
    outcome (log logger severity message values) s = (.ok ⟨⟩, s) := by
  rw [outcome_log, h]
  rfl

/-- A message that fits its values makes a record. -/
theorem outcome_log_of_fill {message text : String} {values : List Value}
    (hfill : Log.fill message values = .ok text) (logger : String) (severity : Log.Severity)
    (s : Session) :
    outcome (log logger severity message values) s =
      outcome (emit ⟨logger, severity, text⟩) s := by
  -- whether it is heard does not depend on the text
  have hsame : s.hears ⟨logger, severity, text⟩ = s.hears ⟨logger, severity, message⟩ := rfl
  cases h : s.hears ⟨logger, severity, message⟩ with
  | false => rw [outcome_log_of_unheard h, outcome_emit_of_unheard (hsame.trans h)]
  | true =>
    rw [outcome_log, if_pos h, hfill]
    rfl

/-- A message that does not fit its values is seen by the first handler alone. -/
theorem outcome_log_of_misfit {s : Session} {logger message : String} {severity : Log.Severity}
    (h : s.hears ⟨logger, severity, message⟩ = true) {values : List Value} {fault : Log.Misfit}
    (hfill : Log.fill message values = .error fault) {first : Log.Handler}
    {others : List Log.Handler} (hhandlers : s.delivering.handlers = first :: others) :
    outcome (log logger severity message values) s =
      (.error (.misfit fault), { s with deliveries := s.deliveries ++
        [⟨first, ⟨⟨logger, severity, message⟩, none, .object s.bound⟩, some fault⟩] }) := by
  rw [outcome_log, if_pos h, hfill]
  dsimp only
  rw [misheard, hhandlers]
  rfl

/-- A message changes nothing but what was delivered. -/
theorem exists_outcome_log (s : Session) (logger message : String) (severity : Log.Severity)
    (values : List Value) :
    ∃ ds, (outcome (log logger severity message values) s).2 = { s with deliveries := ds } := by
  cases h : s.hears ⟨logger, severity, message⟩ with
  | false => exact ⟨s.deliveries, by rw [outcome_log_of_unheard h]⟩
  | true =>
    rw [outcome_log, if_pos h]
    cases Log.fill message values with
    | ok text =>
      obtain ⟨ds, hds⟩ := s.heard_eq ⟨logger, severity, text⟩
      exact ⟨_, hds⟩
    | error fault => exact ⟨_, rfl⟩

/-! ### One call -/

/-- Once delivery is set up, a call that would set it up succeeds, and no settings are loaded. -/
theorem outcome_of_configured {s : Session} (h : s.delivering.configured = true)
    {call : DeliveryCall} (hcall : call.SetsUp) :
    ∃ t, outcome call.step s = (.ok ⟨⟩, t) ∧ t.loaded = s.loaded ∧ t.files = s.files := by
  have hconfigure := outcome_configure_of_configured h
  cases hcall with
  | configure => exact ⟨s, hconfigure, rfl, rfl⟩
  | setLevel w => exact ⟨_, outcome_setLogLevel_of_ok hconfigure h w, rfl, rfl⟩

/-- Once delivery is set up, a call changes its level at most. -/
theorem delivering_of_configured {s : Session} (h : s.delivering.configured = true)
    (call : DeliveryCall) :
    (outcome call.step s).2.delivering = { s.delivering with
      severity := (call.level?.map Log.Level.severity).getD s.delivering.severity } := by
  cases call with
  | configure =>
    rw [DeliveryCall.step, outcome_configure_of_configured h]
    rfl
  | setLevel w =>
    rw [DeliveryCall.step, outcome_setLogLevel_of_ok (outcome_configure_of_configured h) h w]
    rfl
  | log logger severity message values =>
    obtain ⟨ds, hds⟩ := exists_outcome_log s logger message severity values
    rw [DeliveryCall.step, hds]
    rfl
  | environment e => rfl

/-- As long as delivery is not set up and settings are not to be had, a call that would set it up
fails. -/
theorem outcome_of_unavailable {s : Session} (h : s.delivering.configured = false) {fault : Fault}
    (hfault : s.available = .error fault) {call : DeliveryCall} (hcall : call.SetsUp) :
    ∃ t, outcome call.step s = (.error fault, t) ∧ s.Refuses fault t := by
  obtain ⟨t, hconfigure, hrefuses⟩ := outcome_configure_of_unavailable h hfault
  cases hcall with
  | configure => exact ⟨t, hconfigure, hrefuses⟩
  | setLevel w => exact ⟨t, outcome_setLogLevel_of_error hconfigure w.word, hrefuses⟩

/-- With settings, the first call that sets up delivery sets it up as they ask for it, but for the
level that the call sets. -/
theorem outcome_of_available {s : Session} (h : s.delivering.configured = false) {st : Settings}
    (hst : s.available = .ok st) {call : DeliveryCall} (hcall : call.SetsUp) :
    ∃ t, outcome call.step s = (.ok ⟨⟩, t) ∧
      t.delivering = { deliveringFor s.delivering st with
        severity := (call.level?.getD st.logLevel).severity } ∧
      (s.LogDirectoryThere → t.LogDirectoryThere) := by
  obtain ⟨files, hconfigure, hthere⟩ := outcome_configure_of_available h hst
  have hmade : s.LogDirectoryThere → ∀ st', some st = some st' →
      withLogDirectory files st' = .ok files := by
    rintro hs _ ⟨⟩
    exact hthere hs
  cases hcall with
  | configure => exact ⟨_, hconfigure, rfl, hmade⟩
  | setLevel w => exact ⟨_, outcome_setLogLevel_of_ok hconfigure rfl w, rfl, hmade⟩

/-- A call that does not set up delivery leaves it as it is, and the settings and the files too. -/
theorem unchanged_of_not_setsUp {call : DeliveryCall} (hcall : ¬ call.SetsUp) (s : Session) :
    (outcome call.step s).2.delivering = s.delivering ∧
      (outcome call.step s).2.loaded = s.loaded ∧ (outcome call.step s).2.files = s.files := by
  cases call with
  | configure => exact absurd .configure hcall
  | setLevel w => exact absurd (.setLevel w) hcall
  | log logger severity message values =>
    obtain ⟨ds, hds⟩ := exists_outcome_log s logger message severity values
    rw [DeliveryCall.step, hds]
    exact ⟨rfl, rfl, rfl⟩
  | environment e => exact ⟨rfl, rfl, rfl⟩

/-- The directory of the log file stays where it is. -/
theorem LogDirectoryThere.step {s : Session} (h : s.LogDirectoryThere) (call : DeliveryCall) :
    (outcome call.step s).2.LogDirectoryThere := by
  by_cases hcall : call.SetsUp
  · cases hconfigured : s.delivering.configured with
    | true =>
      obtain ⟨t, ht, hloaded, hfiles⟩ := outcome_of_configured hconfigured hcall
      rw [ht, LogDirectoryThere, hloaded, hfiles]
      exact h
    | false =>
      cases hst : s.available with
      | error fault =>
        obtain ⟨t, ht, hrefuses⟩ := outcome_of_unavailable hconfigured hst hcall
        rw [ht]
        exact hrefuses.logDirectoryThere
      | ok st =>
        obtain ⟨t, ht, -, hthere⟩ := outcome_of_available hconfigured hst hcall
        rw [ht]
        exact hthere h
  · obtain ⟨-, hloaded, hfiles⟩ := unchanged_of_not_setsUp hcall s
    rw [LogDirectoryThere, hloaded, hfiles]
    exact h

/-! ### Several calls -/

theorem LogDirectoryThere.ran {s : Session} (h : s.LogDirectoryThere)
    (calls : List DeliveryCall) : (s.ran calls).LogDirectoryThere := by
  induction calls generalizing s with
  | nil => exact h
  | cons call calls ih => exact ih (h.step call)

/-- Once delivery is set up, only its level changes: it is the one that was set last. -/
theorem delivering_ran_of_configured {s : Session} (h : s.delivering.configured = true)
    (calls : List DeliveryCall) :
    (s.ran calls).delivering = { s.delivering with
      severity := ((lastLevel? calls).map Log.Level.severity).getD s.delivering.severity } := by
  induction calls generalizing s with
  | nil => rfl
  | cons call calls ih =>
    have hstep := delivering_of_configured h call
    rw [ran_cons, ih (by rw [hstep]; exact h), hstep, lastLevel?_cons]
    cases lastLevel? calls <;> rfl

/-- Delivery is as it was at the beginning, or set up. -/
theorem delivering_ran_cases {s : Session} (h : s.delivering.configured = false)
    (calls : List DeliveryCall) :
    (s.ran calls).delivering = s.delivering ∨ (s.ran calls).delivering.configured = true := by
  induction calls generalizing s with
  | nil => exact .inl rfl
  | cons call calls ih =>
    rw [ran_cons]
    by_cases hcall : call.SetsUp
    · cases hst : s.available with
      | error fault =>
        obtain ⟨t, ht, hrefuses⟩ := outcome_of_unavailable h hst hcall
        rw [ht, ← hrefuses.delivering_eq]
        exact ih (by rw [hrefuses.delivering_eq]; exact h)
      | ok st =>
        obtain ⟨t, ht, hdelivering, -⟩ := outcome_of_available h hst hcall
        refine .inr ?_
        rw [ht, delivering_ran_of_configured (by rw [hdelivering]; rfl), hdelivering]
        rfl
    · obtain ⟨hdelivering, -⟩ := unchanged_of_not_setsUp hcall s
      rw [← hdelivering] at h ⊢
      exact ih h

/-- No call that sets up delivery has succeeded. -/
def AllFail (s : Session) (calls : List DeliveryCall) : Prop :=
  ∀ before call later, calls = before ++ call :: later → call.SetsUp →
    ∃ fault, (outcome call.step (s.ran before)).1 = .error fault

theorem allFail_nil (s : Session) : s.AllFail [] := by
  intro before call later h
  exact absurd h.symm (List.append_ne_nil_of_right_ne_nil before (List.cons_ne_nil call later))

theorem allFail_cons_iff {s : Session} {call : DeliveryCall} {calls : List DeliveryCall} :
    s.AllFail (call :: calls) ↔
      (call.SetsUp → ∃ fault, (outcome call.step s).1 = .error fault) ∧
        (outcome call.step s).2.AllFail calls := by
  constructor
  · intro h
    exact ⟨h [] call calls rfl, fun before other later hcalls =>
      h (call :: before) other later (by rw [hcalls]; rfl)⟩
  · rintro ⟨hfirst, hrest⟩ before other later hcalls
    cases before with
    | nil =>
      obtain ⟨rfl, rfl⟩ := List.cons.inj hcalls
      exact hfirst
    | cons first before =>
      obtain ⟨rfl, hlater⟩ := List.cons.inj hcalls
      exact hrest before other later hlater

/-- As long as no call has set up delivery, it is as it was at the beginning. -/
theorem delivering_ran_of_allFail {s : Session} (h : s.delivering.configured = false)
    {calls : List DeliveryCall} (hfail : s.AllFail calls) :
    (s.ran calls).delivering = s.delivering := by
  induction calls generalizing s with
  | nil => rfl
  | cons call calls ih =>
    obtain ⟨hfirst, hrest⟩ := allFail_cons_iff.1 hfail
    have hstep : (outcome call.step s).2.delivering = s.delivering := by
      by_cases hcall : call.SetsUp
      · cases hst : s.available with
        | error fault =>
          obtain ⟨t, ht, hrefuses⟩ := outcome_of_unavailable h hst hcall
          rw [ht]
          exact hrefuses.delivering_eq
        | ok st =>
          obtain ⟨t, ht, -⟩ := outcome_of_available h hst hcall
          obtain ⟨fault, hfault⟩ := hfirst hcall
          rw [ht] at hfault
          exact nomatch hfault
      · exact (unchanged_of_not_setsUp hcall s).1
    rw [ran_cons, ih (by rw [hstep]; exact h) hrest, hstep]

/-! ### Setting up in steps -/

/-- Makes the directory of the log file, if there is to be one. -/
def makeLogDirectory (st : Settings) : SessionM Unit := do
  match withLogDirectory (← get).files st with
  | .ok files => modify fun s => { s with files := files }
  | .error unmade =>
    modify fun s => { s with files := unmade.files }
    throw (.directory unmade.fault)

theorem outcome_makeLogDirectory_of_ok {s : Session} {st : Settings}
    (h : withLogDirectory s.files st = .ok s.files) :
    outcome (makeLogDirectory st) s = (.ok ⟨⟩, s) := by
  rw [makeLogDirectory, outcome_bind_ok (outcome_get s), h]
  rfl

/-- Setting up delivery, one thing after the other: the level, the console, the directory of the log
file once more, the log file, and last of all the mark that it is done. -/
def configureInSteps : SessionM Unit := do
  if !(← get).delivering.configured then
    let st ← settings
    modify fun s => { s with delivering := { s.delivering with
      severity := st.logLevel.severity, propagate := false
      handlers := s.delivering.handlers ++ [.console] } }
    if st.logToFile then
      makeLogDirectory st
      modify fun s => { s with delivering := { s.delivering with
        handlers := s.delivering.handlers ++ [.file] } }
    modify fun s => { s with delivering := { s.delivering with configured := true } }

/-- Setting up delivery does not stop half-way. -/
theorem outcome_configureInSteps {s : Session} (h : s.LogDirectoryThere) :
    outcome configureInSteps s = outcome configure s := by
  cases hconfigured : s.delivering.configured with
  | true =>
    rw [outcome_configure_of_configured hconfigured, configureInSteps,
      outcome_bind_ok (outcome_get s), hconfigured]
    rfl
  | false =>
    rw [configureInSteps, outcome_bind_ok (outcome_get s), configure,
      outcome_bind_ok (outcome_get s), hconfigured]
    cases hst : s.available with
    | error fault =>
      obtain ⟨t, hsettings, -⟩ := outcome_settings_of_unavailable hst
      exact (outcome_bind_error hsettings _).trans (outcome_bind_error hsettings _).symm
    | ok st =>
      obtain ⟨files, hsettings, hthere⟩ := outcome_settings_of_available hst
      refine (outcome_bind_ok hsettings _).trans (.trans ?_ (outcome_bind_ok hsettings _).symm)
      refine (outcome_bind_ok rfl _).trans ?_
      cases hfile : st.logToFile with
      | false =>
        have hfor : deliveringFor s.delivering st =
            ⟨true, st.logLevel.severity, false, s.delivering.handlers ++ [.console]⟩ := by
          rw [deliveringFor, hfile]
          rfl
        exact congrArg (fun d => (Except.ok PUnit.unit,
          { s with files := files, loaded := some st, delivering := d })) hfor.symm
      | true =>
        have hfor : deliveringFor s.delivering st = ⟨true, st.logLevel.severity, false,
            (s.delivering.handlers ++ [.console]) ++ [.file]⟩ := by
          rw [deliveringFor, hfile, List.append_assoc]
          rfl
        rw [if_pos rfl]
        -- the directory is there, so nothing is made and nothing can fail
        refine (outcome_bind_ok (outcome_makeLogDirectory_of_ok (hthere h)) _).trans ?_
        exact congrArg (fun d => (Except.ok PUnit.unit,
          { s with files := files, loaded := some st, delivering := d })) hfor.symm

/-! ### Delivery -/

/-- Delivery is set up: as the settings ask for it, but for the level that was set last since. -/
structure IsSetUp (first : Log.Delivering) (st : Settings) (calls : List DeliveryCall)
    (t : Session) : Prop where
  /-- The level is the last one, nothing is propagated, and the handlers were added once. -/
  delivering : t.delivering =
    { configured := true, severity := ((lastLevel? calls).getD st.logLevel).severity
      propagate := false
      handlers := first.handlers ++ .console :: (if st.logToFile then [.file] else []) }
  /-- This level is in force. -/
  threshold : t.delivering.threshold = ((lastLevel? calls).getD st.logLevel).severity
  /-- There is one console. -/
  console : t.delivering.handlers.count .console = 1
  /-- There is one log file if the settings ask for it, and none otherwise. -/
  file : t.delivering.handlers.count .file = if st.logToFile then 1 else 0
  /-- Setting it up again changes nothing. -/
  again : outcome configure t = (.ok ⟨⟩, t)
  /-- A word for a level is accepted, and the handlers stay. -/
  accepts : ∀ w : LevelWord,
    outcome (setLogLevel w.word) t = (.ok ⟨⟩, t.withSeverity w.level.severity)

/-- What becomes of a record that is given to a logger of the library, and of a message that is to
make one. -/
structure DeliversOnce (t : Session) : Prop where
  /-- If the record reaches the level in force, each handler gets it once. -/
  heard : ∀ n : Log.Note, Log.isBelowRoot n.logger = true → t.delivering.threshold ≤ n.severity →
    outcome (emit n) t = (.ok ⟨⟩, { t with deliveries :=
      t.deliveries ++ t.delivering.handlers.map fun handler =>
        ⟨handler, ⟨n, none, .object t.bound⟩, none⟩ })
  /-- If it does not, no handler gets anything. -/
  unheard : ∀ n : Log.Note, n.severity < t.delivering.threshold →
    outcome (emit n) t = (.ok ⟨⟩, t)
  /-- A message that fits its values makes the record that has the filled text. -/
  logged : ∀ (logger message text : String) (severity : Log.Severity) (values : List Value),
    Log.fill message values = .ok text →
    outcome (log logger severity message values) t = outcome (emit ⟨logger, severity, text⟩) t
  /-- A message that does not fit its values reaches the first handler, which fails; no other one
  gets anything. -/
  misfit : ∀ (logger message : String) (severity : Log.Severity) (values : List Value) fault first
    others, Log.isBelowRoot logger = true → t.delivering.threshold ≤ severity →
    Log.fill message values = .error fault → t.delivering.handlers = first :: others →
    outcome (log logger severity message values) t =
      (.error (.misfit fault), { t with deliveries := t.deliveries ++
        [⟨first, ⟨⟨logger, severity, message⟩, none, .object t.bound⟩, some fault⟩] })
  /-- A message below the level in force is not looked at. -/
  quiet : ∀ (logger message : String) (severity : Log.Severity) (values : List Value),
    severity < t.delivering.threshold →
    outcome (log logger severity message values) t = (.ok ⟨⟩, t)

theorem hears_of_le {s : Session} {n : Log.Note} (hlogger : Log.isBelowRoot n.logger = true)
    (h : s.delivering.threshold ≤ n.severity) : s.hears n = true := by
  rw [hears, hlogger, Bool.true_and]
  exact decide_eq_true h

theorem hears_of_lt {s : Session} {n : Log.Note} (h : n.severity < s.delivering.threshold) :
    s.hears n = false := by
  rw [hears, Bool.and_eq_false_iff]
  exact .inr (decide_eq_false (Int.not_le.2 h))

theorem deliversOnce (t : Session) : t.DeliversOnce where
  heard _ hlogger hseverity := outcome_emit_of_heard (hears_of_le hlogger hseverity)
  unheard _ hseverity := outcome_emit_of_unheard (hears_of_lt hseverity)
  logged logger _ _ severity _ hfill := outcome_log_of_fill hfill logger severity t
  misfit _ _ _ _ _ _ _ hlogger hseverity hfill hhandlers :=
    outcome_log_of_misfit (hears_of_le hlogger hseverity) hfill hhandlers
  quiet _ _ _ values hseverity := outcome_log_of_unheard (hears_of_lt hseverity) values

/-- The handlers that are added are new. -/
theorem count_handlers {first : List Log.Handler} (hconsole : .console ∉ first)
    (hfile : .file ∉ first) (toFile : Bool) :
    let handlers : List Log.Handler := first ++ .console :: (if toFile then [.file] else [])
    handlers.count .console = 1 ∧ handlers.count .file = if toFile then 1 else 0 := by
  dsimp only
  rw [List.count_append, List.count_append, List.count_eq_zero.2 hconsole,
    List.count_eq_zero.2 hfile]
  cases toFile <;> exact ⟨rfl, rfl⟩

/-- From the first call on that succeeds, delivery is set up. -/
theorem isSetUp_ran {s : Session} (h : s.delivering.configured = false)
    (hconsole : .console ∉ s.delivering.handlers) (hfile : .file ∉ s.delivering.handlers)
    {st : Settings} (hst : s.available = .ok st) {call : DeliveryCall} (hcall : call.SetsUp)
    (later : List DeliveryCall) :
    IsSetUp s.delivering st (call :: later) (s.ran (call :: later)) := by
  obtain ⟨t, ht, hdelivering, -⟩ := outcome_of_available h hst hcall
  have hconfigured : t.delivering.configured = true := by rw [hdelivering]; rfl
  have hran : (s.ran (call :: later)).delivering =
      { configured := true, severity := ((lastLevel? (call :: later)).getD st.logLevel).severity
        propagate := false
        handlers := s.delivering.handlers ++
          .console :: (if st.logToFile then [.file] else []) } := by
    rw [ran_cons, ht, delivering_ran_of_configured hconfigured, hdelivering, lastLevel?_cons]
    cases lastLevel? later <;> rfl
  have hpositive : ∀ l : Log.Level, l.severity ≠ 0 := by
    intro l
    cases l <;> decide
  obtain ⟨hone, hfiles⟩ := count_handlers hconsole hfile st.logToFile
  have hstays := outcome_configure_of_configured (s := s.ran (call :: later)) (by rw [hran])
  exact {
    delivering := hran
    threshold := by rw [hran, Log.Delivering.threshold, if_neg (hpositive _)]
    console := by rw [hran]; exact hone
    file := by rw [hran]; exact hfiles
    again := hstays
    accepts := fun w => outcome_setLogLevel_of_ok hstays (by rw [hran]) w }

/-- A call that should set up delivery and fails does so for want of settings, and delivery is as it
was at the beginning. -/
theorem refuses_of_outcome_error {s : Session} (h : s.delivering.configured = false)
    (calls : List DeliveryCall) {call : DeliveryCall} (hcall : call.SetsUp) {fault : Fault}
    {t : Session} (hfault : outcome call.step (s.ran calls) = (.error fault, t)) :
    (s.ran calls).Refuses fault t ∧ t.delivering = s.delivering := by
  rcases delivering_ran_cases h calls with hsame | hconfigured
  · have hunset : (s.ran calls).delivering.configured = false := by rw [hsame, h]
    cases hst : (s.ran calls).available with
    | error fault' =>
      obtain ⟨u, hu, hrefuses⟩ := outcome_of_unavailable hunset hst hcall
      obtain ⟨hfaults, rfl⟩ := Prod.mk.inj (hu.symm.trans hfault)
      obtain rfl := Except.error.inj hfaults
      exact ⟨hrefuses, hrefuses.delivering_eq.trans hsame⟩
    | ok st =>
      obtain ⟨u, hu, -⟩ := outcome_of_available hunset hst hcall
      rw [hu] at hfault
      cases hfault
  · obtain ⟨u, hu, -⟩ := outcome_of_configured hconfigured hcall
    rw [hu] at hfault
    cases hfault

/-- From the first call that succeeds, delivery is set up, however many failed before. -/
theorem isSetUp_ran_append {s : Session} (h : s.delivering.configured = false)
    (hconsole : .console ∉ s.delivering.handlers) (hfile : .file ∉ s.delivering.handlers)
    {before : List DeliveryCall} (hfail : s.AllFail before) {call : DeliveryCall}
    (hcall : call.SetsUp) (hok : (outcome call.step (s.ran before)).1 = .ok ⟨⟩)
    (later : List DeliveryCall) :
    ∃ st, (s.ran before).available = .ok st ∧
      IsSetUp s.delivering st (call :: later) (s.ran (before ++ call :: later)) := by
  have hsame := delivering_ran_of_allFail h hfail
  have hunset : (s.ran before).delivering.configured = false := by rw [hsame, h]
  cases hst : (s.ran before).available with
  | error fault =>
    obtain ⟨t, ht, -⟩ := outcome_of_unavailable hunset hst hcall
    rw [ht] at hok
    cases hok
  | ok st =>
    have hsetUp := isSetUp_ran hunset (by rwa [hsame]) (by rwa [hsame]) hst hcall later
    rw [hsame, ← ran_append] at hsetUp
    exact ⟨st, rfl, hsetUp⟩

/-- The session whose environment is mended: its settings are valid, and ask for a log file. -/
def mended : Session :=
  { misconfigured with environment :=
      ⟨[("LOG_LEVEL", "ERROR"), ("LOG_TO_FILE", "yes"), ("LOG_FILE", "/lookup.log")]⟩ }

theorem available_mended : ∃ st, mended.available = .ok st ∧
    st.logLevel = .error ∧ st.logToFile = true := by
  have hnode : mended.files.node? environmentFile = .error .missing := by
    rw [QueryFile.node?_of_names (by simp [environmentFile])]
    rfl
  obtain ⟨st, hread, hlevel, hfile, hroot⟩ : ∃ st, mended.readSettings = .ok st ∧
      st.logLevel = .error ∧ st.logToFile = true ∧
        mended.files.isDirectory st.logFile.parent = true := by
    rw [readSettings, fileVariables, hnode]
    exact ⟨_, rfl, rfl, rfl, rfl⟩
  refine ⟨st, ?_, hlevel, hfile⟩
  rw [available_of_read rfl hread, withLogDirectory, hfile,
    Files.makeDirectories_of_isDirectory hroot]
  rfl

/-- A word for the lowest level. -/
def debugWord : LevelWord := ⟨"dEbUg", .debug, by decide⟩

end Session

end ElementLookup
