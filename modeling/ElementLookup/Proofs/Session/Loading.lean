/-
**How settings are loaded.**

Asking for settings reads both sources, unless that was done before with success.  If a value does
not stand for anything, nothing happens at all: no directory is made and nothing is remembered, so
that the next time the sources are read again.  If all values are good, the directory of the log
file is made where a log file is asked for, and then the settings are remembered, whatever becomes
of the sources later.

A value of the environment file may refer to other variables, so settings may depend on these; on
other variables they do not depend.

Main definitions:

* `Session.fileBindings` — the bindings of the environment file;
* `Session.SpellsOnce` — sources that spell no name in two letter cases;
* `Session.LoadCall`, `Session.loads` — loads while the surroundings change, and the session after
  several;
* `Session.AllRefused` — no load finds good values;
* `Session.LoadsAs` — what a load that succeeds leaves behind.

Main results:

* `Session.readSettings_eq_ok_iff` — which settings are read;
* `Session.readSettings_congr` — variables that nothing refers to do not matter;
* `Session.loads_of_allRefused` — **loads that are refused leave no trace**;
* `Session.loads_of_loaded` — **settings that are loaded stay**;
* `Session.settings_field_by_field` — settings are loaded field by field, once, and cleanly.
-/

import ElementLookup.Proofs.Files.NewDirectories
import ElementLookup.Proofs.Session.Delivery
import ElementLookup.Proofs.Settings.Fields

set_option autoImplicit false

namespace ElementLookup

namespace Session

variable {s t : Session} {st : Settings}

/-! ### What is read -/

/-- The bindings of the environment file; without a file there are none. -/
def fileBindings (s : Session) : Except Text.BadOctets (List EnvFile.Binding) :=
  match s.files.node? environmentFile with
  | .ok (.file content) =>
    (fun cs => EnvFile.bindings (EnvFile.withoutMark (Text.unifyLines cs))) <$> Text.decode content
  | _ => .ok []

/-- Neither source spells a name in two letter cases. -/
structure SpellsOnce (s : Session) : Prop where
  environment : Settings.OneCase (Settings.ofEnvironment s.environment)
  file : ∀ bs, s.fileBindings = .ok bs → Settings.OneCaseKeys bs

theorem fileVariables_eq (s : Session) :
    s.fileVariables =
      match s.fileBindings with
      | .ok bs => .ok (EnvFile.valuesOf s.environment bs)
      | .error octets => .error (.undecodable octets) := by
  rw [fileVariables, fileBindings]
  cases s.files.node? environmentFile with
  | error why => rfl
  | ok found =>
    cases found with
    | directory entries => rfl
    | file content =>
      dsimp only
      cases Text.decode content <;> rfl

/-- The settings that the environment and some bindings give, checked. -/
def checkedSettings (s : Session) (bs : List EnvFile.Binding) : Checked Settings :=
  Settings.check s.files.cwd
    (Settings.chosen? s.environment (EnvFile.valuesOf s.environment bs))

theorem readSettings_of_fileBindings {bs : List EnvFile.Binding} (hbs : s.fileBindings = .ok bs) :
    s.readSettings =
      match s.checkedSettings bs with
      | .good st => .ok st
      | .bad ps => .error (.invalid ps) := by
  rw [readSettings, fileVariables_eq, hbs]
  rfl

theorem readSettings_of_good {bs : List EnvFile.Binding} (hbs : s.fileBindings = .ok bs)
    (h : s.checkedSettings bs = .good st) : s.readSettings = .ok st := by
  rw [readSettings_of_fileBindings hbs, h]

theorem readSettings_of_bad {bs : List EnvFile.Binding} {ps : List Problem}
    (hbs : s.fileBindings = .ok bs) (h : s.checkedSettings bs = .bad ps) :
    s.readSettings = .error (.invalid ps) := by
  rw [readSettings_of_fileBindings hbs, h]

/-- The settings that are read are those that the two sources give. -/
theorem readSettings_eq_ok_iff (h : s.SpellsOnce) :
    s.readSettings = .ok st ↔ ∃ bs, s.fileBindings = .ok bs ∧
      st.GivenBy s.files.cwd s.environment (EnvFile.valuesOf s.environment bs) := by
  cases hbs : s.fileBindings with
  | error octets =>
    have hread : s.readSettings = .error (.undecodable octets) := by
      rw [readSettings, fileVariables_eq, hbs]
      rfl
    rw [hread]
    constructor
    · intro h
      cases h
    · rintro ⟨bs, h, -⟩
      cases h
  | ok bs =>
    have hgood : s.checkedSettings bs = .good st ↔
        st.GivenBy s.files.cwd s.environment (EnvFile.valuesOf s.environment bs) :=
      Settings.check_eq_good_iff h.environment ((h.file bs hbs).oneCase s.environment)
    constructor
    · intro hread
      cases hchecked : s.checkedSettings bs with
      | good st' =>
        obtain rfl := Except.ok.inj ((readSettings_of_good hbs hchecked).symm.trans hread)
        exact ⟨bs, rfl, hgood.1 hchecked⟩
      | bad ps =>
        rw [readSettings_of_bad hbs hchecked] at hread
        cases hread
    · rintro ⟨bs', hbs', hgiven⟩
      obtain rfl := Except.ok.inj hbs'
      exact readSettings_of_good hbs (hgood.2 hgiven)

/-- What is read depends on the variables that matter only. -/
theorem readSettings_congr (hs : s.SpellsOnce) (ht : t.SpellsOnce)
    {bs bs' : List EnvFile.Binding} (hbs : s.fileBindings = .ok bs)
    (hbs' : t.fileBindings = .ok bs') (hcwd : t.files.cwd = s.files.cwd)
    {relevant : String → Bool} (hcovers : Settings.Covers relevant bs)
    (henv : ∀ n, relevant n = true → s.environment.value? n = t.environment.value? n)
    (hsame : bs.filter (fun b => relevant b.key) = bs'.filter fun b => relevant b.key) :
    t.readSettings = s.readSettings := by
  have hagree := EnvFile.agreeOn_valuesOf henv hcovers.references hsame
  have hchecked : t.checkedSettings bs' = s.checkedSettings bs := by
    rw [checkedSettings, checkedSettings, hcwd]
    exact (Settings.check_chosen?_congr hcovers hs.environment ht.environment
      ((hs.file bs hbs).oneCase s.environment) ((ht.file bs' hbs').oneCase t.environment) henv
      hagree s.files.cwd).symm
  rw [readSettings_of_fileBindings hbs, readSettings_of_fileBindings hbs', hchecked]

/-! ### One load -/

/-- A load that fails remembers nothing. -/
theorem loaded_of_outcome_error {fault : Fault} (hloaded : s.loaded = none)
    (h : outcome settings s = (.error fault, t)) : t.loaded = none := by
  cases hread : s.readSettings with
  | error fault' =>
    rw [outcome_settings_of_unread hloaded hread] at h
    rw [← (Prod.mk.inj h).2, hloaded]
  | ok st =>
    rw [outcome_settings_of_read hloaded hread] at h
    split at h
    · cases h
    · rw [← (Prod.mk.inj h).2, hloaded]

/-! ### Several loads -/

/-- Settings are asked for, or the environment and the files change meanwhile. -/
inductive LoadCall where
  | load
  | surroundings (environment : Environment) (files : Files)

namespace LoadCall

/-- A call as a step. -/
def step : LoadCall → SessionM Unit
  | .load => do let _ ← settings
  | .surroundings environment files =>
    modify fun s => { s with environment := environment, files := files }

/-- Settings are asked for. -/
def isLoad : LoadCall → Bool
  | .load => true
  | .surroundings .. => false

end LoadCall

/-- The session after several calls. -/
def loads (s : Session) (calls : List LoadCall) : Session :=
  calls.foldl (fun s call => (outcome call.step s).2) s

/-- The session after the same calls if settings were not asked for. -/
def moved (s : Session) (calls : List LoadCall) : Session :=
  s.loads (calls.filter fun call => !call.isLoad)

/-- No load finds good values. -/
def AllRefused (s : Session) (calls : List LoadCall) : Prop :=
  ∀ before later, calls = before ++ .load :: later →
    ∃ fault, (s.loads before).readSettings = .error fault

theorem loads_cons (s : Session) (call : LoadCall) (calls : List LoadCall) :
    s.loads (call :: calls) = (outcome call.step s).2.loads calls := rfl

theorem AllRefused.tail {call : LoadCall} {calls : List LoadCall}
    (h : s.AllRefused (call :: calls)) : (outcome call.step s).2.AllRefused calls :=
  fun before later hcalls => h (call :: before) later (by rw [hcalls]; rfl)

theorem moved_load (s : Session) (calls : List LoadCall) :
    s.moved (.load :: calls) = s.moved calls := rfl

/-- A load leaves the session that asking for settings leaves. -/
theorem outcome_load (s : Session) :
    (outcome LoadCall.load.step s).2 = (outcome settings s).2 := by
  rw [LoadCall.step, outcome_bind]
  rcases outcome settings s with ⟨fault | st, t⟩ <;> rfl

/-- Loads that are refused leave no trace. -/
theorem loads_of_allRefused (hloaded : s.loaded = none) {calls : List LoadCall}
    (h : s.AllRefused calls) : s.loads calls = s.moved calls ∧ (s.loads calls).loaded = none := by
  induction calls generalizing s with
  | nil => exact ⟨rfl, hloaded⟩
  | cons call calls ih =>
    cases call with
    | load =>
      obtain ⟨fault, hread⟩ := h [] calls rfl
      have hsame : (outcome LoadCall.load.step s).2 = s := by
        rw [outcome_load, outcome_settings_of_unread hloaded hread]
      have hrest := h.tail
      rw [hsame] at hrest
      rw [loads_cons, hsame, moved_load]
      exact ih hloaded hrest
    | surroundings environment files => exact ih hloaded h.tail

/-- Settings that are loaded stay, whatever becomes of the sources. -/
theorem loads_of_loaded (hloaded : s.loaded = some st) (calls : List LoadCall) :
    s.loads calls = s.moved calls ∧ (s.loads calls).loaded = some st := by
  induction calls generalizing s with
  | nil => exact ⟨rfl, hloaded⟩
  | cons call calls ih =>
    cases call with
    | load =>
      have hsame : (outcome LoadCall.load.step s).2 = s := by
        rw [outcome_load, outcome_settings_of_loaded hloaded]
      rw [loads_cons, hsame, moved_load]
      exact ih hloaded
    | surroundings environment files => exact ih hloaded

/-! ### Loading -/

/-- What a load that succeeds leaves behind: well-formed settings, which stay whatever becomes of
the sources, and the directories on the way of the log file if one is asked for. -/
structure LoadsAs (s : Session) (st : Settings) (t : Session) : Prop where
  read : s.readSettings = .ok st
  wellFormed : st.WellFormed
  /-- Only the files change, and the settings are remembered. -/
  state : t = { s with files := t.files, loaded := some st }
  /-- Without a log file no directory is made. -/
  quiet : st.logToFile = false → t.files = s.files
  /-- With one, its directory is made with the missing ones above it, and nothing else. -/
  extended : st.logToFile = true → s.files.Extended t.files st.logFile.parent
  /-- Asking again gives the same settings and does nothing. -/
  stays : ∀ calls, t.loads calls = t.moved calls ∧
    outcome settings (t.loads calls) = (.ok st, t.loads calls)

theorem loadsAs_of_outcome_ok (hloaded : s.loaded = none) (hcwd : s.files.cwd.isAbsolute = true)
    (hcase : s.SpellsOnce) (h : outcome settings s = (.ok st, t)) : s.LoadsAs st t := by
  cases hread : s.readSettings with
  | error fault =>
    rw [outcome_settings_of_unread hloaded hread] at h
    cases h
  | ok st' =>
    rw [outcome_settings_of_read hloaded hread] at h
    split at h
    · next files hmade =>
      obtain ⟨hst, rfl⟩ := Prod.mk.inj h
      obtain rfl := Except.ok.inj hst
      obtain ⟨bs, -, hgiven⟩ := (readSettings_eq_ok_iff hcase).1 hread
      rw [withLogDirectory] at hmade
      refine ⟨hread, hgiven.wellFormed hcwd, rfl, fun hquiet => ?_, fun hfile => ?_,
        fun calls => ?_⟩
      · rw [hquiet] at hmade
        exact (Except.ok.inj hmade).symm
      · rw [if_pos hfile] at hmade
        exact Files.extended_of_makeDirectories hmade
      · obtain ⟨hmoved, hstays⟩ := loads_of_loaded
          (s := { s with files := files, loaded := some st' }) rfl calls
        exact ⟨hmoved, outcome_settings_of_loaded hstays⟩
    · cases h

/-- Settings are loaded field by field, once, and cleanly.  What is read is given by both sources,
each setting by its own name, and depends on other variables only if they are referred to.  A load
succeeds if the values are good and the directory of the log file, where one is asked for, can be
made.  Values that are not good leave everything as it was, however often they are tried. -/
theorem settings_field_by_field (hloaded : s.loaded = none)
    (hcwd : s.files.cwd.isAbsolute = true) (hcase : s.SpellsOnce) :
    (∀ st, s.readSettings = .ok st ↔ ∃ bs, s.fileBindings = .ok bs ∧
      st.GivenBy s.files.cwd s.environment (EnvFile.valuesOf s.environment bs)) ∧
    (∀ (t : Session) (relevant : String → Bool) bs bs', s.fileBindings = .ok bs →
      t.fileBindings = .ok bs' → t.SpellsOnce → t.files.cwd = s.files.cwd →
      Settings.Covers relevant bs →
      (∀ n, relevant n = true → s.environment.value? n = t.environment.value? n) →
      (bs.filter fun b => relevant b.key) = (bs'.filter fun b => relevant b.key) →
        t.readSettings = s.readSettings) ∧
    (∀ st t, outcome settings s = (.ok st, t) → s.LoadsAs st t) ∧
    (∀ st, s.readSettings = .ok st →
      (st.logToFile = true → ∃ files, s.files.makeDirectories st.logFile.parent = .ok files) →
        ∃ t, outcome settings s = (.ok st, t)) ∧
    (∀ fault t, outcome settings s = (.error fault, t) → t.loaded = none) ∧
    (∀ fault, s.readSettings = .error fault → outcome settings s = (.error fault, s)) ∧
    (∀ calls, s.AllRefused calls →
      s.loads calls = s.moved calls ∧ (s.loads calls).loaded = none) := by
  refine ⟨fun st => readSettings_eq_ok_iff hcase, ?_,
    fun st t => loadsAs_of_outcome_ok hloaded hcwd hcase, fun st hread hmake => ?_,
    fun fault t => loaded_of_outcome_error hloaded,
    fun fault => outcome_settings_of_unread hloaded, fun calls => loads_of_allRefused hloaded⟩
  · intro t relevant bs bs' hbs hbs' ht hsamecwd hcovers henv hsame
    exact readSettings_congr hcase ht hbs hbs' hsamecwd hcovers henv hsame
  · rw [outcome_settings_of_read hloaded hread, withLogDirectory]
    cases hfile : st.logToFile with
    | false => exact ⟨_, rfl⟩
    | true =>
      obtain ⟨files, hmade⟩ := hmake hfile
      rw [if_pos rfl, hmade]
      exact ⟨_, rfl⟩

/-! ### Two environment files -/

/-- A session at a place with an environment file. -/
def withEnvironmentFile (environment : Environment) (text : String) : Session :=
  start (.all 9) environment
    ⟨.directory [("work", .directory [(".env", .file (Text.encode text))])], ⟨.root, ["work"]⟩⟩
    Log.Severity.warning []

theorem fileBindings_withEnvironmentFile (environment : Environment) {text : String}
    (h : Text.decode (Text.encode text) = .ok text.toList) :
    (withEnvironmentFile environment text).fileBindings =
      .ok (EnvFile.bindings (EnvFile.withoutMark (Text.unifyLines text.toList))) := by
  have hnode : (withEnvironmentFile environment text).files.node? environmentFile =
      .ok (.file (Text.encode text)) := by
    rw [QueryFile.node?_of_names (by simp [environmentFile])]
    rfl
  rw [fileBindings, hnode]
  dsimp only
  rw [h]
  rfl

/-- Two names of a source that are equal up to letter case are seen at once. -/
theorem spellsOnce_of_fileBindings {bs : List EnvFile.Binding} (h : s.fileBindings = .ok bs)
    (henv : (s.environment.bindings.map fun v => Settings.fold v.1).Nodup)
    (hkeys : (bs.map fun b => Settings.fold b.key).Nodup) : s.SpellsOnce where
  environment := by
    rw [Settings.OneCase, Settings.ofEnvironment, List.map_map]
    exact henv
  file bs' hbs' := by
    obtain rfl := Except.ok.inj (h.symm.trans hbs')
    exact fun b hb c hc hfold => congrArg _ (List.inj_on_of_nodup_map hkeys hb hc hfold)

/-- An environment file with three settings, of which the level has no meaning. -/
def mixedText : String :=
  "TEST_ID_ATTRIBUTE=' data-qa '\nLOG_LEVEL=LOUD\nLOG_FILE=logs/today/run.log\n"

/-- Its bindings. -/
def mixedBindings : List EnvFile.Binding :=
  [⟨"TEST_ID_ATTRIBUTE", some " data-qa "⟩, ⟨"LOG_LEVEL", some "LOUD"⟩,
    ⟨"LOG_FILE", some "logs/today/run.log"⟩]

theorem fileBindings_mixed (environment : Environment) :
    (withEnvironmentFile environment mixedText).fileBindings = .ok mixedBindings := by
  refine (fileBindings_withEnvironmentFile _ (by decide +kernel)).trans (congrArg Except.ok ?_)
  decide +kernel

/-- The environment asks for a log file, and for a level that has a meaning. -/
def mixedSources : Session :=
  withEnvironmentFile ⟨[("log_to_file", "Yes"), ("LOG_LEVEL", "DEBUG"), ("OTHER", "?")]⟩ mixedText

/-- The settings that these sources give. -/
def mixedSettings : Settings :=
  ⟨"data-qa", ⟨.root, ["work", "queries"]⟩, .debug, true,
    ⟨.root, ["work", "logs", "today", "run.log"]⟩, true⟩

/-- Nothing refers to other variables here. -/
theorem covers_mixed : Settings.Covers Settings.isSettingName mixedBindings where
  settings _ hn := hn
  references b hb _ n hn := by
    have hnone : ∀ b ∈ mixedBindings, b.references = [] := by decide +kernel
    rw [hnone b hb] at hn
    exact absurd hn List.not_mem_nil

/-- Neither the directory of the log file nor the one above it is there yet. -/
theorem makeDirectories_mixedSources :
    ∃ files, mixedSources.files.makeDirectories mixedSettings.logFile.parent = .ok files := by
  let f := mixedSources.files
  let p := mixedSettings.logFile.parent
  have hp : p.steps.any (·.contains '\x00') = false := by simp [p, mixedSettings, Path.parent]
  have hparent : p.parent.steps.any (·.contains '\x00') = false := by
    simp [p, mixedSettings, Path.parent]
  have hmissing : f.makeDirectory p = .error (.astray .missing) := by
    rw [Files.makeDirectory, Files.place?, hp]
    rfl
  obtain ⟨above, habove, files, hfiles⟩ : ∃ above, f.makeDirectory p.parent = .ok above ∧
      ∃ files, above.makeDirectory p = .ok files := by
    refine ⟨{ f with root := f.root.insert ["work", "logs"] (.directory []) }, ?_, ?_⟩
    · rw [Files.makeDirectory, Files.place?, hparent]
      rfl
    · rw [Files.makeDirectory, Files.place?, hp]
      exact ⟨_, rfl⟩
  refine ⟨files, ?_⟩
  change f.makeDirectoriesWithin (2 + 1) p = _
  rw [Files.makeDirectoriesWithin, hmissing]
  dsimp only
  rw [if_neg (by decide), Files.makeDirectoriesWithin, habove]
  change above.ensureDirectory p = _
  rw [Files.ensureDirectory, hfiles]

/-- The statement for these sources: a variable that nothing refers to can be left out, and a load
that was refused before makes no difference. -/
theorem settings_field_by_field_mixed :
    let quieter := withEnvironmentFile ⟨[("log_to_file", "Yes"), ("LOG_LEVEL", "DEBUG")]⟩ mixedText
    let refused := withEnvironmentFile .empty mixedText
    let calls : List LoadCall :=
      [.load, .surroundings mixedSources.environment mixedSources.files]
    mixedSources.loaded = none ∧ mixedSources.files.cwd.isAbsolute = true ∧
      mixedSources.SpellsOnce ∧
      (∃ t, outcome settings mixedSources = (.ok mixedSettings, t) ∧
        mixedSources.LoadsAs mixedSettings t) ∧
      quieter.readSettings = .ok mixedSettings ∧
      refused.AllRefused calls ∧ refused.loads calls = mixedSources := by
  intro quieter refused calls
  have hcase : mixedSources.SpellsOnce :=
    spellsOnce_of_fileBindings (fileBindings_mixed _) (by decide) (by decide)
  have hread : mixedSources.readSettings = .ok mixedSettings :=
    readSettings_of_good (fileBindings_mixed _) (by decide +kernel)
  obtain ⟨-, hothers, hloads, hmakes, -⟩ :=
    settings_field_by_field (s := mixedSources) rfl rfl hcase
  obtain ⟨t, ht⟩ := hmakes _ hread fun _ => makeDirectories_mixedSources
  have hquieter : quieter.readSettings = mixedSources.readSettings := by
    refine hothers quieter Settings.isSettingName _ _ (fileBindings_mixed _) (fileBindings_mixed _)
      (spellsOnce_of_fileBindings (fileBindings_mixed _) (by decide) (by decide)) rfl covers_mixed
      (fun n hn => ?_) rfl
    have hne : ¬ "OTHER" = n := by
      rintro rfl
      exact absurd hn (by decide)
    simp [quieter, mixedSources, withEnvironmentFile, start, Environment.value?, List.find?_cons,
      hne]
  have hrefused : refused.AllRefused calls := by
    have hlevel : refused.checkedSettings mixedBindings =
        .bad [⟨["LOG_LEVEL"], .notOneOf (Log.Level.all.map Log.Level.name)⟩] := by decide +kernel
    rintro (_ | ⟨first, _ | ⟨second, before⟩⟩) later hcalls
    · exact ⟨_, readSettings_of_bad (fileBindings_mixed _) hlevel⟩
    · simp [calls] at hcalls
    · simp [calls] at hcalls
  obtain ⟨-, -, -, -, -, -, hruns⟩ := settings_field_by_field (s := refused) rfl rfl
    (spellsOnce_of_fileBindings (fileBindings_mixed _) (by decide) (by decide))
  exact ⟨rfl, rfl, hcase, ⟨t, ht, hloads _ _ ht⟩, hquieter.trans hread, hrefused,
    (hruns calls hrefused).1⟩

/-- An environment file that refers to a variable which is no setting. -/
def referringText : String := "TEST_ID_ATTRIBUTE=data-$\x7bOTHER\x7d\n"

/-- Its binding. -/
def referringBindings : List EnvFile.Binding :=
  [⟨"TEST_ID_ATTRIBUTE", some "data-$\x7bOTHER\x7d"⟩]

theorem fileBindings_referring (environment : Environment) :
    (withEnvironmentFile environment referringText).fileBindings = .ok referringBindings := by
  refine (fileBindings_withEnvironmentFile _ (by decide +kernel)).trans (congrArg Except.ok ?_)
  decide +kernel

/-- The default settings with an attribute of their own. -/
def attributed (name : String) : Settings :=
  ⟨name, ⟨.root, ["work", "queries"]⟩, .info, false, ⟨.root, ["work", "getby.log"]⟩, true⟩

/-- A variable that is no setting matters if the environment file refers to it: two environments
that differ in nothing else give different settings. -/
theorem referenced_variable_matters :
    let unset := withEnvironmentFile .empty referringText
    let other := withEnvironmentFile ⟨[("OTHER", "qa")]⟩ referringText
    Settings.isSettingName "OTHER" = false ∧ unset.SpellsOnce ∧ other.SpellsOnce ∧
      unset.loaded = none ∧ other = { unset with environment := ⟨[("OTHER", "qa")]⟩ } ∧
      (outcome settings unset).1 = .ok (attributed "data-") ∧
      (outcome settings other).1 = .ok (attributed "data-qa") := by
  intro unset other
  have hunset : unset.readSettings = .ok (attributed "data-") :=
    readSettings_of_good (fileBindings_referring _) (by decide +kernel)
  have hother : other.readSettings = .ok (attributed "data-qa") :=
    readSettings_of_good (fileBindings_referring _) (by decide +kernel)
  refine ⟨by decide, spellsOnce_of_fileBindings (fileBindings_referring _) (by decide) (by decide),
    spellsOnce_of_fileBindings (fileBindings_referring _) (by decide) (by decide), rfl, rfl, ?_, ?_⟩
  · rw [outcome_settings_of_read rfl hunset]
    rfl
  · rw [outcome_settings_of_read rfl hother]
    rfl

end Session

end ElementLookup
