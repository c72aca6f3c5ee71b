/-
**Runs from the beginning.**

A run over query files is one of the program: it reads its arguments, loads the settings, collects
its files and looks at them.  Whatever it is for, it begins in the same way, so what a run comes to
can be told from its surroundings alone.

Main definitions:

* `Batch.Surroundings.atStart` — the surroundings that a run of the program finds;
* `Batch.Surroundings.collected` — the files that a run collects;
* `Batch.Surroundings.reached` — the files that a run reaches, unless it stops before;
* `Batch.Surroundings.lastStop`, `Batch.Surroundings.outLines`, `Batch.Surroundings.errLines` — how
  a run ends and what it prints.

Main results:

* `Batch.Surroundings.within_atStart` — settings that are at hand are the ones of the surroundings;
* `Batch.Surroundings.yields_collect` — what is collected depends on the surroundings only;
* `Command.after_run_of_opening` — a run is what its request asks for;
* `Batch.outcome_of_scope` — **what a run over query files comes to**.
-/

import ElementLookup.Command.Run
import ElementLookup.Proofs.Command.Entries
import ElementLookup.Proofs.Command.Readings

set_option autoImplicit false

namespace ElementLookup

/-! ### The beginning of a run -/

namespace Command

variable {α : Type}

/-- A step of the session that is done leaves what was printed. -/
theorem after_inSession {step : SessionM α} {a : α} {s t : Session} {out err : List String}
    (h : Session.outcome step s = (.ok a, t)) :
    after (inSession step) ⟨s, out, err⟩ = (.ok a, ⟨t, out, err⟩) := by
  have hrun : step.run s = (.ok a, t) := h
  rw [inSession, after_bind]
  have hresult : after (result step) ⟨s, out, err⟩ =
      (.ok (step.run s).1, ⟨(step.run s).2, out, err⟩) := rfl
  rw [hresult, hrun]
  rfl

/-- The name of a command is read as the first argument that is no option. -/
theorem opening_read (n : Name) (args : List String) :
    Opening.read (n.text :: args) = .ok (.proceed none (n.text :: args)) := by
  have hname : n.text ≠ "--" ∧ looksLikeOption n.text = false := by
    cases n with
    | byText kind => cases kind <;> decide
    | _ => decide
  have hread : openingSignature.read (n.text :: args) = .ok ⟨[], n.text :: args⟩ :=
    Signature.read_of_reads (.unmixed hname.1 hname.2 rfl)
  rw [Opening.read, readBy, hread]
  rfl

/-- A run sets up the delivery of records, and then does what its request asks for. -/
theorem after_run_of_opening {level : Option Log.Level} {n : Name} {args rest : List String}
    {s t : Session} (hopening : Opening.read args = .ok (.proceed level (n.text :: rest)))
    (h : Session.outcome (prepare level) s = (.ok ⟨⟩, t)) :
    after (run args) ⟨s, [], []⟩ =
      after (orUsage (Request.read t.files n rest) >>= perform n) ⟨t, [], []⟩ := by
  have hread : after (readOpening args) ⟨s, [], []⟩ =
      (.ok (level, n.text :: rest), ⟨s, [], []⟩) := by
    rw [readOpening, hopening]
    rfl
  have hcommand : after (findCommand (n.text :: rest)) ⟨s, [], []⟩ =
      (.ok (n, rest), ⟨s, [], []⟩) := by
    rw [findCommand, Name.ofText?_text]
    rfl
  rw [run, after_bind, hread]
  dsimp only
  rw [after_bind, hcommand]
  dsimp only
  rw [after_bind, after_inSession h]
  rfl

theorem after_run {n : Name} {args : List String} {s t : Session}
    (h : Session.outcome (prepare none) s = (.ok ⟨⟩, t)) :
    after (run (n.text :: args)) ⟨s, [], []⟩ =
      after (orUsage (Request.read t.files n args) >>= perform n) ⟨t, [], []⟩ :=
  after_run_of_opening (opening_read n args) h

theorem after_run_of_ok {n : Name} {args : List String} {r : Request} {s t : Session}
    (h : Session.outcome (prepare none) s = (.ok ⟨⟩, t))
    (hread : Request.read t.files n args = .ok r) :
    after (run (n.text :: args)) ⟨s, [], []⟩ = after (perform n r) ⟨t, [], []⟩ := by
  rw [after_run h, hread]
  rfl

theorem after_run_of_error {n : Name} {args : List String} {u : Usage} {s t : Session}
    (h : Session.outcome (prepare none) s = (.ok ⟨⟩, t))
    (hread : Request.read t.files n args = .error u) :
    after (run (n.text :: args)) ⟨s, [], []⟩ = (.error (.usage u), ⟨t, [], []⟩) := by
  rw [after_run h, hread]
  rfl

theorem outcome_of_after {args : List String} {s : Session} {stop : Stop} {c : Console}
    (h : after (run args) ⟨s, [], []⟩ = (.error stop, c)) : outcome s args = ⟨some stop, c⟩ := by
  have hrun : (run args).run ⟨s, [], []⟩ = (.error stop, c) := h
  rw [outcome, hrun]

end Command

namespace Batch

open Command Session

namespace Surroundings

/-- The surroundings that a run of the program finds: the directory of the log file has been made,
and the shared context begins with the attribute of the settings. -/
def atStart (depths : Depths) (environment : Environment) (files : Files) (settings : Settings) :
    Surroundings :=
  ⟨depths, environment, (withLogDirectory files settings).toOption.getD files, settings,
    settings.testIdAttribute⟩

/-- A session at the beginning of a run of the program. -/
def beginning (w : Surroundings) : Session :=
  Session.start w.depths w.environment w.files Log.Severity.warning []

/-- Settings that are read are remembered, with the directory of the log file. -/
theorem outcome_settings_of_made {s : Session} {settings : Settings} {made : Files}
    (hloaded : s.loaded = none) (hread : s.readSettings = .ok settings)
    (hmade : withLogDirectory s.files settings = .ok made) :
    outcome Session.settings s =
      (.ok settings, { s with files := made, loaded := some settings }) := by
  rw [outcome_settings_of_read hloaded hread, hmade]

/-- Settings that are available at the beginning are those that the run goes on with. -/
theorem within_atStart {depths : Depths} {environment : Environment} {files : Files}
    {severity : Log.Severity} {handlers : List Log.Handler} {settings : Settings}
    (h : (Session.start depths environment files severity handlers).available = .ok settings) :
    ∃ t, outcome (prepare none) (Session.start depths environment files severity handlers) =
        (.ok ⟨⟩, t) ∧
      (atStart depths environment files settings).Within t := by
  cases hread : (Session.start depths environment files severity handlers).readSettings with
  | error fault =>
    rw [available_of_unread rfl hread] at h
    exact nomatch h
  | ok read =>
    obtain ⟨made, hmade, rfl⟩ := withLogDirectory_of_available rfl hread h
    have hsettings := outcome_settings_of_made rfl hread hmade
    refine ⟨_, (outcome_bind_ok ((outcome_bind_ok (outcome_get _) _).trans
      ((outcome_bind_ok hsettings _).trans rfl)) _).trans rfl, rfl, rfl, ?_, rfl, rfl⟩
    change made = (atStart depths environment files read).files
    rw [atStart, show withLogDirectory files read = .ok made from hmade]
    rfl

/-! ### The files of a run -/

/-- The files that a run collects. -/
def collected (w : Surroundings) (scope : Scope) : Except Fault (List Path) :=
  (outcome (collect scope) w.session).1

variable {w : Surroundings} {α : Type}

/-- A step that looks at the files, and at how far it may go, sees those of the surroundings. -/
theorem yields_files {f : Depths → Files → SessionM α} {r : Except Fault α}
    (h : Yields w.Within (f w.depths w.files) r) :
    Yields w.Within ((get : SessionM Session) >>= fun s => f s.depths s.files) r := by
  intro s hs
  rw [outcome_bind_ok (outcome_get s), hs.depths, hs.files]
  exact h s hs

theorem settles_files {f : Depths → Files → SessionM α}
    (h : Settles w.Within (f w.depths w.files)) :
    Settles w.Within ((get : SessionM Session) >>= fun s => f s.depths s.files) := by
  obtain ⟨r, hr⟩ := h
  exact ⟨r, yields_files hr⟩

/-- A search changes nothing. -/
theorem settles_search (depth : Nat) (files : Files) (recursive : Bool) (root : Path) :
    Settles w.Within (liftM (search depth files recursive root) : SessionM (List Path)) := by
  cases search depth files recursive root with
  | ok paths => exact .pure paths
  | error fault => exact .throw fault

theorem settles_refuseBadName (name : String) : Settles w.Within (refuseBadName name) := by
  rw [refuseBadName]
  split
  · exact .throw _
  · exact .pure _

theorem yields_isDirectory_of_ok {p : Path} {t : FileTree} (h : w.files.node? p = .ok t) :
    Yields w.Within (isDirectory p) (.ok t.isDirectory) := by
  intro s hs
  refine ⟨s, ?_, hs⟩
  rw [isDirectory, outcome_bind_ok (outcome_get s), hs.files, h]
  rfl

/-- Where nothing is found there is no directory, unless a name was too long to look. -/
theorem yields_isDirectory_of_error {p : Path} {why : Astray} (h : w.files.node? p = .error why) :
    Yields w.Within (isDirectory p)
      (if why = .nameTooLong then .error (.astray .nameTooLong) else .ok false) := by
  intro s hs
  refine ⟨s, ?_, hs⟩
  rw [isDirectory, outcome_bind_ok (outcome_get s), hs.files, h]
  cases why <;> rfl

theorem settles_isDirectory (p : Path) : Settles w.Within (isDirectory p) := by
  cases h : w.files.node? p with
  | ok t => exact ⟨_, yields_isDirectory_of_ok h⟩
  | error why => exact ⟨_, yields_isDirectory_of_error h⟩

theorem settles_ofTarget (recursive : Bool) (target : String) :
    Settles w.Within (ofTarget recursive target) := by
  refine (settles_refuseBadName target).bind fun _ => ?_
  refine settles_files (f := fun depths files => do
    let p := Path.resolve files.cwd (Path.ofText target)
    if ← isDirectory p then search depths.directories files recursive p else return [p]) ?_
  refine (settles_isDirectory _).bind fun b => ?_
  split
  · exact settles_search _ _ _ _
  · exact .pure _

theorem settles_directoryOf (scope : Scope) : Settles w.Within (directoryOf scope) := by
  rw [directoryOf]
  cases scope.directory.filter (· ≠ "") with
  | some d => exact .pure _
  | none =>
    refine Settles.bind ⟨.ok w.settings, fun s hs => ⟨s, ?_, hs⟩⟩ fun settings => .pure _
    exact outcome_settings_of_loaded hs.loaded

theorem settles_collect (scope : Scope) : Settles w.Within (collect scope) := by
  rw [collect]
  refine Settles.bind ?_ fun _ => ?_
  · cases scope.directory with
    | some d => exact settles_refuseBadName d
    | none => exact .pure _
  · split
    · refine (settles_directoryOf scope).bind fun root => ?_
      refine settles_files (f := fun depths files => do
        if ← isDirectory root then search depths.directories files scope.recursive root
        else return []) ?_
      refine (settles_isDirectory root).bind fun b => ?_
      split
      · exact settles_search _ _ _ _
      · exact .pure _
    · exact (Settles.mapM fun target _ => settles_ofTarget scope.recursive target).bind
        fun _ => .pure _

/-- What is collected depends on the surroundings only. -/
theorem yields_collect (scope : Scope) : Yields w.Within (collect scope) (w.collected scope) := by
  obtain ⟨r, hr⟩ := settles_collect (w := w) scope
  obtain ⟨t, ht, -⟩ := hr w.session w.within_session
  rwa [collected, ht]

/-- Whether a target stands for itself: it has a name that can be looked at, and is no directory. -/
structure IsSingle (w : Surroundings) (target : String) : Prop where
  possible : target.contains '\x00' = false
  short : w.files.node? (Path.resolve w.files.cwd (Path.ofText target)) ≠ .error .nameTooLong
  single : ∀ t, w.files.node? (Path.resolve w.files.cwd (Path.ofText target)) = .ok t →
    t.isDirectory = false

theorem yields_ofTarget_of_isSingle {target : String} (h : w.IsSingle target) (recursive : Bool) :
    Yields w.Within (ofTarget recursive target)
      (.ok [Path.resolve w.files.cwd (Path.ofText target)]) := by
  have hname : refuseBadName target = pure ⟨⟩ := by
    rw [refuseBadName, h.possible]
    rfl
  have hdirectory : Yields w.Within
      (isDirectory (Path.resolve w.files.cwd (Path.ofText target))) (.ok false) := by
    cases hnode : w.files.node? (Path.resolve w.files.cwd (Path.ofText target)) with
    | ok t =>
      rw [← h.single t hnode]
      exact yields_isDirectory_of_ok hnode
    | error why =>
      have hyields := yields_isDirectory_of_error hnode
      have hshort : why ≠ .nameTooLong := fun hlong => h.short (hlong ▸ hnode)
      rwa [if_neg hshort] at hyields
  rw [ofTarget, hname]
  exact (Yields.pure PUnit.unit).bind <| yields_files (f := fun depths files => do
    let p := Path.resolve files.cwd (Path.ofText target)
    if ← isDirectory p then search depths.directories files recursive p else return [p])
    (hdirectory.bind (.pure _))

/-- Targets that stand for themselves are collected as they are. -/
theorem collected_of_isSingle {targets : List String} (hne : targets ≠ [])
    (h : ∀ target ∈ targets, w.IsSingle target) (recursive : Bool) :
    w.collected ⟨targets, none, recursive⟩ =
      .ok (targets.map fun target => Path.resolve w.files.cwd (Path.ofText target)) := by
  have htargets : Yields w.Within (targets.mapM (ofTarget recursive))
      (targets.mapM fun target => .ok [Path.resolve w.files.cwd (Path.ofText target)]) :=
    .mapM fun target ht => yields_ofTarget_of_isSingle (h target ht) recursive
  rw [show (targets.mapM fun target =>
      (.ok [Path.resolve w.files.cwd (Path.ofText target)] : Except Fault (List Path))) =
    .ok (targets.map fun target => [Path.resolve w.files.cwd (Path.ofText target)])
    from List.mapM_pure] at htargets
  have hcollect : Yields w.Within (collect ⟨targets, none, recursive⟩) (.ok
      (targets.map fun target => [Path.resolve w.files.cwd (Path.ofText target)]).flatten) := by
    rw [collect, if_neg (by simpa using hne)]
    exact (Yields.pure PUnit.unit).bind (htargets.bind (.pure _))
  obtain ⟨t, ht, -⟩ := hcollect w.session w.within_session
  rw [collected, ht, ← List.flatMap_def, ← List.map_eq_flatMap]

/-! ### A few texts -/

/-- Without an environment, and without a file for it, the settings have their defaults. -/
theorem available_ofTexts {texts : List (String × String)} (h : ∀ e ∈ texts, e.1 ≠ ".env")
    (severity : Log.Severity) (handlers : List Log.Handler) :
    (Session.start (.all 9) Environment.empty (ofTexts texts).files severity handlers).available =
      .ok (ofTexts texts).settings := by
  have hnode : (ofTexts texts).files.node? environmentFile = .error .missing := by
    have hnamed : Named environmentFile ".env" :=
      ⟨rfl, by simp, by decide, by decide, by decide⟩
    rw [node?_ofTexts hnamed, List.find?_eq_none.2 fun e he => by simpa using h e he]
  have hread : (Session.start (.all 9) Environment.empty (ofTexts texts).files severity
      handlers).readSettings = .ok (ofTexts texts).settings := by
    have hfiles : (Session.start (.all 9) Environment.empty (ofTexts texts).files severity
        handlers).files = (ofTexts texts).files := rfl
    rw [readSettings, fileVariables, hfiles, hnode]
    rfl
  rw [available_of_read rfl hread]
  rfl

/-- Names of texts are collected as they are. -/
theorem collected_ofTexts {names : List String} (hne : names ≠ [])
    (h : ∀ name ∈ names, Named (rootPath name) name ∧
      Path.resolve ⟨.root, []⟩ (Path.ofText name) = rootPath name)
    (texts : List (String × String)) (recursive : Bool) :
    (ofTexts texts).collected ⟨names, none, recursive⟩ = .ok (names.map rootPath) := by
  have hsingle : ∀ name ∈ names, (ofTexts texts).IsSingle name := by
    intro name hmem
    obtain ⟨hnamed, hpath⟩ := h name hmem
    have hnode := node?_ofTexts hnamed texts
    rw [← hpath] at hnode
    refine ⟨hnamed.possible, fun hlong => ?_, fun t ht => ?_⟩
    · rw [show (ofTexts texts).files.cwd = ⟨.root, []⟩ from rfl, hnode] at hlong
      split at hlong
      · exact nomatch hlong
      · exact nomatch hlong
    · rw [show (ofTexts texts).files.cwd = ⟨.root, []⟩ from rfl, hnode] at ht
      split at ht
      · cases ht
        rfl
      · exact nomatch ht
  rw [collected_of_isSingle hne hsingle]
  exact congrArg Except.ok (List.map_congr_left fun name hmem => (h name hmem).2)

theorem atStart_ofTexts (texts : List (String × String)) :
    atStart (.all 9) Environment.empty (ofTexts texts).files (ofTexts texts).settings =
      ofTexts texts :=
  rfl

/-! ### What a run comes to -/

/-- The files that a run reaches, unless it stops before. -/
def reached (w : Surroundings) (scope? : Except Usage Scope) : Except Stop (List Path) :=
  match scope? with
  | .error u => .error (.usage u)
  | .ok scope =>
    match w.collected scope with
    | .error f => .error (.fault f)
    | .ok paths => .ok paths

/-- How a run ends: what it is for makes no difference. -/
def lastStop (w : Surroundings) (paths? : Except Stop (List Path)) : Stop :=
  match paths? with
  | .error stop => stop
  | .ok paths => .exit (if paths.isEmpty then 2 else w.exitCode paths)

/-- What a run that reaches its files prints to the output. -/
def outLines (w : Surroundings) (goal : Goal) (paths : List Path) : List String :=
  if paths.isEmpty then [nothingLine (if goal = .validity then "validate" else "compile")]
  else
    match goal with
    | .lines => w.printedLines false paths
    | .json => w.printedLines true paths
    | .validity => paths.flatMap w.validityLines

/-- What a run that reaches its files prints to the error output. -/
def errLines (w : Surroundings) (goal : Goal) (paths : List Path) : List String :=
  if goal = .validity then [] else paths.flatMap w.faultLines

end Surroundings

open Surroundings

variable {w : Surroundings} {paths : List Path}

theorem does_perform_of_paths (n : Name) (goal : Goal) {scope : Scope}
    (hscope : w.collected scope = .ok paths) (hp : ∀ p ∈ paths, w.foresees p = true)
    (hwhole : ∀ p ∈ paths, ∀ d ∈ w.documents p, d.isWhole = true) :
    Does w.Within (perform n (.batch goal scope)) (.error (w.lastStop (.ok paths)))
      (w.outLines goal paths) (w.errLines goal paths) := by
  have hcollect := yields_collect (w := w) scope
  rw [hscope] at hcollect
  refine (does_inSession hcollect).bind_quiet ?_
  by_cases hnone : paths = []
  · subst hnone
    cases goal with
    | lines => exact does_compile_nil false
    | json => exact does_compile_nil true
    | validity => exact does_validate_nil
  · have hsome : paths.isEmpty = false := by simpa using hnone
    have hwritable : ∀ p ∈ paths, ∀ d ∈ w.documents p, d.isWritable = true := fun p hmem d hd =>
      (LoadedDocument.isWhole_iff.1 (hwhole p hmem d hd)).2
    rw [lastStop, outLines.eq_def, errLines, hsome]
    cases goal with
    | lines => exact does_compile_of_writable false hnone hp hwritable
    | json => exact does_compile_of_writable true hnone hp hwritable
    | validity =>
      exact does_validate hnone hp fun p hmem d hd =>
        (LoadedDocument.isWhole_iff.1 (hwhole p hmem d hd)).1

theorem does_perform_of_fault (n : Name) (goal : Goal) {scope : Scope} {f : Fault}
    (hscope : w.collected scope = .error f) :
    Does w.Within (perform n (.batch goal scope)) (.error (.fault f)) [] [] := by
  have hcollect := yields_collect (w := w) scope
  rw [hscope] at hcollect
  exact (does_inSession_of_fault hcollect).bind_error _

/-- A run comes to what its request comes to. -/
theorem outcome_of_does {n : Name} {args : List String} {r : Request} {s t : Session} {stop : Stop}
    {out err : List String} (hstart : Session.outcome (prepare none) s = (.ok ⟨⟩, t))
    (ht : w.Within t) (hread : Request.read w.files n args = .ok r)
    (hdoes : Does w.Within (perform n r) (.error stop) out err) :
    ∃ u, Command.outcome s (n.text :: args) = ⟨some stop, u, out, err⟩ := by
  obtain ⟨u, hu, -⟩ := hdoes ⟨t, [], []⟩ ht
  exact ⟨u, outcome_of_after ((after_run_of_ok hstart (by rwa [ht.files])).trans hu)⟩

/-- **What a run over query files comes to.**  Where it stops before it reaches any file, nothing is
printed; otherwise it prints what its files and its goal demand. -/
theorem outcome_of_scope {n : Name} {args : List String} {goal : Goal}
    {scope? : Except Usage Scope} {s t : Session}
    (hstart : Session.outcome (prepare none) s = (.ok ⟨⟩, t)) (ht : w.Within t)
    (hread : Request.read w.files n args = Request.batch goal <$> scope?)
    (hfiles : ∀ paths, w.reached scope? = .ok paths → ∀ p ∈ paths,
      w.foresees p = true ∧ ∀ d ∈ w.documents p, d.isWhole = true) :
    ∃ u, Command.outcome s (n.text :: args) = ⟨some (w.lastStop (w.reached scope?)), u,
      ((w.reached scope?).toOption.map (w.outLines goal)).getD [],
      ((w.reached scope?).toOption.map (w.errLines goal)).getD []⟩ := by
  cases scope? with
  | error u =>
    exact ⟨t, outcome_of_after (after_run_of_error hstart (by rw [ht.files]; exact hread))⟩
  | ok scope =>
    rw [reached] at hfiles ⊢
    cases hscope : w.collected scope with
    | error f => exact outcome_of_does hstart ht hread (does_perform_of_fault n goal hscope)
    | ok paths =>
      rw [hscope] at hfiles
      have hpaths := hfiles paths rfl
      exact outcome_of_does hstart ht hread <| does_perform_of_paths n goal hscope
        (fun p hp => (hpaths p hp).1) (fun p hp => (hpaths p hp).2)

end Batch

end ElementLookup
