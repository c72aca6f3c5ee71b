/-
**What a run over query files depends on.**

Once the settings are loaded, what a run makes of a file depends on the environment, on the files
and on the attribute for test ids, and on nothing that happened before in the run: looking at a file
leaves all three as they were.  So a file comes to the same wherever it stands in a run and whatever
stands before it, and a run comes to what its files come to one by one.

Main definitions:

* `Batch.Surroundings` — what a run depends on, with what files come to: `documents`, `fault?`,
  `faultLines`, `entriesAt`, `validityLines`;
* `Batch.Surroundings.Within` — a session with certain surroundings;
* `Batch.Surroundings.foresees` — a file that no run stumbles over;
* `Batch.Surroundings.ofTexts`, `Batch.Surroundings.Named` — surroundings with a few texts, and the
  paths to these.

Main results:

* `Batch.Surroundings.yields_builderAttribute` — whoever names no context uses the attribute of the
  surroundings, and they stay the same;
* `Batch.does_compileFile`, `Batch.does_validateFile` — **what a file comes to**;
* `Batch.does_compile`, `Batch.does_validate` — **what a run comes to**.
-/

import ElementLookup.Command.Batch
import ElementLookup.Proofs.Command.Steps
import ElementLookup.Proofs.Query.Accepted
import ElementLookup.Proofs.Session.TestIdAttribute

set_option autoImplicit false

namespace ElementLookup

/-- Whether the levels of a document can all be written. -/
def LoadedDocument.isShort (d : LoadedDocument) : Bool :=
  d.document.queries.all fun q => !q.isOverlong

theorem LoadedDocument.isShort_eq_true_iff {d : LoadedDocument} :
    d.isShort = true ↔ ∀ q ∈ d.document.queries, q.isOverlong = false := by
  simp only [isShort, List.all_eq_true, Bool.not_eq_true']

theorem LoadedDocument.isShort_eq_false_iff {d : LoadedDocument} :
    d.isShort = false ↔ ∃ q ∈ d.document.queries, q.isOverlong = true := by
  rw [isShort, List.all_eq_false]
  simp only [Bool.not_eq_true, Bool.not_eq_false']

namespace Batch

open Command Session

/-! ### Surroundings -/

/-- What a run over query files depends on. -/
structure Surroundings where
  depths : Depths
  environment : Environment
  files : Files
  settings : Settings
  idAttribute : String

namespace Surroundings

/-- What a file is loaded as. -/
def load (w : Surroundings) (p : Path) : Except LoadFault (List LoadedDocument) :=
  QueryFile.load w.depths w.environment w.files p

/-- The documents of a file; one that is not accepted has none. -/
def documents (w : Surroundings) (p : Path) : List LoadedDocument :=
  match w.load p with
  | .ok ds => ds
  | .error _ => []

/-- Why a file is not accepted. -/
def fault? (w : Surroundings) (p : Path) : Option LoadFault :=
  match w.load p with
  | .ok _ => none
  | .error f => some f

/-- Whether a file is accepted. -/
def accepts (w : Surroundings) (p : Path) : Bool :=
  (w.fault? p).isNone

/-- What is said of a file that is not accepted. -/
def faultLines (w : Surroundings) (p : Path) : List String :=
  (w.fault? p).toList.map (faultLine p)

/-- What is said of a file when it is checked. -/
def validityLines (w : Surroundings) (p : Path) : List String :=
  (w.documents p).map (fun d => acceptedLine p d.document) ++ w.faultLines p

/-- The selector of a query in a document. -/
def selector (w : Surroundings) (d : LoadedDocument) (q : Query) : String :=
  q.selector (d.document.testIdAttribute.getD w.idAttribute)

/-- The entries of a document. -/
def entriesIn (w : Surroundings) (p : Path) (d : LoadedDocument) : List Entry :=
  entriesFor p d (d.document.queries.map (w.selector d))

/-- The entries of a file. -/
def entriesAt (w : Surroundings) (p : Path) : List Entry :=
  (w.documents p).flatMap (w.entriesIn p)

/-- Whether a file is accepted or reported. -/
def reports (w : Surroundings) (p : Path) : Bool :=
  (w.fault? p).all LoadFault.isReported

/-- Whether a run can go on after a file: it is accepted or reported, and its levels can all be
written. -/
def foresees (w : Surroundings) (p : Path) : Bool :=
  w.reports p && (w.documents p).all LoadedDocument.isShort

/-- A session with certain surroundings: its settings are loaded, and whoever names no context uses
the attribute of the surroundings. -/
structure Within (w : Surroundings) (s : Session) : Prop where
  depths : s.depths = w.depths
  environment : s.environment = w.environment
  files : s.files = w.files
  loaded : s.loaded = some w.settings
  idAttribute : s.usedIn? none = some w.idAttribute

/-- A session in which the settings have been loaded and the shared context opened. -/
def session (w : Surroundings) : Session :=
  { Session.start w.depths w.environment w.files Log.Severity.warning [] with
    loaded := some w.settings, contexts := [w.idAttribute], shared := some 0 }

/-- Any surroundings may be found. -/
theorem within_session (w : Surroundings) : w.Within w.session :=
  ⟨rfl, rfl, rfl, rfl, rfl⟩

/-- Surroundings with a few texts in the directory one is at. -/
def ofTexts (texts : List (String × String)) : Surroundings :=
  ⟨.all 9, Environment.empty,
    ⟨.directory (texts.map fun e => (e.1, .file (Text.encode e.2))), ⟨.root, []⟩⟩,
    ⟨defaultTestIdAttribute, ⟨.root, ["queries"]⟩, .info, false, ⟨.root, ["getby.log"]⟩, true⟩,
    defaultTestIdAttribute⟩

/-- A path that is a name alone, and one that a file can have. -/
structure Named (p : Path) (name : String) : Prop where
  steps : p.steps = [name]
  possible : name.contains '\x00' = false
  downward : name ≠ ".."
  short : name.utf8ByteSize ≤ Files.maxName
  shortText : p.text.utf8ByteSize ≤ Files.maxPath

/-- The path to a name at the root. -/
def rootPath (name : String) : Path := ⟨.root, [name]⟩

/-- Short names are such names. -/
theorem named_rootPath {name : String} (hpossible : name.contains '\x00' = false)
    (hname : name ≠ ".." ∧ name.utf8ByteSize ≤ Files.maxName) : Named (rootPath name) name where
  steps := rfl
  possible := hpossible
  downward := hname.1
  short := hname.2
  shortText := by
    have htext : (rootPath name).text = "/" ++ name := rfl
    rw [htext, String.utf8ByteSize_append]
    have hmax : Files.maxName = 255 ∧ Files.maxPath = 4095 := ⟨rfl, rfl⟩
    have hstroke : "/".utf8ByteSize = 1 := rfl
    omega

/-- A name alone leads to the text of that name. -/
theorem node?_ofTexts {p : Path} {name : String} (h : Named p name)
    (texts : List (String × String)) :
    (ofTexts texts).files.node? p =
      match texts.find? fun e => e.1 = name with
      | some e => .ok (.file (Text.encode e.2))
      | none => .error .missing := by
  obtain ⟨hsteps, hpossible, hdownward, hshort, htext⟩ := h
  have horigin : (ofTexts texts).files.origin p = [] := by
    rw [Files.origin]
    split <;> rfl
  have hentry : (ofTexts texts).files.root.at? [name] =
      (texts.find? fun e => e.1 = name).map fun e => .file (Text.encode e.2) := by
    rw [FileTree.at?_cons, ofTexts, FileTree.entry?, List.find?_map, Option.map_map]
    exact Option.bind_fun_some _
  have hdescend : Files.descend (ofTexts texts).files.root [] [name] = .ok [name] := by
    rw [ofTexts, Files.descend]
    change (if name = ".." then _ else if Files.maxName < name.utf8ByteSize then _ else _) = _
    rw [if_neg hdownward, if_neg (by omega), Files.descend]
  have hlong : Files.isTooLong p = false := decide_eq_false (Nat.not_lt.2 htext)
  rw [QueryFile.node?_of_names (by rw [hsteps]; simpa using hpossible), hlong,
    if_neg Bool.false_ne_true, hsteps, horigin, hdescend]
  simp only [Functor.map, Except.map, Bind.bind, Except.bind, List.reverse_singleton, hentry]
  cases texts.find? fun e => e.1 = name <;> rfl

/-- The file of a name alone is loaded from its text. -/
theorem load_ofTexts {p : Path} {name : String} (h : Named p name)
    (texts : List (String × String)) :
    (ofTexts texts).load p =
      match texts.find? fun e => e.1 = name with
      | some e =>
        match Text.decode (Text.encode e.2) with
        | .error octets => .error (.undecodable p octets)
        | .ok cs => QueryFile.ofText (.all 9) Environment.empty p cs
      | none => .error (.missing p) := by
  rw [load, QueryFile.load, node?_ofTexts h]
  cases texts.find? fun e => e.1 = name <;> rfl

variable {w : Surroundings} {p : Path} {s : Session}

theorem documents_of_ok {ds : List LoadedDocument} (h : w.load p = .ok ds) :
    w.documents p = ds := by
  rw [documents, h]

theorem documents_of_error {f : LoadFault} (h : w.load p = .error f) : w.documents p = [] := by
  rw [documents, h]

theorem fault?_of_ok {ds : List LoadedDocument} (h : w.load p = .ok ds) : w.fault? p = none := by
  rw [fault?, h]

theorem fault?_of_error {f : LoadFault} (h : w.load p = .error f) : w.fault? p = some f := by
  rw [fault?, h]

/-- There is nothing to say of a file that is accepted. -/
theorem faultLines_of_accepts (h : w.accepts p = true) : w.faultLines p = [] := by
  rw [faultLines, Option.isNone_iff_eq_none.1 h]
  rfl

/-- A file has documents, or else a fault. -/
theorem documents_eq_nil_iff : w.documents p = [] ↔ w.fault? p ≠ none := by
  cases h : w.load p with
  | error f => simp [documents_of_error h, fault?_of_error h]
  | ok ds =>
    rw [documents_of_ok h, fault?_of_ok h]
    exact iff_of_false (QueryFile.load_eq_ok h).1 (not_not_intro rfl)

/-- Every document of a file has a note for each of its queries. -/
theorem complete_of_mem {d : LoadedDocument} (hd : d ∈ w.documents p) : d.Complete := by
  cases h : w.load p with
  | error f =>
    rw [documents_of_error h] at hd
    exact nomatch hd
  | ok ds =>
    rw [documents_of_ok h] at hd
    exact QueryFile.complete_of_load h hd

theorem reports_of_foresees (hp : w.foresees p = true) : w.reports p = true :=
  (Bool.and_eq_true_iff.1 hp).1

theorem isShort_of_foresees (hp : w.foresees p = true) {d : LoadedDocument}
    (hd : d ∈ w.documents p) : d.isShort = true :=
  List.all_eq_true.1 (Bool.and_eq_true_iff.1 hp).2 d hd

theorem isReported_of_reports {f : LoadFault} (hp : w.reports p = true)
    (h : w.load p = .error f) : f.isReported = true := by
  rwa [reports, fault?_of_error h] at hp

/-! ### Steps that leave the surroundings -/

/-- Records and the members that are bound to them are no part of the surroundings. -/
theorem Within.heard (hs : w.Within s) (n : Log.Note) : w.Within (s.heard n) := by
  obtain ⟨ds, h⟩ := s.heard_eq n
  rw [h]
  exact ⟨hs.depths, hs.environment, hs.files, hs.loaded, hs.idAttribute⟩

theorem Within.bound (hs : w.Within s) (members : Log.Context) :
    w.Within { s with bound := members } :=
  ⟨hs.depths, hs.environment, hs.files, hs.loaded, hs.idAttribute⟩

theorem yields_emit (n : Log.Note) : Yields w.Within (emit n) (.ok ⟨⟩) :=
  fun s hs => ⟨s.heard n, rfl, hs.heard n⟩

/-- Whoever names no context uses the attribute of the surroundings.  The shared context may have to
be opened for that, but it begins with that very attribute. -/
theorem yields_builderAttribute :
    Yields w.Within (builderAttribute none) (.ok w.idAttribute) := by
  intro s hs
  have hname := hs.idAttribute
  rw [usedIn?, Option.none_or] at hname
  cases hshared : s.shared with
  | some c =>
    rw [hshared] at hname
    change s.contexts[c]? = some w.idAttribute at hname
    have hcontext : outcome (contextOr none) s = (.ok c, s) :=
      outcome_contextOr_of_or (by rw [Option.none_or, hshared])
    refine ⟨s, ?_, hs⟩
    rw [builderAttribute, outcome_bind_ok hcontext, outcome_attributeOf, attributeIn, hname]
    rfl
  | none =>
    rw [hshared] at hname
    have hfirst : w.settings.testIdAttribute = w.idAttribute := by
      change s.view.first? = some w.idAttribute at hname
      rw [view, available_of_loaded hs.loaded] at hname
      exact Option.some.inj hname
    have hcontext : outcome (contextOr none) s = (.ok s.contexts.length, { s with
        contexts := s.contexts ++ [w.idAttribute], shared := some s.contexts.length }) := by
      change outcome defaultContext s = _
      rw [defaultContext, outcome_bind_ok (outcome_get s), hshared]
      refine (outcome_bind_ok (outcome_settings_of_loaded hs.loaded) _).trans ?_
      rw [hfirst]
      rfl
    refine ⟨{ s with contexts := s.contexts ++ [w.idAttribute], shared := some s.contexts.length },
      ?_, hs.depths, hs.environment, hs.files, hs.loaded, ?_⟩
    · rw [builderAttribute, outcome_bind_ok hcontext, outcome_attributeOf, attributeIn,
        List.getElem?_concat_length]
      rfl
    · exact List.getElem?_concat_length

/-! ### Files -/

theorem yields_load_of_ok {ds : List LoadedDocument} (h : w.load p = .ok ds) :
    Yields w.Within (Session.load p) (.ok ds) := by
  intro s hs
  refine ⟨s, ?_, hs⟩
  rw [Session.load, outcome_bind_ok (outcome_get s), hs.depths, hs.environment, hs.files,
    show QueryFile.load w.depths w.environment w.files p = .ok ds from h]
  rfl

theorem yields_load_of_error {f : LoadFault} (h : w.load p = .error f) :
    Yields w.Within (Session.load p) (.error (.load f)) := by
  intro s hs
  refine ⟨s, ?_, hs⟩
  rw [Session.load, outcome_bind_ok (outcome_get s), hs.depths, hs.environment, hs.files,
    show QueryFile.load w.depths w.environment w.files p = .error f from h]
  rfl

/-- A document comes to its selectors, if its levels can be written. -/
theorem yields_compileDocument (w : Surroundings) (d : LoadedDocument) :
    Yields w.Within (compileDocument none d.document) (if d.isShort then
      .ok (d.document.queries.map (w.selector d)) else .error .overlongLevel) := by
  have hcompile := (yields_builderAttribute (w := w)).compileDocument d.document
  cases h : d.isShort with
  | true =>
    rw [Query.mapM_compiled_of_short (LoadedDocument.isShort_eq_true_iff.1 h)] at hcompile
    exact hcompile
  | false =>
    rw [Query.mapM_compiled_of_overlong (LoadedDocument.isShort_eq_false_iff.1 h)] at hcompile
    exact hcompile

theorem yields_documentEntries (w : Surroundings) (p : Path) (d : LoadedDocument) :
    Yields w.Within (documentEntries p d)
      (if d.isShort then .ok (w.entriesIn p d) else .error .overlongLevel) := by
  have hcompile := w.yields_compileDocument d
  cases h : d.isShort with
  | true =>
    rw [h] at hcompile
    exact hcompile.bind ((yields_emit _).bind (.pure _))
  | false =>
    rw [h] at hcompile
    exact hcompile.bind_error _

/-- A file comes to the entries of its documents. -/
theorem yields_entriesOf {ds : List LoadedDocument} (h : w.load p = .ok ds)
    (hshort : ∀ d ∈ ds, d.isShort = true) :
    Yields w.Within (entriesOf p) (.ok (w.entriesAt p)) := by
  refine (yields_load_of_ok h).bind ?_
  have hmap : Yields w.Within (ds.mapM (documentEntries p))
      (ds.mapM fun d => .ok (w.entriesIn p d)) := by
    refine .mapM fun d hd => ?_
    have hentries := w.yields_documentEntries p d
    rwa [if_pos (hshort d hd)] at hentries
  rw [show (ds.mapM fun d => (.ok (w.entriesIn p d) : Except Fault (List Entry))) =
    .ok (ds.map (w.entriesIn p)) from List.mapM_pure] at hmap
  rw [entriesAt, documents_of_ok h, List.flatMap_def]
  exact hmap.bind (.pure _)

/-- One level that cannot be written is enough for a file to come to nothing. -/
theorem yields_entriesOf_of_overlong {ds : List LoadedDocument} (h : w.load p = .ok ds)
    (hlong : ∃ d ∈ ds, d.isShort = false) :
    Yields w.Within (entriesOf p) (.error .overlongLevel) := by
  refine (yields_load_of_ok h).bind ?_
  have hmap : Yields w.Within (ds.mapM (documentEntries p)) (ds.mapM _) :=
    .mapM fun d _ => w.yields_documentEntries p d
  rw [mapM_eq_error] at hmap
  · exact hmap.bind_error _
  · intro d _ fault hfault
    split at hfault
    · exact nomatch hfault
    · exact (Except.error.inj hfault).symm
  · obtain ⟨d, hd, hshort⟩ := hlong
    exact ⟨d, hd, by rw [hshort]; rfl⟩

theorem yields_entriesOf_of_error {f : LoadFault} (h : w.load p = .error f) :
    Yields w.Within (entriesOf p) (.error (.load f)) :=
  (yields_load_of_error h).bind_error _

/-! ### Runs -/

/-- What compiling a file comes to: its entries, if it is accepted. -/
def compiled? (w : Surroundings) (p : Path) : Option (List Entry) :=
  if w.accepts p then some (w.entriesAt p) else none

theorem compiled?_getD : (w.compiled? p).getD [] = w.entriesAt p := by
  rw [compiled?]
  split
  · rfl
  · next h =>
    have hd : w.documents p = [] := documents_eq_nil_iff.2 (by simpa [accepts] using h)
    rw [entriesAt, hd]
    rfl

theorem isSome_compiled? : (w.compiled? p).isSome = w.accepts p := by
  rw [compiled?]
  split <;> simp_all

/-- The exit code of a run over files. -/
def exitCode (w : Surroundings) (paths : List Path) : Nat :=
  Batch.exitCode (paths.map w.accepts)

end Surroundings

open Surroundings

variable {w : Surroundings} {p : Path} {paths : List Path}

/-- **Compiling a file** comes to its entries, or it is reported. -/
theorem does_compileFile (hp : w.foresees p = true) :
    Does w.Within (compileFile p) (.ok (w.compiled? p)) [] (w.faultLines p) := by
  refine does_bound (fun _ members hs => hs.bound members) ?_
  rw [compiled?, accepts, faultLines]
  cases h : w.load p with
  | ok ds =>
    have hshort : ∀ d ∈ ds, d.isShort = true := fun d hd =>
      isShort_of_foresees hp (by rwa [documents_of_ok h])
    rw [fault?_of_ok h]
    exact (does_attempt (yields_entriesOf h hshort)).bind_quiet (.pure _)
  | error f =>
    rw [fault?_of_error h]
    refine (does_attempt_of_reported (yields_entriesOf_of_error h)
      (isReported_of_reports (reports_of_foresees hp) h)).bind_quiet ?_
    exact (does_printError _).bind (.pure none)

/-- A level that cannot be written ends a run. -/
theorem does_compileFile_of_overlong (hlong : ∃ d ∈ w.documents p, d.isShort = false) :
    Does w.Within (compileFile p) (.error (.fault .overlongLevel)) [] [] := by
  refine does_bound (fun _ members hs => hs.bound members) ?_
  cases h : w.load p with
  | ok ds =>
    rw [documents_of_ok h] at hlong
    exact (does_attempt_of_fault (yields_entriesOf_of_overlong h hlong) nofun).bind_error _
  | error f =>
    rw [documents_of_error h] at hlong
    simp at hlong

/-- Checking a document prints that it is accepted. -/
theorem does_validateDocument {d : LoadedDocument} (hd : d.isShort = true)
    (hname : d.halves.name = false) :
    Does w.Within (validateDocument p d) (.ok ⟨⟩) [acceptedLine p d.document] [] := by
  have hcompile := w.yields_compileDocument d
  rw [if_pos hd] at hcompile
  exact (does_inSession hcompile).bind_quiet (does_printLine hname)

/-- **Checking a file** prints a line for each document, or it is reported. -/
theorem does_validateFile (hp : w.foresees p = true)
    (hnames : ∀ d ∈ w.documents p, d.halves.name = false) :
    Does w.Within (validateFile p) (.ok (w.accepts p)) (w.validityLines p) [] := by
  rw [validityLines, faultLines, accepts]
  cases h : w.load p with
  | ok ds =>
    have hshort : ∀ d ∈ ds, d.isShort = true := fun d hd =>
      isShort_of_foresees hp (by rwa [documents_of_ok h])
    rw [documents_of_ok h] at hnames ⊢
    rw [fault?_of_ok h]
    refine (does_attempt (yields_load_of_ok h)).bind_quiet ?_
    have hall : Does w.Within (ds.forM (validateDocument p)) (.ok ⟨⟩)
        (ds.flatMap fun d => [acceptedLine p d.document]) (ds.flatMap fun _ => []) :=
      .forM fun d hd => does_validateDocument (hshort d hd) (hnames d hd)
    rw [← List.map_eq_flatMap, List.flatMap_eq_nil_iff.2 fun _ _ => rfl] at hall
    exact hall.bind (.pure true)
  | error f =>
    rw [documents_of_error h, fault?_of_error h]
    refine (does_attempt_of_reported (yields_load_of_error h)
      (isReported_of_reports (reports_of_foresees hp) h)).bind_quiet ?_
    exact (does_print _).bind (.pure false)

/-- A name that cannot be written ends a run that checks. -/
theorem does_validateFile_of_unwritable {d : LoadedDocument} {rest : List LoadedDocument}
    (h : w.documents p = d :: rest) (hd : d.isShort = true) (hname : d.halves.name = true) :
    Does w.Within (validateFile p) (.error .unwritable) [] [] := by
  cases hload : w.load p with
  | error f =>
    rw [documents_of_error hload] at h
    exact nomatch h
  | ok ds =>
    rw [documents_of_ok hload] at h
    subst h
    refine (does_attempt (yields_load_of_ok hload)).bind_quiet (Does.bind_error ?_ _)
    have hcompile := w.yields_compileDocument d
    rw [if_pos hd] at hcompile
    have hfirst : Does w.Within (validateDocument p d) (.error .unwritable) [] [] :=
      (does_inSession hcompile).bind_quiet (does_printLine_of_halved hname)
    exact hfirst.bind_error _

/-- **A run that compiles** reports what is not accepted, and then prints the entries of all the
files, up to the first line that cannot be printed. -/
theorem does_compile (asJson : Bool) (hpaths : paths ≠ [])
    (hp : ∀ p ∈ paths, w.foresees p = true) :
    Does w.Within (compile asJson paths)
      ((printed (entryLines asJson (paths.flatMap w.entriesAt))).bind fun _ =>
        .error (.exit (w.exitCode paths)))
      (printable (entryLines asJson (paths.flatMap w.entriesAt)))
      (paths.flatMap w.faultLines) := by
  have hfiles : Does w.Within (paths.mapM compileFile) (.ok (paths.map w.compiled?))
      (paths.flatMap fun _ => []) (paths.flatMap w.faultLines) :=
    .mapM fun p hmem => does_compileFile (hp p hmem)
  rw [List.flatMap_eq_nil_iff.2 fun _ _ => rfl] at hfiles
  have hentries : ((paths.map w.compiled?).map fun r => r.getD []).flatten =
      paths.flatMap w.entriesAt := by
    rw [List.map_map, List.flatMap_def]
    exact congrArg List.flatten (List.map_congr_left fun _ _ => compiled?_getD)
  have haccepted : (paths.map w.compiled?).map Option.isSome = paths.map w.accepts := by
    rw [List.map_map]
    exact List.map_congr_left fun _ _ => isSome_compiled?
  rw [compile, if_neg (by simpa using hpaths), ← List.append_nil (paths.flatMap w.faultLines)]
  refine hfiles.bind ?_
  rw [hentries, haccepted]
  exact (does_printLines _).andThen (does_stop _)

/-- A level that cannot be written ends a run before anything is printed to the output. -/
theorem does_compile_of_overlong (asJson : Bool) {before later : List Path}
    (hbefore : ∀ q ∈ before, w.foresees q = true)
    (hlong : ∃ d ∈ w.documents p, d.isShort = false) :
    Does w.Within (compile asJson (before ++ p :: later)) (.error (.fault .overlongLevel)) []
      (before.flatMap w.faultLines) := by
  have hfiles : Does w.Within ((before ++ p :: later).mapM compileFile)
      (.error (.fault .overlongLevel)) (before.flatMap fun _ => []) (before.flatMap w.faultLines) :=
    .mapM_stop (fun q hq => does_compileFile (hbefore q hq)) (does_compileFile_of_overlong hlong)
  rw [List.flatMap_eq_nil_iff.2 fun _ _ => rfl] at hfiles
  rw [compile, if_neg (by simp)]
  exact hfiles.bind_error _

/-- **A run that checks** says of each document that it is accepted, and of each file that is
not. -/
theorem does_validate (hpaths : paths ≠ []) (hp : ∀ p ∈ paths, w.foresees p = true)
    (hnames : ∀ p ∈ paths, ∀ d ∈ w.documents p, d.halves.name = false) :
    Does w.Within (validate paths) (.error (.exit (w.exitCode paths)))
      (paths.flatMap w.validityLines) [] := by
  have hfiles : Does w.Within (paths.mapM validateFile) (.ok (paths.map w.accepts))
      (paths.flatMap w.validityLines) (paths.flatMap fun _ => []) :=
    .mapM fun p hmem => does_validateFile (hp p hmem) (hnames p hmem)
  rw [List.flatMap_eq_nil_iff.2 fun _ _ => rfl] at hfiles
  rw [validate, if_neg (by simpa using hpaths), ← List.append_nil (paths.flatMap w.validityLines)]
  exact hfiles.bind (does_stop _)

/-- A run without files says so, and looks at nothing. -/
theorem does_compile_nil {I : Session → Prop} (asJson : Bool) :
    Does I (compile asJson []) (.error (.exit 2)) [nothingLine "compile"] [] :=
  (does_print _).bind (does_stop _)

theorem does_validate_nil {I : Session → Prop} :
    Does I (validate []) (.error (.exit 2)) [nothingLine "validate"] [] :=
  (does_print _).bind (does_stop _)

end Batch

end ElementLookup
