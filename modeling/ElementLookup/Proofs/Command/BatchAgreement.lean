/-
**Checking and compiling agree.**

Given the same arguments, a run that checks query files and a run that compiles them end with the
same exit code and say the same of the files that are not accepted; the one says it to the output
while it goes on, the other to the error output.  A file is never both accepted and reported, since
compiling cannot fail any more once a file has been loaded.  And what the one run counts, the other
one reports.

Main definitions:

* `Batch.isFaultLine`, `Batch.isAcceptedLine` — what the lines of a run that checks are about;
* `Batch.Surroundings.documentsOf` — the documents of several files;
* `Batch.Agreement` — what it means that the runs agree.

Main results:

* `Batch.agreement_of_read` — **runs that are given the same arguments agree**;
* `Batch.unwritable_name_disagrees` — they do not if a name cannot be written.
-/

import ElementLookup.Proofs.Command.BatchReport
import ElementLookup.Proofs.Command.Runs

set_option autoImplicit false

namespace ElementLookup.Batch

open Command Surroundings

/-! ### Lines -/

/-- Whether a line reports a file. -/
def isFaultLine (line : String) : Bool := "ERR ".toList.isPrefixOf line.toList

/-- Whether a line says that a document is accepted. -/
def isAcceptedLine (line : String) : Bool := "OK  ".toList.isPrefixOf line.toList

theorem isFaultLine_faultLine (p : Path) (f : LoadFault) : isFaultLine (faultLine p f) = true := by
  rw [isFaultLine, faultLine, String.append_assoc, String.append_assoc, String.toList_append]
  rfl

theorem isFaultLine_acceptedLine (p : Path) (d : QueryDocument) :
    isFaultLine (acceptedLine p d) = false := by
  unfold isFaultLine acceptedLine
  simp only [String.append_assoc, String.toList_append]
  rfl

theorem isAcceptedLine_faultLine (p : Path) (f : LoadFault) :
    isAcceptedLine (faultLine p f) = false := by
  unfold isAcceptedLine faultLine
  simp only [String.append_assoc, String.toList_append]
  rfl

theorem isAcceptedLine_acceptedLine (p : Path) (d : QueryDocument) :
    isAcceptedLine (acceptedLine p d) = true := by
  unfold isAcceptedLine acceptedLine
  simp only [String.append_assoc, String.toList_append]
  rfl

namespace Surroundings

/-- The documents of several files, each with its file. -/
def documentsOf (w : Surroundings) (paths : List Path) : List (Path × LoadedDocument) :=
  paths.flatMap fun p => (w.documents p).map fun d => (p, d)

variable (w : Surroundings) (p : Path) (paths : List Path)

theorem filter_isFaultLine_validityLines :
    (w.validityLines p).filter isFaultLine = w.faultLines p := by
  rw [validityLines, List.filter_append, List.filter_eq_nil_iff.2, List.nil_append,
    List.filter_eq_self]
  · intro line hline
    obtain ⟨f, -, rfl⟩ := List.mem_map.1 hline
    exact isFaultLine_faultLine p f
  · intro line hline
    obtain ⟨d, -, rfl⟩ := List.mem_map.1 hline
    rw [isFaultLine_acceptedLine]
    exact Bool.false_ne_true

theorem filter_isAcceptedLine_validityLines :
    (w.validityLines p).filter isAcceptedLine =
      (w.documents p).map fun d => acceptedLine p d.document := by
  rw [validityLines, List.filter_append, List.filter_eq_self.2, List.filter_eq_nil_iff.2,
    List.append_nil]
  · intro line hline
    obtain ⟨f, -, rfl⟩ := List.mem_map.1 hline
    rw [isAcceptedLine_faultLine]
    exact Bool.false_ne_true
  · intro line hline
    obtain ⟨d, -, rfl⟩ := List.mem_map.1 hline
    exact isAcceptedLine_acceptedLine p d.document

/-- What a run that checks reports is what a run that compiles says to the error output. -/
theorem filter_isFaultLine_outLines :
    (w.outLines .validity paths).filter isFaultLine = paths.flatMap w.faultLines := by
  cases paths with
  | nil => rfl
  | cons p rest =>
    change ((p :: rest).flatMap w.validityLines).filter isFaultLine = _
    rw [List.filter_flatMap]
    simp only [filter_isFaultLine_validityLines]

theorem filter_isAcceptedLine_outLines :
    (w.outLines .validity paths).filter isAcceptedLine =
      (w.documentsOf paths).map fun e => acceptedLine e.1 e.2.document := by
  cases paths with
  | nil => rfl
  | cons p rest =>
    change ((p :: rest).flatMap w.validityLines).filter isAcceptedLine = _
    rw [List.filter_flatMap, documentsOf, List.map_flatMap]
    simp only [filter_isAcceptedLine_validityLines, List.map_map]
    rfl

theorem flatMap_shownAt : paths.flatMap w.shownAt =
    (w.documentsOf paths).flatMap fun e => e.2.document.queries.map (w.shown e.1 e.2) := by
  rw [documentsOf, List.flatMap_assoc]
  refine congrArg List.flatten (List.map_congr_left fun p _ => ?_)
  rw [shownAt, List.flatMap_map]

theorem outLines_of_ne (goal : Goal) {paths : List Path} (h : paths ≠ []) :
    w.outLines goal paths =
      match goal with
      | .lines => w.printedLines false paths
      | .json => w.printedLines true paths
      | .validity => paths.flatMap w.validityLines := by
  have hsome : paths.isEmpty = false := by simpa using h
  rw [outLines.eq_def, hsome]
  rfl

/-- A file is accepted or reported, never both. -/
theorem apart : w.documents p = [] ∨ w.faultLines p = [] := by
  cases h : w.fault? p with
  | none =>
    right
    rw [faultLines, h]
    rfl
  | some f =>
    left
    exact documents_eq_nil_iff.2 (by rw [h]; exact Option.some_ne_none f)

end Surroundings

/-! ### Agreement -/

/-- A run that checks agrees with runs over the same files that print selectors and report them. -/
structure Agreement (w : Surroundings) (paths : List Path) (check lines report : Outcome) :
    Prop where
  /-- All end with the same exit code. -/
  exitCode : lines.exitCode = check.exitCode ∧ report.exitCode = check.exitCode
  /-- They report the same files, in the same order and with the same words. -/
  faults : lines.console.err = check.console.out.filter isFaultLine ∧
    report.console.err = check.console.out.filter isFaultLine ∧ check.console.err = []
  /-- No file is both accepted and reported. -/
  apart : ∀ p, w.documents p = [] ∨ w.faultLines p = []
  /-- The run that checks goes from file to file. -/
  checked : paths ≠ [] → check.console.out = paths.flatMap fun p =>
    (w.documents p).map (fun d => acceptedLine p d.document) ++ w.faultLines p
  /-- It accepts each document, with the number of its queries. -/
  accepted : check.console.out.filter isAcceptedLine =
    (w.documentsOf paths).map fun e => acceptedLine e.1 e.2.document
  /-- The report shows as many entries for each of these documents, one after the other. -/
  reported : paths ≠ [] → report.console.out = [(Json.object [("selectors", .list
    ((w.documentsOf paths).flatMap fun e => e.2.document.queries.map (w.shown e.1 e.2)))]).pretty]

/-- **Runs that are given the same arguments agree**, if all that they have to show can be
written. -/
theorem agreement_of_read {depths : Depths} {environment : Environment} {files : Files}
    {severity : Log.Severity} {handlers : List Log.Handler} {settings : Settings}
    {args : List String} {r : Reading Choice} {w : Surroundings}
    (hw : w = .atStart depths environment files settings)
    (hsettings :
      (Session.start depths environment files severity handlers).available = .ok settings)
    (hread : (Name.signature .validate).read args = .ok r) (hnotice : notice? r = none)
    (hfiles : ∀ paths, w.reached (scope? w.files r) = .ok paths → ∀ p ∈ paths,
      w.foresees p = true ∧ ∀ d ∈ w.documents p, d.isWhole = true) :
    Agreement w ((w.reached (scope? w.files r)).toOption.getD [])
      (outcome (Session.start depths environment files severity handlers) ("validate" :: args))
      (outcome (Session.start depths environment files severity handlers) ("compile" :: args))
      (outcome (Session.start depths environment files severity handlers)
        ("compile" :: "--json" :: args)) := by
  subst hw
  obtain ⟨t, hstart, ht⟩ := Surroundings.within_atStart hsettings
  obtain ⟨hcheck, hlines, hreport⟩ := requests_of_read _ hread hnotice
  obtain ⟨u₁, h₁⟩ := outcome_of_scope hstart ht hcheck hfiles
  obtain ⟨u₂, h₂⟩ := outcome_of_scope hstart ht hlines hfiles
  obtain ⟨u₃, h₃⟩ := outcome_of_scope hstart ht hreport hfiles
  change outcome _ ("validate" :: args) = _ at h₁
  change outcome _ ("compile" :: args) = _ at h₂
  change outcome _ ("compile" :: "--json" :: args) = _ at h₃
  rw [h₁, h₂, h₃]
  generalize hw : Surroundings.atStart depths environment files settings = w
  cases w.reached (scope? w.files r) with
  | error stop =>
    exact ⟨⟨rfl, rfl⟩, ⟨rfl, rfl, rfl⟩, w.apart, fun h => absurd rfl h, rfl, fun h => absurd rfl h⟩
  | ok paths =>
    refine ⟨⟨rfl, rfl⟩, ⟨?_, ?_, rfl⟩, w.apart, fun hne => ?_, ?_, fun hne => ?_⟩
    · exact (w.filter_isFaultLine_outLines paths).symm
    · exact (w.filter_isFaultLine_outLines paths).symm
    · exact w.outLines_of_ne .validity hne
    · exact w.filter_isAcceptedLine_outLines paths
    · refine (w.outLines_of_ne .json hne).trans ?_
      rw [← w.flatMap_shownAt]
      rfl

/-- Runs over a good file, a bad one and a missing one agree. -/
theorem agreement_of_read_mixed :
    mixed.beginning.available = .ok mixed.settings ∧
    (Name.signature .validate).read ["a.yaml", "b.yaml", "c.yaml"] =
      .ok ⟨[], ["a.yaml", "b.yaml", "c.yaml"]⟩ ∧
    Agreement mixed mixedPaths
      (outcome mixed.beginning ["validate", "a.yaml", "b.yaml", "c.yaml"])
      (outcome mixed.beginning ["compile", "a.yaml", "b.yaml", "c.yaml"])
      (outcome mixed.beginning ["compile", "--json", "a.yaml", "b.yaml", "c.yaml"]) ∧
    (outcome mixed.beginning ["validate", "a.yaml", "b.yaml", "c.yaml"]).console.out =
      ["OK  /a.yaml  ->  pair (2 queries)", "OK  /a.yaml  ->  <unnamed> (1 queries)",
        "ERR /b.yaml  ->  Document 2 in /b.yaml must be a mapping/object.",
        "ERR /c.yaml  ->  Query file not found: /c.yaml"] := by
  have hsettings : mixed.beginning.available = .ok mixed.settings :=
    available_ofTexts (by decide) _ _
  have hread : (Name.signature .validate).read ["a.yaml", "b.yaml", "c.yaml"] =
      .ok ⟨[], ["a.yaml", "b.yaml", "c.yaml"]⟩ := Signature.read_positional _ _ (by decide)
  have hreached : mixed.reached (scope? mixed.files ⟨[], ["a.yaml", "b.yaml", "c.yaml"]⟩) =
      .ok mixedPaths := by
    have hscope : scope? mixed.files ⟨[], ["a.yaml", "b.yaml", "c.yaml"]⟩ =
        .ok ⟨["a.yaml", "b.yaml", "c.yaml"], none, true⟩ := rfl
    have hnamed : ∀ name ∈ ["a.yaml", "b.yaml", "c.yaml"], Named (rootPath name) name ∧
        Path.resolve ⟨.root, []⟩ (Path.ofText name) = rootPath name := by
      simp only [List.forall_mem_cons]
      refine ⟨⟨named_rootPath (by simp) (by decide), by decide⟩,
        ⟨named_rootPath (by simp) (by decide), by decide⟩,
        ⟨named_rootPath (by simp) (by decide), by decide⟩, nofun⟩
    rw [hscope, reached, mixed, collected_ofTexts (by decide) hnamed]
    rfl
  have hagree := agreement_of_read (w := mixed) (atStart_ofTexts _).symm hsettings hread rfl
    (fun paths hpaths => by
      rw [hreached] at hpaths
      cases hpaths
      exact mixed_foreseen)
  rw [hreached] at hagree
  refine ⟨hsettings, hread, hagree, (hagree.checked (by decide)).trans ?_⟩
  simp only [Except.toOption, Option.getD_some, mixedPaths, List.flatMap_cons, List.flatMap_nil,
    faultLines, mixed_good, mixed_bad, mixed_missing]
  rfl

/-! ### A name that cannot be written -/

/-- A file without queries, whose document has half a surrogate pair for a name. -/
def unnamable : Surroundings :=
  .ofTexts [("a.yaml", "name: \"\\ud800\"\nqueries: []\n")]

theorem documents_unnamable : unnamable.fault? (rootPath "a.yaml") = none ∧
    unnamable.documents (rootPath "a.yaml") =
      [⟨⟨"1", some "\uFFFD", none, []⟩, ⟨true, []⟩⟩] := by
  rw [documents, fault?, unnamable, load_ofTexts (named_rootPath (by simp) (by decide))]
  decide +kernel

theorem yields_collect_unnamable :
    Session.Yields unnamable.Within (collect ⟨["a.yaml"], none, true⟩)
      (.ok [rootPath "a.yaml"]) := by
  have hnamed : ∀ name ∈ ["a.yaml"], Named (rootPath name) name ∧
      Path.resolve ⟨.root, []⟩ (Path.ofText name) = rootPath name := by
    simp only [List.forall_mem_cons]
    exact ⟨⟨named_rootPath (by simp) (by decide), by decide⟩, nofun⟩
  have hcollected : unnamable.collected ⟨["a.yaml"], none, true⟩ = .ok [rootPath "a.yaml"] :=
    collected_ofTexts (by decide) hnamed _ _
  rw [← hcollected]
  exact yields_collect _

/-- Its name is to be printed if the file is checked. -/
theorem does_validate_unnamable :
    Does unnamable.Within (perform .validate (.batch .validity ⟨["a.yaml"], none, true⟩))
      (.error .unwritable) [] [] := by
  refine (does_inSession yields_collect_unnamable).bind_quiet (Does.bind_error ?_ _)
  rw [List.mapM_cons]
  exact (does_validateFile_of_unwritable documents_unnamable.2 rfl rfl).bind_error _

/-- Nothing is to be printed if it is compiled. -/
theorem does_compile_unnamable :
    Does unnamable.Within (perform .compile (.batch .lines ⟨["a.yaml"], none, true⟩))
      (.error (.exit 0)) [] [] := by
  obtain ⟨hfault, hdocuments⟩ := documents_unnamable
  refine (does_inSession yields_collect_unnamable).bind_quiet ?_
  have hforeseen : ∀ p ∈ [rootPath "a.yaml"], unnamable.foresees p = true := by
    rw [List.forall_mem_singleton, foresees, reports, hfault, hdocuments]
    rfl
  have hentries : [rootPath "a.yaml"].flatMap unnamable.entriesAt = [] := by
    rw [List.flatMap_singleton, entriesAt, hdocuments]
    rfl
  have hrun := does_compile false (by simp) hforeseen
  rw [hentries, List.flatMap_singleton, faultLines, hfault, exitCode_eq, List.all_cons, accepts,
    hfault] at hrun
  exact hrun

/-- A name that cannot be written makes a run fail that checks, but none that compiles. -/
theorem unwritable_name_disagrees :
    unnamable.beginning.available = .ok unnamable.settings ∧
    unnamable.accepts (rootPath "a.yaml") = true ∧
    (outcome unnamable.beginning ["validate", "a.yaml"]).exitCode = 1 ∧
    (outcome unnamable.beginning ["validate", "a.yaml"]).console.out = [] ∧
    (outcome unnamable.beginning ["compile", "a.yaml"]).exitCode = 0 := by
  have hsettings : unnamable.beginning.available = .ok unnamable.settings :=
    available_ofTexts (by decide) _ _
  obtain ⟨t, hstart, ht⟩ := within_atStart hsettings
  change unnamable.Within t at ht
  obtain ⟨hcheck, hlines, -⟩ := requests_of_read unnamable.files
    (Signature.read_positional _ ["a.yaml"] (by decide)) rfl
  obtain ⟨u, hu⟩ := outcome_of_does hstart ht hcheck does_validate_unnamable
  obtain ⟨v, hv⟩ := outcome_of_does hstart ht hlines does_compile_unnamable
  change outcome unnamable.beginning ["validate", "a.yaml"] = _ at hu
  change outcome unnamable.beginning ["compile", "a.yaml"] = _ at hv
  rw [hu, hv]
  refine ⟨hsettings, ?_, rfl, rfl, rfl⟩
  rw [accepts, documents_unnamable.1]
  rfl

end ElementLookup.Batch
