/-
**The report of a run.**

A run that compiles and reports its selectors looks at every file, in order.  A file that is
accepted contributes all of its queries to the report; one that is not contributes nothing to it,
and a single line to the error output.  What a file contributes depends on that file alone.  The
report is printed as a whole, when all files have been looked at: if a part of it cannot be written,
nothing is.

Main definitions:

* `Batch.mixed`, `Batch.mixedPaths` — a run over a good file, a bad one and a missing one;
* `Batch.halved` — a file with half a surrogate pair.

Main results:

* `Batch.after_compile_of_overlong` — the first level that cannot be written ends a run;
* `Batch.after_compile_of_short` — what a run comes to if there is no such level;
* `Batch.after_compile_report` — **what a run reports, and how it ends**;
* `Batch.accepted_file_not_reported` — an accepted file does not reach the report if a text in it
  cannot be written.
-/

import ElementLookup.Proofs.Command.Entries

set_option autoImplicit false

namespace ElementLookup.Batch

open Command Session Surroundings

variable {w : Surroundings}

/-! ### One line -/

theorem Surroundings.exitCode_eq (w : Surroundings) (paths : List Path) :
    w.exitCode paths = if paths.all w.accepts then 0 else 1 := by
  rw [exitCode, Batch.exitCode, List.all_map]
  rfl

/-- A file that is not accepted has nothing to show, and there is one thing to say of it. -/
theorem shownAt_of_not_accepts {p : Path} (h : w.accepts p = false) :
    w.shownAt p = [] ∧ ∃ f, w.load p = .error f ∧ w.faultLines p = [faultLine p f] := by
  cases hload : w.load p with
  | ok ds =>
    rw [Surroundings.accepts, Surroundings.fault?_of_ok hload] at h
    cases h
  | error f =>
    rw [Surroundings.shownAt, Surroundings.documents_of_error hload, Surroundings.faultLines,
      Surroundings.fault?_of_error hload]
    exact ⟨rfl, f, rfl, rfl⟩

/-! ### Runs -/

/-- A run without files ends at once. -/
theorem after_compile_nil (asJson : Bool) (c : Console) :
    after (compile asJson []) c =
      (.error (.exit 2), ⟨c.session, c.out ++ [nothingLine "compile"], c.err⟩) := by
  obtain ⟨t, ht, rfl⟩ := does_compile_nil (I := (· = c.session)) asJson c rfl
  rw [ht, List.append_nil]

/-- The first level that cannot be written ends a run, and nothing is printed to the output. -/
theorem after_compile_of_overlong (asJson : Bool) {paths : List Path} {c : Console}
    (hc : w.Within c.session) (hp : ∀ p ∈ paths, w.reports p = true)
    (hlong : ∃ p ∈ paths, ∃ d ∈ w.documents p, d.isShort = false) :
    ∃ before t, before <+: paths ∧ after (compile asJson paths) c =
      (.error (.fault .overlongLevel), ⟨t, c.out, c.err ++ before.flatMap w.faultLines⟩) := by
  -- the first file that is not foreseen is one with such a level, since all are reported
  obtain ⟨p, hfind⟩ : ∃ p, paths.find? (fun p => !w.foresees p) = some p := by
    rw [← Option.isSome_iff_exists, List.find?_isSome]
    obtain ⟨p, hmem, d, hd, hshort⟩ := hlong
    refine ⟨p, hmem, ?_⟩
    rw [Bool.not_eq_true', Surroundings.foresees, Bool.and_eq_false_iff, List.all_eq_false]
    exact .inr ⟨d, hd, by rw [hshort]; exact Bool.false_ne_true⟩
  obtain ⟨hfirst, before, later, rfl, hbefore⟩ := List.find?_eq_some_iff_append.1 hfind
  have hdocument : ∃ d ∈ w.documents p, d.isShort = false := by
    rw [Bool.not_eq_true', Surroundings.foresees, hp p (by simp), Bool.true_and,
      List.all_eq_false] at hfirst
    simpa using hfirst
  have hrun : Does w.Within (compile asJson (before ++ p :: later)) _ _ _ :=
    does_compile_of_overlong asJson (fun q hq => by simpa using hbefore q hq) hdocument
  obtain ⟨t, ht, -⟩ := hrun c hc
  rw [List.append_nil] at ht
  exact ⟨before, t, List.prefix_append _ _, ht⟩

/-- What a run over files comes to, if all levels can be written. -/
theorem after_compile_of_short {paths : List Path} {c : Console} (hc : w.Within c.session)
    (hp : ∀ p ∈ paths, w.foresees p = true) (hne : paths ≠ []) :
    ∃ t, after (compile true paths) c =
      if paths.all fun p => (w.documents p).all LoadedDocument.isWritable then
        (.error (.exit (if paths.all w.accepts then 0 else 1)),
          ⟨t, c.out ++ [(Json.object [("selectors", .list (paths.flatMap w.shownAt))]).pretty],
            c.err ++ paths.flatMap w.faultLines⟩)
      else (.error .unwritable, ⟨t, c.out, c.err ++ paths.flatMap w.faultLines⟩) := by
  obtain ⟨t, ht, -⟩ := does_compile true hne hp c hc
  have hline : entryLines true (paths.flatMap w.entriesAt) =
    [report (paths.flatMap w.entriesAt)] := rfl
  rw [hline, printed_singleton, printable_singleton, w.halved_report, w.text_report,
    w.exitCode_eq] at ht
  refine ⟨t, ht.trans ?_⟩
  cases paths.all fun p => (w.documents p).all LoadedDocument.isWritable with
  | true => rfl
  | false => rw [Bool.not_false, if_pos rfl, if_pos rfl, List.append_nil]; rfl

/-- **What a run reports.**  A run without files ends with exit code 2.  Otherwise, each file that
is not accepted contributes one line to the error output and nothing to the report; each one that is
accepted contributes what it has to show, in order; and the exit code is zero exactly if all files
are accepted.  If something cannot be written, no report is printed. -/
theorem after_compile_report {paths : List Path} {c : Console} (hc : w.Within c.session)
    (hp : ∀ p ∈ paths, w.reports p = true) :
    (paths = [] → after (compile true paths) c =
      (.error (.exit 2), ⟨c.session, c.out ++ [nothingLine "compile"], c.err⟩)) ∧
    (∀ p, w.accepts p = true → w.faultLines p = []) ∧
    (∀ p, w.accepts p = false →
      w.shownAt p = [] ∧ ∃ f, w.load p = .error f ∧ w.faultLines p = [faultLine p f]) ∧
    ((∀ p ∈ paths, ∀ d ∈ w.documents p, d.isShort = true) → paths ≠ [] →
      ((∀ p ∈ paths, ∀ d ∈ w.documents p, d.isWritable = true) →
        ∃ t, after (compile true paths) c =
          (.error (.exit (if paths.all w.accepts then 0 else 1)),
            ⟨t, c.out ++ [(Json.object [("selectors", .list (paths.flatMap w.shownAt))]).pretty],
              c.err ++ paths.flatMap w.faultLines⟩)) ∧
      ((∃ p ∈ paths, ∃ d ∈ w.documents p, d.isWritable = false) →
        ∃ t, after (compile true paths) c =
          (.error .unwritable, ⟨t, c.out, c.err ++ paths.flatMap w.faultLines⟩))) ∧
    ((∃ p ∈ paths, ∃ d ∈ w.documents p, d.isShort = false) →
      ∃ before t, before <+: paths ∧ after (compile true paths) c =
        (.error (.fault .overlongLevel), ⟨t, c.out, c.err ++ before.flatMap w.faultLines⟩)) := by
  refine ⟨?_, fun p => faultLines_of_accepts, fun p => shownAt_of_not_accepts,
    fun hshort hne => ?_, after_compile_of_overlong true hc hp⟩
  · rintro rfl
    exact after_compile_nil true c
  · have hforeseen : ∀ p ∈ paths, w.foresees p = true := fun p hmem =>
      Bool.and_eq_true_iff.2 ⟨hp p hmem, List.all_eq_true.2 (hshort p hmem)⟩
    obtain ⟨t, ht⟩ := after_compile_of_short hc hforeseen hne
    constructor
    · intro hwritable
      have hall : (paths.all fun p => (w.documents p).all LoadedDocument.isWritable) = true :=
        List.all_eq_true.2 fun p hmem => List.all_eq_true.2 (hwritable p hmem)
      rw [hall] at ht
      exact ⟨t, ht⟩
    · rintro ⟨p, hmem, d, hd, hunwritable⟩
      have hall : (paths.all fun p => (w.documents p).all LoadedDocument.isWritable) = false :=
        List.all_eq_false.2 ⟨p, hmem, by simpa using ⟨d, hd, hunwritable⟩⟩
      rw [hall] at ht
      exact ⟨t, ht⟩

/-! ### A good file, a bad one and a missing one -/

/-- A good file, and one of which only the first document is good. -/
def mixed : Surroundings :=
  .ofTexts [
    ("a.yaml", "name: pair\nqueries:\n- kind: text\n  value: a\n- kind: role\n  role: link\n"
      ++ "---\nqueries:\n- kind: test_id\n  value: b\n"),
    ("b.yaml", "queries:\n- kind: text\n  value: c\n---\n- d\n")]

/-- The documents of the good file. -/
def mixedDocuments : List LoadedDocument :=
  [⟨⟨"1", some "pair", none, [.text ⟨.text, none, .literal "a", false⟩,
      .role ⟨none, "link", none, none, none, none, none, none, none, none⟩]⟩,
    ⟨false, [⟨false, false⟩, ⟨false, false⟩]⟩⟩,
   ⟨⟨"1", none, none, [.text ⟨.testId, none, .literal "b", false⟩]⟩, ⟨false, [⟨false, false⟩]⟩⟩]

theorem mixed_good : mixed.documents (rootPath "a.yaml") = mixedDocuments ∧
    mixed.fault? (rootPath "a.yaml") = none := by
  rw [Surroundings.documents, Surroundings.fault?, mixed,
    Surroundings.load_ofTexts (named_rootPath (by simp) (by decide))]
  decide +kernel

theorem mixed_bad : mixed.documents (rootPath "b.yaml") = [] ∧
    mixed.fault? (rootPath "b.yaml") = some (.notMapping 2 (rootPath "b.yaml")) := by
  rw [Surroundings.documents, Surroundings.fault?, mixed,
    Surroundings.load_ofTexts (named_rootPath (by simp) (by decide))]
  decide +kernel

theorem mixed_missing : mixed.documents (rootPath "c.yaml") = [] ∧
    mixed.fault? (rootPath "c.yaml") = some (.missing (rootPath "c.yaml")) := by
  rw [Surroundings.documents, Surroundings.fault?, mixed,
    Surroundings.load_ofTexts (named_rootPath (by simp) (by decide))]
  decide +kernel

/-- The good file, the other one, and one that is missing. -/
def mixedPaths : List Path := [rootPath "a.yaml", rootPath "b.yaml", rootPath "c.yaml"]

theorem mixed_foreseen : ∀ p ∈ mixedPaths, mixed.foresees p = true ∧
    ∀ d ∈ mixed.documents p, d.isWhole = true := by
  intro p hp
  simp only [mixedPaths, List.mem_cons, List.not_mem_nil, or_false] at hp
  rw [foresees, reports]
  rcases hp with rfl | rfl | rfl
  · rw [mixed_good.1, mixed_good.2]; decide
  · rw [mixed_bad.1, mixed_bad.2]; decide
  · rw [mixed_missing.1, mixed_missing.2]; decide

/-- The good file is reported completely and in order, whatever becomes of the others. -/
theorem after_compile_report_mixed :
    mixed.Within mixed.session ∧ (∀ p ∈ mixedPaths, mixed.reports p = true) ∧
    ∃ t, after (compile true mixedPaths) ⟨mixed.session, [], []⟩ =
      (.error (.exit 1), ⟨t,
        [(Json.object [("selectors", .list [
          .object [("file", .text "/a.yaml"), ("document", .text "pair"), ("kind", .text "text"),
            ("description", .null), ("selector", .text "text=a")],
          .object [("file", .text "/a.yaml"), ("document", .text "pair"), ("kind", .text "role"),
            ("description", .null), ("selector", .text "role=link")],
          .object [("file", .text "/a.yaml"), ("document", .null), ("kind", .text "test_id"),
            ("description", .null),
            ("selector", .text "internal:attr=[data-testid=\"b\"]")]])]).pretty],
        ["ERR /b.yaml  ->  Document 2 in /b.yaml must be a mapping/object.",
          "ERR /c.yaml  ->  Query file not found: /c.yaml"]⟩) := by
  have hreports : ∀ p ∈ mixedPaths, mixed.reports p = true := fun p hp =>
    reports_of_foresees (mixed_foreseen p hp).1
  have hshort : ∀ p ∈ mixedPaths, ∀ d ∈ mixed.documents p, d.isShort = true := fun p hp _ =>
    isShort_of_foresees (mixed_foreseen p hp).1
  have hwritable : ∀ p ∈ mixedPaths, ∀ d ∈ mixed.documents p, d.isWritable = true :=
    fun p hp d hd => (LoadedDocument.isWhole_iff.1 ((mixed_foreseen p hp).2 d hd)).2
  refine ⟨mixed.within_session, hreports, ?_⟩
  obtain ⟨t, ht⟩ := ((after_compile_report (c := ⟨mixed.session, [], []⟩) mixed.within_session
    hreports).2.2.2.1 hshort (by decide)).1 hwritable
  refine ⟨t, ht.trans ?_⟩
  simp only [mixedPaths, List.flatMap_cons, List.flatMap_nil, List.all_cons, List.all_nil,
    Surroundings.shownAt, Surroundings.accepts, Surroundings.faultLines, mixed_good, mixed_bad,
    mixed_missing]
  rfl

/-! ### A file that cannot be reported -/

/-- A file with half a surrogate pair. -/
def halved : Surroundings :=
  .ofTexts [("a.yaml", "queries:\n- kind: text\n  value: \"\\ud800\"\n")]

theorem halved_good : halved.fault? (rootPath "a.yaml") = none ∧
    (halved.documents (rootPath "a.yaml")).map (fun d => d.document.queries.length) = [1] ∧
    halved.foresees (rootPath "a.yaml") = true ∧
    (halved.documents (rootPath "a.yaml")).all LoadedDocument.isWritable = false := by
  rw [Surroundings.foresees, Surroundings.reports, Surroundings.documents, Surroundings.fault?,
    halved, Surroundings.load_ofTexts (named_rootPath (by simp) (by decide))]
  decide +kernel

/-- A file that is accepted may be missing in the report, and make the run fail. -/
theorem accepted_file_not_reported :
    halved.Within halved.session ∧ halved.accepts (rootPath "a.yaml") = true ∧
    (halved.shownAt (rootPath "a.yaml")).length = 1 ∧
    ∃ t, after (compile true [rootPath "a.yaml"]) ⟨halved.session, [], []⟩ =
      (.error .unwritable, ⟨t, [], []⟩) := by
  obtain ⟨hfault, hlength, hforeseen, hunwritable⟩ := halved_good
  refine ⟨halved.within_session, by rw [Surroundings.accepts, hfault]; rfl, ?_, ?_⟩
  · simp [Surroundings.shownAt, hlength]
  · have hforeseens : ∀ p ∈ [rootPath "a.yaml"], halved.foresees p = true := by
      simpa using hforeseen
    obtain ⟨t, ht⟩ := after_compile_of_short (c := ⟨halved.session, [], []⟩)
      halved.within_session hforeseens (by simp)
    refine ⟨t, ht.trans ?_⟩
    simp [hunwritable, Surroundings.faultLines, hfault]

end ElementLookup.Batch
