/-
**What the entries of a file show.**

Entries are made of three lists side by side: the queries of a document, the notes of what cannot be
written, and the selectors.  A document that was loaded has as many notes as queries, so no query is
lost: its entries show its queries, one by one and in order, and each of them as the file, the
document and the query demand.

Main definitions:

* `Batch.Surroundings.shown` — what a report shows of a query;
* `Batch.Surroundings.shownAt`, `Batch.Surroundings.selectorsAt` — what is shown of a file;
* `Batch.Surroundings.printedLines` — what a run prints if everything can be written;
* `LoadedDocument.isWritable`, `LoadedDocument.hasWritableSelectors` — whether that can be written;
* `LoadedDocument.isWhole` — whether all that is ever shown of a document can be.

Main results:

* `Batch.entriesFor_map` — an entry for each query and note;
* `Batch.Surroundings.map_toJson_entriesAt`, `Batch.Surroundings.map_selector_entriesAt` —
  **no query is lost, none is shown twice**;
* `Batch.Surroundings.any_halved_entriesAt` — entries can be written if their documents can;
* `Batch.does_compile_of_writable` — a run prints all that it has to print.
-/

import ElementLookup.Proofs.Command.Surroundings

set_option autoImplicit false

namespace ElementLookup

/-! ### Writing -/

/-- Whether everything that a report shows of a document can be written. -/
def LoadedDocument.isWritable (d : LoadedDocument) : Bool :=
  d.halves.queries.all fun h => !(d.halves.name || h.description || h.selector)

/-- Whether the selectors of a document can be written. -/
def LoadedDocument.hasWritableSelectors (d : LoadedDocument) : Bool :=
  d.halves.queries.all fun h => !h.selector

/-- Whether everything that is ever shown of a document can be written. -/
def LoadedDocument.isWhole (d : LoadedDocument) : Bool :=
  !d.halves.name && d.isWritable

theorem LoadedDocument.isWhole_iff {d : LoadedDocument} :
    d.isWhole = true ↔ d.halves.name = false ∧ d.isWritable = true := by
  rw [isWhole, Bool.and_eq_true, Bool.not_eq_true']

/-- Whatever can be reported can be printed. -/
theorem LoadedDocument.hasWritableSelectors_of_isWritable {d : LoadedDocument}
    (h : d.isWritable = true) : d.hasWritableSelectors = true := by
  rw [isWritable, List.all_eq_true] at h
  rw [hasWritableSelectors, List.all_eq_true]
  intro q hq
  have hnone := h q hq
  rw [Bool.not_eq_true', Bool.or_eq_false_iff] at hnone
  rw [hnone.2, Bool.not_false]

namespace Batch

open Command

/-! ### The entries of a document -/

/-- A third list that is made from the first one can be made afterwards. -/
theorem zip_zip_map {α β γ : Type} (f : α → γ) (as : List α) (bs : List β) :
    (as.zip bs).zip (as.map f) = (as.zip bs).map fun e => (e, f e.1) := by
  induction as generalizing bs with
  | nil => rfl
  | cons a r ih =>
    cases bs with
    | nil => rfl
    | cons b r' => simp only [List.map_cons, List.zip_cons_cons, ih]

theorem any_congr_of_mem {α : Type} {f g : α → Bool} {l : List α} (h : ∀ a ∈ l, f a = g a) :
    l.any f = l.any g := by
  rw [Bool.eq_iff_iff, List.any_eq_true, List.any_eq_true]
  exact exists_congr fun a => and_congr_right fun ha => by rw [h a ha]

/-- Selectors that are made query by query go to the entries of their queries. -/
theorem entriesFor_map (p : Path) (d : LoadedDocument) (f : Query → String) :
    entriesFor p d (d.document.queries.map f) =
      (d.document.queries.zip d.halves.queries).map fun e => entryFor p d e.1 e.2 (f e.1) := by
  rw [entriesFor, zip_zip_map, List.map_map]
  rfl

namespace Surroundings

variable {w : Surroundings} {p : Path} {d : LoadedDocument}

/-- What a report shows of a query: the file, the document, and what the query itself says. -/
def shown (w : Surroundings) (p : Path) (d : LoadedDocument) (q : Query) : Json :=
  .object [("file", .text p.text), ("document", Json.ofText? d.document.name),
    ("kind", .text q.kind.name), ("description", Json.ofText? q.description),
    ("selector", .text (w.selector d q))]

/-- What is made of entries without looking at notes is made query by query. -/
theorem map_entriesIn {β : Type} (hd : d.Complete) {f : Entry → β} {g : Query → β}
    (h : ∀ q n, f (entryFor p d q n (w.selector d q)) = g q) :
    (w.entriesIn p d).map f = d.document.queries.map g := by
  rw [entriesIn, entriesFor_map, List.map_map]
  have hfirst : (d.document.queries.zip d.halves.queries).map Prod.fst = d.document.queries :=
    List.map_fst_zip (Nat.le_of_eq hd.symm)
  conv => rhs; rw [← hfirst, List.map_map]
  exact List.map_congr_left fun e _ => h e.1 e.2

/-- What is asked of entries without looking at queries is asked note by note. -/
theorem any_entriesIn (hd : d.Complete) {f : Entry → Bool} {g : QueryHalves → Bool}
    (h : ∀ q n, f (entryFor p d q n (w.selector d q)) = g n) :
    (w.entriesIn p d).any f = d.halves.queries.any g := by
  rw [entriesIn, entriesFor_map, List.any_map]
  have hsecond : (d.document.queries.zip d.halves.queries).map Prod.snd = d.halves.queries :=
    List.map_snd_zip (Nat.le_of_eq hd)
  conv => rhs; rw [← hsecond, List.any_map]
  exact List.any_congr rfl fun e => h e.1 e.2

theorem map_toJson_entriesIn (hd : d.Complete) :
    (w.entriesIn p d).map Entry.toJson = d.document.queries.map (w.shown p d) :=
  map_entriesIn hd fun _ _ => rfl

theorem map_selector_entriesIn (hd : d.Complete) :
    (w.entriesIn p d).map Entry.selector = d.document.queries.map (w.selector d) :=
  map_entriesIn hd fun _ _ => rfl

theorem any_halved_entriesIn (hd : d.Complete) :
    (w.entriesIn p d).any Entry.halved = !d.isWritable := by
  rw [any_entriesIn hd fun _ _ => rfl, LoadedDocument.isWritable, List.not_all_eq_any_not]
  exact List.any_congr rfl fun _ => (Bool.not_not _).symm

theorem any_halvedSelector_entriesIn (hd : d.Complete) :
    (w.entriesIn p d).any Entry.halvedSelector = !d.hasWritableSelectors := by
  rw [any_entriesIn hd fun _ _ => rfl, LoadedDocument.hasWritableSelectors,
    List.not_all_eq_any_not]
  exact List.any_congr rfl fun _ => (Bool.not_not _).symm

/-! ### The entries of a file -/

/-- What a report shows of a file: its queries, document by document. -/
def shownAt (w : Surroundings) (p : Path) : List Json :=
  (w.documents p).flatMap fun d => d.document.queries.map (w.shown p d)

/-- The selectors of a file, document by document. -/
def selectorsAt (w : Surroundings) (p : Path) : List String :=
  (w.documents p).flatMap fun d => d.document.queries.map (w.selector d)

theorem map_toJson_entriesAt : (w.entriesAt p).map Entry.toJson = w.shownAt p := by
  rw [entriesAt, List.map_flatMap, shownAt]
  exact congrArg List.flatten <| List.map_congr_left fun d hd =>
    map_toJson_entriesIn (complete_of_mem hd)

theorem map_selector_entriesAt : (w.entriesAt p).map Entry.selector = w.selectorsAt p := by
  rw [entriesAt, List.map_flatMap, selectorsAt]
  exact congrArg List.flatten <| List.map_congr_left fun d hd =>
    map_selector_entriesIn (complete_of_mem hd)

theorem any_halved_entriesAt :
    (w.entriesAt p).any Entry.halved = !(w.documents p).all LoadedDocument.isWritable := by
  rw [entriesAt, List.any_flatMap, List.not_all_eq_any_not]
  exact any_congr_of_mem fun d hd => any_halved_entriesIn (complete_of_mem hd)

theorem any_halvedSelector_entriesAt :
    (w.entriesAt p).any Entry.halvedSelector =
      !(w.documents p).all LoadedDocument.hasWritableSelectors := by
  rw [entriesAt, List.any_flatMap, List.not_all_eq_any_not]
  exact any_congr_of_mem fun d hd => any_halvedSelector_entriesIn (complete_of_mem hd)

/-! ### The lines of a run -/

/-- What a run that compiles prints, if everything can be written. -/
def printedLines (w : Surroundings) (asJson : Bool) (paths : List Path) : List String :=
  if asJson then [(Json.object [("selectors", .list (paths.flatMap w.shownAt))]).pretty]
  else paths.flatMap w.selectorsAt

/-- A report shows what there is to show of its files. -/
theorem text_report (w : Surroundings) (paths : List Path) :
    (report (paths.flatMap w.entriesAt)).text =
      (Json.object [("selectors", .list (paths.flatMap w.shownAt))]).pretty := by
  rw [report, List.map_flatMap]
  simp only [map_toJson_entriesAt]

/-- A report can be written if all documents can. -/
theorem halved_report (w : Surroundings) (paths : List Path) :
    (report (paths.flatMap w.entriesAt)).halved =
      !paths.all fun p => (w.documents p).all LoadedDocument.isWritable := by
  rw [report, List.any_flatMap, List.not_all_eq_any_not]
  exact List.any_congr rfl fun _ => any_halved_entriesAt

/-- Selectors can be written if those of all documents can. -/
theorem any_halvedSelector (w : Surroundings) (paths : List Path) :
    (paths.flatMap w.entriesAt).any Entry.halvedSelector =
      !paths.all fun p => (w.documents p).all LoadedDocument.hasWritableSelectors := by
  rw [List.any_flatMap, List.not_all_eq_any_not]
  exact List.any_congr rfl fun _ => any_halvedSelector_entriesAt

theorem text_entryLines (w : Surroundings) (asJson : Bool) (paths : List Path) :
    (entryLines asJson (paths.flatMap w.entriesAt)).map Line.text =
      w.printedLines asJson paths := by
  cases asJson with
  | true => exact congrArg (fun text => [text]) (w.text_report paths)
  | false =>
    change ((paths.flatMap w.entriesAt).map _).map _ = _
    rw [List.map_map, List.map_flatMap]
    exact congrArg List.flatten <| List.map_congr_left fun _ _ => map_selector_entriesAt

/-- Lines can be written if everything that is reported can. -/
theorem whole_entryLines (w : Surroundings) (asJson : Bool) {paths : List Path}
    (h : ∀ p ∈ paths, ∀ d ∈ w.documents p, d.isWritable = true) :
    ∀ line ∈ entryLines asJson (paths.flatMap w.entriesAt), line.halved = false := by
  cases asJson with
  | true =>
    intro line hline
    rw [List.mem_singleton.1 hline, w.halved_report, Bool.not_eq_false', List.all_eq_true]
    exact fun p hp => List.all_eq_true.2 (h p hp)
  | false =>
    have hselectors : (paths.flatMap w.entriesAt).any Entry.halvedSelector = false := by
      rw [w.any_halvedSelector, Bool.not_eq_false', List.all_eq_true]
      exact fun p hp => List.all_eq_true.2 fun d hd =>
        LoadedDocument.hasWritableSelectors_of_isWritable (h p hp d hd)
    intro line hline
    obtain ⟨e, he, rfl⟩ := List.mem_map.1 hline
    exact Bool.eq_false_iff.2 (List.any_eq_false.1 hselectors e he)

end Surroundings

open Surroundings

/-- A run that compiles prints all that it has to print, if everything can be written. -/
theorem does_compile_of_writable {w : Surroundings} {paths : List Path} (asJson : Bool)
    (hpaths : paths ≠ []) (hp : ∀ p ∈ paths, w.foresees p = true)
    (hwritable : ∀ p ∈ paths, ∀ d ∈ w.documents p, d.isWritable = true) :
    Does w.Within (compile asJson paths) (.error (.exit (w.exitCode paths)))
      (w.printedLines asJson paths) (paths.flatMap w.faultLines) := by
  have hrun := does_compile asJson hpaths hp
  have hlines := w.whole_entryLines asJson hwritable
  rw [printed_of_whole hlines, printable_of_whole hlines, w.text_entryLines] at hrun
  exact hrun

end Batch

end ElementLookup
