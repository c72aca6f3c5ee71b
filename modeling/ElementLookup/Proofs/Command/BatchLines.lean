/-
**Selectors on lines.**

A run that prints selectors ends each of them with a line feed, and writes nothing else.  Whoever
cuts its output at line feeds gets the selectors back as long as none of them has a line feed of its
own; otherwise more pieces come out than there are selectors.  What is not a terminal is given
selectors without style codes besides.  The report of the same run is not troubled by line feeds: it
shows each selector as one text.

Main definitions:

* `Batch.shownSelector?` — the selector that an entry of a report shows;
* `Batch.broken` — a file with a text of two lines.

Main results:

* `Text.split_flatten_iff` — lines are found again exactly if none of them has a separator;
* `Console.split_written_iff` — the same for what is written to a terminal or to another device;
* `Batch.lines_iff` — **the output is one selector per line exactly if no query breaks its line**;
* `Batch.line_feed_breaks_line` — one that does.
-/

import ElementLookup.Proofs.Command.BatchReport
import ElementLookup.Proofs.Selector.LineFeeds

set_option autoImplicit false

namespace ElementLookup

/-! ### Cutting at line feeds -/

namespace Text

variable {sep : Char}

/-- No piece holds the separator. -/
theorem sep_notMem_of_mem_split {cs p : List Char} (h : p ∈ split sep cs) : sep ∉ p := by
  induction cs generalizing p with
  | nil =>
    rw [List.mem_singleton.1 h]
    exact List.not_mem_nil
  | cons c r ih =>
    rw [split] at h
    split at h
    · rcases List.mem_cons.1 h with rfl | h
      · exact List.not_mem_nil
      · exact ih h
    · next hc =>
      have hcons {q : List Char} (hq : sep ∉ q) : sep ∉ c :: q := fun hmem =>
        (List.mem_cons.1 hmem).elim (fun he => hc he.symm) hq
      split at h
      · rw [List.mem_singleton.1 h]
        exact hcons List.not_mem_nil
      · next q qs hsplit =>
        have hrest : ∀ p ∈ q :: qs, sep ∉ p := fun p hp => ih (hsplit ▸ hp)
        rcases List.mem_cons.1 h with rfl | h
        · exact hcons (hrest q List.mem_cons_self)
        · exact hrest p (List.mem_cons_of_mem _ h)

/-- What stands before the first separator is the first piece. -/
theorem split_append {cs : List Char} (h : sep ∉ cs) (r : List Char) :
    split sep (cs ++ sep :: r) = cs :: split sep r := by
  induction cs with
  | nil => rw [List.nil_append, split, if_pos rfl]
  | cons c cs ih =>
    rw [List.mem_cons, not_or] at h
    rw [List.cons_append, split, if_neg (Ne.symm h.1), ih h.2]

/-- Lines that are ended by separators are found again exactly if none of them has a separator. -/
theorem split_flatten_iff (lines : List (List Char)) :
    split sep (lines.flatMap (· ++ [sep])) = lines ++ [[]] ↔ ∀ l ∈ lines, sep ∉ l := by
  constructor
  · intro h l hl
    exact sep_notMem_of_mem_split (h ▸ List.mem_append_left _ hl)
  · intro h
    induction lines with
    | nil => rfl
    | cons l ls ih =>
      rw [List.forall_mem_cons] at h
      rw [List.flatMap_cons, List.append_assoc, List.singleton_append, split_append h.1, ih h.2]
      rfl

end Text

/-- The output is cut into the lines that were printed exactly if none of them has a line feed. -/
theorem Console.split_unlines_iff (lines : List String) :
    Text.split '\n' (Console.unlines lines).toList = lines.map String.toList ++ [[]] ↔
      ∀ line ∈ lines, ¬Selector.HoldsLineFeed line := by
  have hchars : (Console.unlines lines).toList =
      (lines.map String.toList).flatMap (· ++ ['\n']) := by
    rw [Console.unlines, String.toList_join, List.flatMap_map, List.flatMap_map]
    simp only [String.toList_append]
    rfl
  rw [hchars, Text.split_flatten_iff, List.forall_mem_map]
  rfl

/-- Only characters of a line are written. -/
theorem Console.notMem_shown {c : Char} {line : String} (h : c ∉ line.toList) (terminal : Bool) :
    c ∉ (Console.shown terminal line).toList := by
  rw [Console.shown]
  split
  · exact h
  · exact fun hmem => h ((Text.withoutStyles_sublist line).subset hmem)

/-- What is written is cut into the lines that were printed exactly if none of them has a line feed,
and if none has style codes, unless it is written to a terminal. -/
theorem Console.split_written_iff (terminal : Bool) (lines : List String) :
    Text.split '\n' (Console.written terminal lines).toList = lines.map String.toList ++ [[]] ↔
      ∀ line ∈ lines, ¬Selector.HoldsLineFeed line ∧ Console.shown terminal line = line := by
  rw [Console.written]
  constructor
  · intro h
    have hpieces : ∀ line ∈ lines, ¬Selector.HoldsLineFeed line := fun line hline =>
      Text.sep_notMem_of_mem_split (h ▸ List.mem_append_left _ (List.mem_map_of_mem hline))
    -- what is written has no line feed either, so its lines are found again
    have hwritten := (Console.split_unlines_iff (lines.map (Console.shown terminal))).2
      (List.forall_mem_map.2 fun line hline => Console.notMem_shown (hpieces line hline) terminal)
    have hsame := List.append_cancel_right (hwritten.symm.trans h)
    rw [List.map_map, List.map_inj_left] at hsame
    exact fun line hline => ⟨hpieces line hline, String.toList_inj.1 (hsame line hline)⟩
  · intro h
    rw [List.map_congr_left fun line hline => (h line hline).2, List.map_id',
      Console.split_unlines_iff]
    exact fun line hline => (h line hline).1

theorem Console.shown_eq_iff (terminal : Bool) (line : String) :
    Console.shown terminal line = line ↔ terminal = false → Text.withoutStyles line = line := by
  cases terminal <;> simp [Console.shown]

namespace Batch

open Command Surroundings

/-! ### Selectors and entries -/

/-- The selector that an entry of a report shows. -/
def shownSelector? : Json → Option String
  | .object members =>
    match members.find? fun m => m.1 = "selector" with
    | some (_, .text s) => some s
    | _ => none
  | _ => none

variable {w : Surroundings} {paths : List Path}

/-- A report shows the selectors that are printed, in the same order. -/
theorem shownSelector?_shownAt (w : Surroundings) (paths : List Path) :
    (paths.flatMap w.shownAt).map shownSelector? = (paths.flatMap w.selectorsAt).map some := by
  rw [List.map_flatMap, List.map_flatMap]
  refine congrArg List.flatten (List.map_congr_left fun p _ => ?_)
  rw [shownAt, selectorsAt, List.map_flatMap, List.map_flatMap]
  refine congrArg List.flatten (List.map_congr_left fun d _ => ?_)
  rw [List.map_map, List.map_map]
  rfl

/-- Selectors are those of the queries. -/
theorem forall_mem_selectorsAt {P : String → Prop} :
    (∀ s ∈ paths.flatMap w.selectorsAt, P s) ↔
      ∀ p ∈ paths, ∀ d ∈ w.documents p, ∀ q ∈ d.document.queries, P (w.selector d q) := by
  simp only [List.forall_mem_flatMap, selectorsAt, List.forall_mem_map]

/-! ### Runs -/

/-- **What a run over accepted files prints** are the selectors that it reports, and they stand on
lines of their own exactly if no query breaks its line and, unless they are written to a terminal,
none has a selector with style codes. -/
theorem lines_iff {c : Console} (hc : w.Within c.session) (hne : paths ≠ [])
    (hp : ∀ p ∈ paths, w.accepts p = true ∧ w.foresees p = true)
    (hwritable : ∀ p ∈ paths, ∀ d ∈ w.documents p, d.isWritable = true) :
    (∃ t, after (compile false paths) c =
      (.error (.exit 0), ⟨t, c.out ++ paths.flatMap w.selectorsAt, c.err⟩)) ∧
    (∃ t, after (compile true paths) c = (.error (.exit 0),
      ⟨t, c.out ++ [(Json.object [("selectors", .list (paths.flatMap w.shownAt))]).pretty],
        c.err⟩)) ∧
    (paths.flatMap w.shownAt).map shownSelector? = (paths.flatMap w.selectorsAt).map some ∧
    ∀ terminal, Text.split '\n' (Console.written terminal (paths.flatMap w.selectorsAt)).toList =
        (paths.flatMap w.selectorsAt).map String.toList ++ [[]] ↔
      ∀ p ∈ paths, ∀ d ∈ w.documents p, ∀ q ∈ d.document.queries,
        ¬q.BreaksLine (d.document.testIdAttribute.getD w.idAttribute) ∧
          (terminal = false → Text.withoutStyles (w.selector d q) = w.selector d q) := by
  have hforeseen : ∀ p ∈ paths, w.foresees p = true := fun p hmem => (hp p hmem).2
  obtain ⟨t, ht, -⟩ := does_compile_of_writable false hne hforeseen hwritable c hc
  obtain ⟨u, hu, -⟩ := does_compile_of_writable true hne hforeseen hwritable c hc
  have hcode : w.exitCode paths = 0 := by
    rw [exitCode_eq, if_pos (List.all_eq_true.2 fun p hmem => (hp p hmem).1)]
  have hfaults : paths.flatMap w.faultLines = [] :=
    List.flatMap_eq_nil_iff.2 fun p hmem => faultLines_of_accepts (hp p hmem).1
  rw [hcode, hfaults, List.append_nil] at ht hu
  refine ⟨⟨t, ht⟩, ⟨u, hu⟩, shownSelector?_shownAt w paths, fun terminal => ?_⟩
  rw [Console.split_written_iff, forall_mem_selectorsAt]
  simp only [Console.shown_eq_iff, selector, Query.holdsLineFeed_selector_iff]

theorem selectorsAt_mixed : [rootPath "a.yaml"].flatMap mixed.selectorsAt =
    ["text=a", "role=link", "internal:attr=[data-testid=\"b\"]"] := by
  rw [List.flatMap_singleton, selectorsAt, mixed_good.1]
  rfl

/-- Selectors without line feeds stand on lines of their own. -/
theorem lines_iff_mixed :
    (∀ p ∈ [rootPath "a.yaml"], mixed.accepts p = true ∧ mixed.foresees p = true) ∧
    (∃ t, after (compile false [rootPath "a.yaml"]) ⟨mixed.session, [], []⟩ = (.error (.exit 0),
      ⟨t, ["text=a", "role=link", "internal:attr=[data-testid=\"b\"]"], []⟩)) ∧
    Text.split '\n' (Console.written false
        ["text=a", "role=link", "internal:attr=[data-testid=\"b\"]"]).toList =
      ["text=a".toList, "role=link".toList, "internal:attr=[data-testid=\"b\"]".toList, []] := by
  have hgood := mixed_foreseen (rootPath "a.yaml") (by decide)
  have hp : ∀ p ∈ [rootPath "a.yaml"], mixed.accepts p = true ∧ mixed.foresees p = true := by
    rw [List.forall_mem_singleton, accepts, mixed_good.2]
    exact ⟨rfl, hgood.1⟩
  have hwritable : ∀ p ∈ [rootPath "a.yaml"], ∀ d ∈ mixed.documents p, d.isWritable = true := by
    rw [List.forall_mem_singleton]
    exact fun d hd => (LoadedDocument.isWhole_iff.1 (hgood.2 d hd)).2
  obtain ⟨hlines, -, -, hiff⟩ := lines_iff (c := ⟨mixed.session, [], []⟩) mixed.within_session
    (by simp) hp hwritable
  rw [selectorsAt_mixed] at hlines hiff
  refine ⟨hp, hlines, (hiff false).2 ?_⟩
  rw [List.forall_mem_singleton, mixed_good.1]
  decide

/-! ### A text of two lines -/

/-- A file with a text of two lines. -/
def broken : Surroundings :=
  .ofTexts [("a.yaml", "queries:\n- kind: text\n  value: \"a\\nb\"\n  exact: true\n")]

theorem broken_good : broken.fault? (rootPath "a.yaml") = none ∧
    broken.documents (rootPath "a.yaml") =
      [⟨⟨"1", none, none, [.text ⟨.text, none, .literal "a\nb", true⟩]⟩,
        ⟨false, [⟨false, false⟩]⟩⟩] := by
  rw [documents, fault?, broken, load_ofTexts (named_rootPath (by simp) (by decide))]
  decide +kernel

/-- The selector of such a text is printed on two lines, and reported as one. -/
theorem line_feed_breaks_line :
    broken.accepts (rootPath "a.yaml") = true ∧
    (∃ t, after (compile false [rootPath "a.yaml"]) ⟨broken.session, [], []⟩ =
      (.error (.exit 0), ⟨t, ["text=\"a\nb\""], []⟩)) ∧
    ([rootPath "a.yaml"].flatMap broken.shownAt).map shownSelector? = [some "text=\"a\nb\""] ∧
    Text.split '\n' (Console.written false ["text=\"a\nb\""]).toList =
      ["text=\"a".toList, "b\"".toList, []] := by
  obtain ⟨hfault, hdocuments⟩ := broken_good
  have haccepts : broken.accepts (rootPath "a.yaml") = true := by
    rw [accepts, hfault]
    rfl
  have hforeseen : ∀ p ∈ [rootPath "a.yaml"], broken.foresees p = true := by
    rw [List.forall_mem_singleton, foresees, reports, hfault, hdocuments]
    rfl
  have hwritable : ∀ p ∈ [rootPath "a.yaml"], ∀ d ∈ broken.documents p, d.isWritable = true := by
    rw [List.forall_mem_singleton, hdocuments, List.forall_mem_singleton]
    rfl
  have hselectors : [rootPath "a.yaml"].flatMap broken.selectorsAt = ["text=\"a\nb\""] := by
    rw [List.flatMap_singleton, selectorsAt, hdocuments]
    rfl
  obtain ⟨t, ht, -⟩ := does_compile_of_writable false (by simp) hforeseen hwritable
    ⟨broken.session, [], []⟩ broken.within_session
  refine ⟨haccepts, ⟨t, ht.trans ?_⟩, ?_, by decide⟩
  · change (_, (⟨t, [] ++ [rootPath "a.yaml"].flatMap broken.selectorsAt, _⟩ : Console)) = _
    rw [hselectors, List.flatMap_singleton, faultLines_of_accepts haccepts, exitCode_eq,
      List.all_cons, haccepts]
    rfl
  · rw [shownSelector?_shownAt, hselectors]
    rfl

end Batch

end ElementLookup
