/-
**Which files a run is about.**

What a run finds in a directory are the places below it whose names end like those of query files,
hidden ones and directories included.  They are looked for by one ending after the other; since no
name has both endings and steps lead to one place, none is found twice, and they are in the order of
paths, compared step by step.  A run that does not go into directories finds those of them that are
directly in the directory.  A run that does is stopped if directories stand below one another too
deeply, or if the path of one of them is too long.

Targets are taken one after the other: a directory stands for what is found in it, anything else for
itself.  A target that cannot be looked up, or in which the search is stopped, ends the collection.
Only a run without targets looks at a directory of its own.

Main definitions:

* `Batch.IsFoundBelow` — a path leads to something that is named like a query file;
* `Batch.IsSearchable` — nothing below a directory stops a search;
* `Batch.FindsOnce` — what is found below a directory, each place once and in order;
* `Batch.targetFiles`, `Batch.filesOfDirectory` — what a target stands for, and what is found in the
  directory of a run without targets.

Main results:

* `Batch.pairwise_queryFilesIn` — what is found is in strict order;
* `Batch.mem_queryFilesIn_iff` — what is found is all there is;
* `Batch.obstacle?_eq_none_iff` — when a search is not stopped;
* `Batch.outcome_mapM_ofTarget` — targets, one after the other;
* `Batch.collect_finds_once` — **what a run is about**.
-/

import ElementLookup.Command.Batch
import ElementLookup.Proofs.Files.Descendants
import ElementLookup.Proofs.Query.LoadOutcome
import ElementLookup.Proofs.Session.Outcome
import Mathlib.Data.List.Sort

set_option autoImplicit false

namespace ElementLookup

namespace Path

/-! ### The order of paths -/

theorem le_iff {p q : Path} : le p q = true ↔ ¬ q.sortKey < p.sortKey := by
  rw [le, Bool.not_eq_true', decide_eq_false_iff_not]

theorem sortKey_join (p : Path) (steps : List String) :
    (p.join ⟨.here, steps⟩).sortKey = p.sortKey ++ steps.map String.toList :=
  List.map_append

theorem map_toList_injective {steps steps' : List String}
    (h : steps.map String.toList = steps'.map String.toList) : steps = steps' :=
  List.map_injective_iff.2 (fun _ _ => String.toList_inj.1) h

/-- Seen from one place, different steps lead to paths with different keys. -/
theorem eq_of_sortKey_join {p : Path} {steps steps' : List String}
    (h : (p.join ⟨.here, steps⟩).sortKey = (p.join ⟨.here, steps'⟩).sortKey) : steps = steps' := by
  rw [sortKey_join, sortKey_join] at h
  exact map_toList_injective (List.append_cancel_left h)

theorem parent_join_eq_iff (p : Path) (steps : List String) (name : String) :
    (p.join ⟨.here, steps ++ [name]⟩).parent = p ↔ steps = [] := by
  have hparent : (p.join ⟨.here, steps ++ [name]⟩).parent = ⟨p.start, p.steps ++ steps⟩ := by
    change (⟨p.start, (p.steps ++ (steps ++ [name])).dropLast⟩ : Path) = _
    rw [← List.append_assoc, List.dropLast_concat]
  rw [hparent]
  constructor
  · intro h
    exact List.append_right_eq_self.1 (congrArg Path.steps h)
  · rintro rfl
    rw [List.append_nil]

/-- Paths with different keys that are sorted are in strict order. -/
theorem pairwise_mergeSort {paths : List Path} (hnodup : paths.Nodup)
    (hkey : ∀ p ∈ paths, ∀ q ∈ paths, p.sortKey = q.sortKey → p = q) :
    (paths.mergeSort le).Pairwise fun p q => p.sortKey < q.sortKey := by
  have hperm := List.mergeSort_perm paths le
  have hsorted : (paths.mergeSort le).Pairwise fun p q => le p q = true := by
    refine List.pairwise_mergeSort (fun p q r hpq hqr => ?_) (fun p q => ?_) _
    · rw [le_iff, List.not_lt] at hpq hqr
      exact le_iff.2 (List.not_lt.2 (List.le_trans hpq hqr))
    · rw [Bool.or_eq_true, le_iff, le_iff, List.not_lt, List.not_lt]
      exact List.le_total _ _
  refine (hsorted.and (hperm.nodup_iff.2 hnodup)).imp_of_mem fun {p q} hp hq ⟨hle, hne⟩ => ?_
  rw [le_iff, List.not_lt] at hle
  rcases List.le_iff_lt_or_eq.1 hle with hlt | heq
  · exact hlt
  · exact absurd (hkey p (hperm.mem_iff.1 hp) q (hperm.mem_iff.1 hq) heq) hne

/-- Paths have one arrangement in strict order, and that is the sorted one. -/
theorem mergeSort_eq_of_perm {paths sorted : List Path} (hperm : sorted.Perm paths)
    (hsorted : sorted.Pairwise fun p q => p.sortKey < q.sortKey) : paths.mergeSort le = sorted := by
  have hkeys : (sorted.map sortKey).Nodup := by
    refine List.pairwise_map.2 (hsorted.imp fun {p q} hlt heq => ?_)
    exact List.lt_irrefl q.sortKey (heq ▸ hlt)
  have hstrict := pairwise_mergeSort (hperm.nodup_iff.1 (List.Nodup.of_map sortKey hkeys))
    fun p hp q hq => List.inj_on_of_nodup_map hkeys (hperm.mem_iff.2 hp) (hperm.mem_iff.2 hq)
  exact ((List.mergeSort_perm paths le).trans hperm.symm).eq_of_pairwise
    (fun p q _ _ hpq hqp => absurd hqp (List.lt_asymm hpq)) hstrict hsorted

end Path

namespace Batch

open Command Session

/-! ### What is found in a directory -/

/-- A path leads to something below a directory whose name ends like that of a query file. -/
def IsFoundBelow (t : FileTree) (root p : Path) : Prop :=
  ∃ steps name u, t.at? (steps ++ [name]) = some u ∧
    (".yaml".toList <:+ name.toList ∨ ".yml".toList <:+ name.toList) ∧
    p = root.join ⟨.here, steps ++ [name]⟩

variable {t : FileTree} {recursive : Bool}

theorem endsWith_concat (ending : String) (steps : List String) (name : String) :
    endsWith ending (steps ++ [name]) = true ↔ ending.toList <:+ name.toList := by
  rw [endsWith, List.getLast?_concat, Option.any_some, List.isSuffixOf_iff_suffix]

/-- No name has both endings. -/
theorem not_both_endings {steps : List String} (h : endsWith ".yaml" steps = true) :
    endsWith ".yml" steps = false := by
  rcases List.eq_nil_or_concat steps with rfl | ⟨steps, name, rfl⟩
  · rfl
  rw [List.concat_eq_append] at h ⊢
  rw [endsWith_concat] at h
  refine Bool.eq_false_iff.2 fun h' => ?_
  rw [endsWith_concat] at h'
  rcases List.suffix_or_suffix_of_suffix h h' with hsuffix | hsuffix <;>
    exact absurd hsuffix (by decide)

/-- The places that are looked at, in a directory or below it. -/
theorem mem_places_iff (h : t.DistinctNames) {steps : List String} :
    steps ∈ (if recursive then t.descendants else t.inside).map (·.1) ↔
      steps ≠ [] ∧ (recursive = false → steps.length = 1) ∧ ∃ u, t.at? steps = some u := by
  rw [List.mem_map]
  constructor
  · rintro ⟨⟨steps, u⟩, hmem, rfl⟩
    cases recursive with
    | true =>
      obtain ⟨hne, hat⟩ := (FileTree.mem_descendants_iff h).1 hmem
      exact ⟨hne, nofun, u, hat⟩
    | false =>
      obtain ⟨hone, hat⟩ := (FileTree.mem_inside_iff h).1 hmem
      exact ⟨List.ne_nil_of_length_eq_add_one hone, fun _ => hone, u, hat⟩
  · rintro ⟨hne, hone, u, hat⟩
    refine ⟨(steps, u), ?_, rfl⟩
    cases recursive with
    | true => exact (FileTree.mem_descendants_iff h).2 ⟨hne, hat⟩
    | false => exact (FileTree.mem_inside_iff h).2 ⟨hone rfl, hat⟩

theorem nodup_places (h : t.DistinctNames) :
    ((if recursive then t.descendants else t.inside).map (·.1)).Nodup := by
  cases recursive with
  | true => exact FileTree.nodup_descendants h
  | false => exact FileTree.nodup_inside h

/-- No place is found under both endings. -/
theorem nodup_stepsIn (h : t.DistinctNames) : (stepsIn recursive t).Nodup := by
  rw [stepsIn]
  refine List.nodup_append.2 ⟨(nodup_places h).filter _, (nodup_places h).filter _, ?_⟩
  rintro steps hyaml _ hyml rfl
  have hboth := not_both_endings (List.mem_filter.1 hyaml).2
  rw [(List.mem_filter.1 hyml).2] at hboth
  exact nomatch hboth

theorem mem_stepsIn_iff (h : t.DistinctNames) {steps : List String} {name : String} :
    steps ++ [name] ∈ stepsIn recursive t ↔
      (".yaml".toList <:+ name.toList ∨ ".yml".toList <:+ name.toList) ∧
        (recursive = false → steps = []) ∧ ∃ u, t.at? (steps ++ [name]) = some u := by
  have hone : (steps ++ [name]).length = 1 ↔ steps = [] := by
    rw [List.length_append, List.length_singleton, Nat.add_eq_right, List.length_eq_zero_iff]
  rw [stepsIn, List.mem_append, List.mem_filter, List.mem_filter, mem_places_iff h,
    endsWith_concat, endsWith_concat, hone, ← and_or_left]
  constructor
  · rintro ⟨⟨-, hinside, hat⟩, hending⟩
    exact ⟨hending, hinside, hat⟩
  · rintro ⟨hending, hinside, hat⟩
    exact ⟨⟨List.concat_ne_nil name steps, hinside, hat⟩, hending⟩

theorem eq_concat_of_mem_stepsIn {steps : List String} (h : steps ∈ stepsIn recursive t) :
    ∃ front name, steps = front ++ [name] := by
  rcases List.eq_nil_or_concat steps with rfl | ⟨front, name, heq⟩
  · rw [stepsIn, List.mem_append, List.mem_filter, List.mem_filter] at h
    rcases h with ⟨-, h⟩ | ⟨-, h⟩ <;> exact nomatch h
  · exact ⟨front, name, by rw [heq, List.concat_eq_append]⟩

variable {α : Type} {files : Files} {root : Path}

theorem queryFilesIn_of_ok (h : files.node? root = .ok t) :
    queryFilesIn files recursive root =
      ((stepsIn recursive t).map fun steps => root.join ⟨.here, steps⟩).mergeSort Path.le := by
  rw [queryFilesIn, h]

/-- What is found is in strict order, so nothing is found twice. -/
theorem pairwise_queryFilesIn (hroot : files.node? root = .ok t) (h : t.DistinctNames) :
    (queryFilesIn files recursive root).Pairwise fun p q => p.sortKey < q.sortKey := by
  rw [queryFilesIn_of_ok hroot]
  refine Path.pairwise_mergeSort ?_ ?_
  · refine (nodup_stepsIn h).map fun steps steps' heq => ?_
    exact Path.eq_of_sortKey_join (congrArg Path.sortKey heq)
  · intro p hp q hq hkey
    obtain ⟨steps, -, rfl⟩ := List.mem_map.1 hp
    obtain ⟨steps', -, rfl⟩ := List.mem_map.1 hq
    rw [Path.eq_of_sortKey_join hkey]

/-- What is found is all that is named like a query file, below the directory or directly in it. -/
theorem mem_queryFilesIn_iff (hroot : files.node? root = .ok t) (h : t.DistinctNames) {p : Path} :
    p ∈ queryFilesIn files recursive root ↔
      IsFoundBelow t root p ∧ (recursive = false → p.parent = root) := by
  rw [queryFilesIn_of_ok hroot, List.mem_mergeSort, List.mem_map]
  constructor
  · rintro ⟨steps, hsteps, rfl⟩
    obtain ⟨front, name, rfl⟩ := eq_concat_of_mem_stepsIn hsteps
    obtain ⟨hending, hinside, u, hat⟩ := (mem_stepsIn_iff h).1 hsteps
    exact ⟨⟨front, name, u, hat, hending, rfl⟩,
      fun hflat => (Path.parent_join_eq_iff root front name).2 (hinside hflat)⟩
  · rintro ⟨⟨front, name, u, hat, hending, rfl⟩, hparent⟩
    exact ⟨front ++ [name], (mem_stepsIn_iff h).2
      ⟨hending, fun hflat => (Path.parent_join_eq_iff root front name).1 (hparent hflat), u, hat⟩,
      rfl⟩

/-- What is directly in a directory is the part of what is found below it whose parent it is. -/
theorem queryFilesIn_false (hroot : files.node? root = .ok t) (h : t.DistinctNames) :
    queryFilesIn files false root =
      (queryFilesIn files true root).filter fun p => p.parent = root := by
  have : Std.Irrefl fun p q : Path => p.sortKey < q.sortKey := ⟨fun p => List.lt_irrefl _⟩
  have : Std.Antisymm fun p q : Path => p.sortKey < q.sortKey :=
    ⟨fun p q hpq hqp => absurd hqp (List.lt_asymm hpq)⟩
  refine List.Pairwise.eq_of_mem_iff (pairwise_queryFilesIn hroot h)
    ((pairwise_queryFilesIn hroot h).filter _) fun p => ?_
  rw [mem_queryFilesIn_iff hroot h, List.mem_filter, mem_queryFilesIn_iff hroot h,
    decide_eq_true_iff]
  simp

/-! ### When a search is stopped -/

/-- Nothing stops a search below a directory: those below it are at most `depth` steps away, and
their paths are not too long. -/
def IsSearchable (depth : Nat) (t : FileTree) (root : Path) : Prop :=
  ∀ steps, steps ≠ [] → t.IsDirectoryAt steps →
    steps.length ≤ depth ∧ Files.isTooLong (root.join ⟨.here, steps⟩) = false

/-- Nothing stops a search at or below an entry of a directory. -/
def IsSearchableEntry (depth : Nat) (place : Path) (e : String × FileTree) : Prop :=
  e.2.isDirectory = true →
    depth ≠ 0 ∧ Files.isTooLong (place.join ⟨.here, [e.1]⟩) = false ∧
      obstacle? (depth - 1) (place.join ⟨.here, [e.1]⟩) e.2 = none

theorem entriesObstacle?_eq_none_iff {depth : Nat} {place : Path}
    {entries : List (String × FileTree)} :
    entriesObstacle? depth place entries = none ↔
      ∀ e ∈ entries, IsSearchableEntry depth place e := by
  induction entries with
  | nil => exact ⟨nofun, fun _ => rfl⟩
  | cons e r ih =>
    obtain ⟨name, t⟩ := e
    rw [List.forall_mem_cons, ← ih, entriesObstacle?, Option.or_eq_none_iff]
    refine and_congr_left fun _ => ?_
    rw [IsSearchableEntry]
    cases ht : t.isDirectory with
    | false => simp
    | true =>
      by_cases hdepth : depth = 0
      · simp [hdepth]
      · cases Files.isTooLong (place.join ⟨.here, [name]⟩) <;> simp [hdepth]

/-- A search is stopped exactly by directories that are too far below, or whose paths are too
long. -/
theorem obstacle?_eq_none_iff {depth : Nat} {t : FileTree} {root : Path} (h : t.DistinctNames) :
    obstacle? depth root t = none ↔ IsSearchable depth t root := by
  induction h generalizing depth root with
  | file content =>
    refine ⟨fun _ steps hne hdirectory => ?_, fun _ => rfl⟩
    obtain ⟨s, r, rfl⟩ := List.exists_cons_of_ne_nil hne
    exact absurd hdirectory.exists_entries nofun
  | @directory entries names inner ih =>
    have hjoin (name : String) (r : List String) :
        (root.join ⟨.here, [name]⟩).join ⟨.here, r⟩ = root.join ⟨.here, name :: r⟩ := by
      change (⟨root.start, root.steps ++ [name] ++ r⟩ : Path) =
        ⟨root.start, root.steps ++ name :: r⟩
      rw [List.append_assoc, List.singleton_append]
    rw [obstacle?, entriesObstacle?_eq_none_iff]
    constructor
    · intro hall steps hne hdirectory
      obtain ⟨s, r, rfl⟩ := List.exists_cons_of_ne_nil hne
      obtain ⟨es, hat⟩ := hdirectory
      rw [FileTree.at?_cons] at hat
      obtain ⟨v, hv, hrest⟩ := Option.bind_eq_some_iff.1 hat
      have hmem := (FileTree.entry?_eq_some_iff names).1 hv
      obtain ⟨fs, rfl⟩ := FileTree.IsDirectoryAt.exists_entries ⟨es, hrest⟩
      obtain ⟨hdepth, hlong, hinner⟩ := hall _ hmem rfl
      cases r with
      | nil => exact ⟨Nat.one_le_iff_ne_zero.2 hdepth, hlong⟩
      | cons s' r' =>
        obtain ⟨hlength, hpath⟩ := (ih _ hmem).1 hinner _ (List.cons_ne_nil s' r') ⟨es, hrest⟩
        rw [hjoin] at hpath
        exact ⟨by rw [List.length_cons]; omega, hpath⟩
    · rintro hall ⟨name, t⟩ hmem hdirectory
      have hentry := (FileTree.entry?_eq_some_iff names).2 hmem
      obtain ⟨fs, rfl⟩ : ∃ fs, t = .directory fs := by
        cases t with
        | file content => cases hdirectory
        | directory fs => exact ⟨fs, rfl⟩
      have hhere := hall [name] (List.cons_ne_nil _ _)
        ⟨fs, by rw [FileTree.at?_cons, hentry, Option.bind_some, FileTree.at?_nil]⟩
      refine ⟨Nat.one_le_iff_ne_zero.1 hhere.1, hhere.2, (ih _ hmem).2 fun r hr hinner => ?_⟩
      obtain ⟨es, hes⟩ := hinner
      obtain ⟨hlength, hpath⟩ := hall (name :: r) (List.cons_ne_nil _ _)
        ⟨es, by rw [FileTree.at?_cons, hentry, Option.bind_some, hes]⟩
      rw [List.length_cons] at hlength
      exact ⟨by omega, by rw [hjoin]; exact hpath⟩

/-- What is found below a directory, if nothing stops the search: each place that is named like a
query file once, in strict order.  Without going into directories those are found that are directly
in it, and nothing stops the search. -/
structure FindsOnce (depth : Nat) (files : Files) (t : FileTree) (root : Path) : Prop where
  /-- A search that goes into directories finds something unless it is stopped. -/
  stopped : (∃ paths, search depth files true root = .ok paths) ↔ IsSearchable depth t root
  /-- Each path comes before the next, compared step by step. -/
  increasing : ∀ paths, search depth files true root = .ok paths →
    paths.Pairwise fun p q => p.sortKey < q.sortKey
  /-- What is found is all there is. -/
  mem_iff : ∀ paths, search depth files true root = .ok paths →
    ∀ p, p ∈ paths ↔ IsFoundBelow t root p
  /-- What is directly in the directory is what is found below it, in the same order, of which the
  directory is the parent. -/
  direct : ∃ paths, search depth files false root = .ok paths ∧
    (paths.Pairwise fun p q => p.sortKey < q.sortKey) ∧
    (∀ p, p ∈ paths ↔ IsFoundBelow t root p ∧ p.parent = root) ∧
    ∀ all, search depth files true root = .ok all → paths = all.filter fun p => p.parent = root

theorem search_false (depth : Nat) (hroot : files.node? root = .ok t) :
    search depth files false root = .ok (queryFilesIn files false root) := by
  rw [search, hroot]
  rfl

theorem search_true_of_none {depth : Nat} (hroot : files.node? root = .ok t)
    (h : obstacle? depth root t = none) :
    search depth files true root = .ok (queryFilesIn files true root) := by
  rw [search, hroot]
  dsimp only
  rw [if_pos rfl, h]

theorem search_true_of_some {depth : Nat} {fault : Fault} (hroot : files.node? root = .ok t)
    (h : obstacle? depth root t = some fault) : search depth files true root = .error fault := by
  rw [search, hroot]
  dsimp only
  rw [if_pos rfl, h]

/-- What a search finds that goes into directories. -/
theorem search_true_eq_ok_iff (depth : Nat) (hroot : files.node? root = .ok t)
    (h : t.DistinctNames) (paths : List Path) :
    search depth files true root = .ok paths ↔
      IsSearchable depth t root ∧ paths = queryFilesIn files true root := by
  rw [← obstacle?_eq_none_iff h]
  cases hobstacle : obstacle? depth root t with
  | none =>
    rw [search_true_of_none hroot hobstacle, Except.ok.injEq, eq_comm]
    exact ⟨fun h => ⟨rfl, h⟩, fun h => h.2⟩
  | some fault =>
    rw [search_true_of_some hroot hobstacle]
    exact ⟨nofun, fun h => nomatch h.1⟩

theorem findsOnce (depth : Nat) (hroot : files.node? root = .ok t) (h : t.DistinctNames) :
    FindsOnce depth files t root := by
  have hfound := search_true_eq_ok_iff depth hroot h
  refine ⟨?_, fun paths hpaths => ?_, fun paths hpaths p => ?_, ?_⟩
  · simp only [hfound]
    exact ⟨fun ⟨_, hsearchable, _⟩ => hsearchable, fun hsearchable => ⟨_, hsearchable, rfl⟩⟩
  · rw [((hfound paths).1 hpaths).2]
    exact pairwise_queryFilesIn hroot h
  · rw [((hfound paths).1 hpaths).2, mem_queryFilesIn_iff hroot h]
    simp
  · refine ⟨_, search_false depth hroot, pairwise_queryFilesIn hroot h, fun p => ?_,
      fun all hall => ?_⟩
    · rw [mem_queryFilesIn_iff hroot h]
      simp
    · rw [((hfound all).1 hall).2]
      exact queryFilesIn_false hroot h

/-! ### What a run collects -/

/-- Whether a path cannot be looked up because it is too long, or a name in it is. -/
def isRefused (files : Files) (p : Path) : Bool :=
  match files.node? p with
  | .error .nameTooLong => true
  | _ => false

/-- The path of a target. -/
def targetPath (files : Files) (target : String) : Path :=
  Path.resolve files.cwd (Path.ofText target)

/-- What a target stands for, if it can be looked up: what is found in a directory, and anything
else for itself. -/
def targetFiles (depth : Nat) (files : Files) (recursive : Bool) (target : String) :
    Except Fault (List Path) :=
  if target.contains '\x00' then .error (.astray .badName)
  else if isRefused files (targetPath files target) then .error (.astray .nameTooLong)
  else if files.isDirectory (targetPath files target) then
    search depth files recursive (targetPath files target)
  else .ok [targetPath files target]

/-- What is found in the directory of a run without targets. -/
def filesOfDirectory (depth : Nat) (files : Files) (recursive : Bool) (root : Path) :
    Except Fault (List Path) :=
  if isRefused files root then .error (.astray .nameTooLong)
  else if files.isDirectory root then search depth files recursive root
  else .ok []

theorem outcome_refuseBadName (name : String) (s : Session) :
    outcome (refuseBadName name) s =
      (if name.contains '\x00' then .error (.astray .badName) else .ok ⟨⟩, s) := by
  rw [refuseBadName]
  split <;> rfl

theorem outcome_isDirectory (p : Path) (s : Session) :
    outcome (isDirectory p) s =
      (if isRefused s.files p then .error (.astray .nameTooLong)
        else .ok (s.files.isDirectory p), s) := by
  rw [isDirectory, outcome_bind_ok (outcome_get s), isRefused, Files.isDirectory]
  cases s.files.node? p with
  | ok t => rfl
  | error why =>
    cases why with
    | nameTooLong | missing | throughFile | badName => rfl

/-- What is known without a step leaves everything as it is. -/
theorem outcome_liftM (e : Except Fault α) (s : Session) :
    outcome (liftM e : SessionM α) s = (e, s) := by
  cases e <;> rfl

/-- A target stands for its files, unless it cannot be looked up or searched. -/
theorem outcome_ofTarget (recursive : Bool) (target : String) (s : Session) :
    outcome (ofTarget recursive target) s =
      (targetFiles s.depths.directories s.files recursive target, s) := by
  rw [ofTarget, targetFiles]
  have hname := outcome_refuseBadName target s
  by_cases hbad : target.contains '\x00' = true
  · rw [if_pos hbad] at hname ⊢
    rw [outcome_bind_error hname]
  rw [if_neg hbad] at hname ⊢
  rw [outcome_bind_ok hname, outcome_bind_ok (outcome_get s)]
  have hlook := outcome_isDirectory (targetPath s.files target) s
  by_cases hlong : isRefused s.files (targetPath s.files target) = true
  · rw [if_pos hlong] at hlook ⊢
    exact outcome_bind_error hlook _
  · rw [if_neg hlong] at hlook ⊢
    refine (outcome_bind_ok hlook _).trans ?_
    split
    · exact outcome_liftM _ s
    · rfl

/-- Targets are taken one after the other, up to the first that cannot be looked up or searched. -/
theorem outcome_mapM_ofTarget (recursive : Bool) (targets : List String) (s : Session) :
    outcome (targets.mapM (ofTarget recursive)) s =
      (targets.mapM (targetFiles s.depths.directories s.files recursive), s) := by
  induction targets with
  | nil => rfl
  | cons target rest ih =>
    have hone := outcome_ofTarget recursive target s
    rw [List.mapM_cons, List.mapM_cons]
    cases hfiles : targetFiles s.depths.directories s.files recursive target with
    | error fault =>
      rw [hfiles] at hone
      exact outcome_bind_error hone _
    | ok paths =>
      rw [hfiles] at hone
      rw [outcome_bind_ok hone]
      cases hrest : rest.mapM (targetFiles s.depths.directories s.files recursive) with
      | error fault =>
        rw [hrest] at ih
        exact outcome_bind_error ih _
      | ok all =>
        rw [hrest] at ih
        rw [outcome_bind_ok ih]
        rfl

/-- A directory that is asked for has a name that a file can have. -/
theorem outcome_forM_refuseBadName {directory : Option String}
    (h : ∀ d ∈ directory, d.contains '\x00' = false) (s : Session) :
    outcome (directory.forM refuseBadName) s = (.ok ⟨⟩, s) := by
  cases directory with
  | none => rfl
  | some d =>
    change outcome (refuseBadName d) s = _
    rw [outcome_refuseBadName, h d rfl]
    rfl

theorem outcome_directoryOf_of_some {scope : Scope} {d : String} (hd : scope.directory = some d)
    (hne : d ≠ "") (s : Session) : outcome (directoryOf scope) s = (.ok (Path.ofText d), s) := by
  rw [directoryOf, hd, Option.filter_some_pos (by simpa using hne)]
  rfl

theorem outcome_directoryOf_of_none {scope : Scope} (hd : ∀ d ∈ scope.directory, d = "")
    (s : Session) :
    outcome (directoryOf scope) s =
      match outcome settings s with
      | (.ok st, t) => (.ok st.queriesDir, t)
      | (.error fault, t) => (.error fault, t) := by
  have hnone : scope.directory.filter (· ≠ "") = none := by
    rw [Option.filter_eq_none_iff]
    intro d hmem
    simpa using hd d hmem
  rw [directoryOf, hnone]
  change outcome (settings >>= fun st => pure st.queriesDir) s = _
  rw [outcome_bind]
  rcases outcome settings s with ⟨_ | st, t⟩ <;> rfl

/-- A run without targets looks at the directory that it is given. -/
theorem outcome_collect_of_directory {scope : Scope}
    (hname : ∀ d ∈ scope.directory, d.contains '\x00' = false) (htargets : scope.targets = [])
    {s t : Session} {root : Path} (hroot : outcome (directoryOf scope) s = (.ok root, t)) :
    outcome (collect scope) s =
      (filesOfDirectory t.depths.directories t.files scope.recursive root, t) := by
  have hlook := outcome_isDirectory root t
  rw [collect, outcome_bind_ok (outcome_forM_refuseBadName hname s), htargets,
    if_pos List.isEmpty_nil, outcome_bind_ok hroot, outcome_bind_ok (outcome_get t),
    filesOfDirectory]
  by_cases hlong : isRefused t.files root = true
  · rw [if_pos hlong] at hlook ⊢
    rw [outcome_bind_error hlook]
  · rw [if_neg hlong] at hlook ⊢
    rw [outcome_bind_ok hlook]
    split
    · exact outcome_liftM _ t
    · rfl

/-- Targets stand for their files, up to the first that cannot be looked up or searched, and nothing
else is asked. -/
theorem outcome_collect_of_targets (scope : Scope)
    (hname : ∀ d ∈ scope.directory, d.contains '\x00' = false) (htargets : scope.targets ≠ [])
    (s : Session) :
    outcome (collect scope) s =
      (List.flatten <$>
        scope.targets.mapM (targetFiles s.depths.directories s.files scope.recursive), s) := by
  have hall := outcome_mapM_ofTarget scope.recursive scope.targets s
  rw [collect, outcome_bind_ok (outcome_forM_refuseBadName hname s),
    if_neg (by simpa using htargets)]
  cases hfiles : scope.targets.mapM
      (targetFiles s.depths.directories s.files scope.recursive) with
  | error fault =>
    rw [hfiles] at hall
    exact outcome_bind_error hall _
  | ok all =>
    rw [hfiles] at hall
    exact outcome_bind_ok hall _

/-- What a run is about, if the directory that it was given, if any, has a name that files can have.
In a directory each query file is found once, in strict order, unless the search is stopped.
Targets stand for what is found in them or for themselves, one after the other, up to the first that
cannot be looked up or searched; nothing else is asked then, not even for the settings.  Only a run
without targets looks at the directory that it was given, and failing that at the one in the
settings. -/
theorem collect_finds_once (s : Session) (hnames : s.files.root.DistinctNames) (scope : Scope)
    (hname : ∀ d ∈ scope.directory, d.contains '\x00' = false) :
    (∀ root t, s.files.node? root = .ok t → FindsOnce s.depths.directories s.files t root) ∧
    (scope.targets ≠ [] →
      outcome (collect scope) s =
        (List.flatten <$>
          scope.targets.mapM (targetFiles s.depths.directories s.files scope.recursive), s)) ∧
    (scope.targets = [] →
      (∀ d, scope.directory = some d → d ≠ "" →
        outcome (collect scope) s =
          (filesOfDirectory s.depths.directories s.files scope.recursive (Path.ofText d), s)) ∧
      ((∀ d ∈ scope.directory, d = "") →
        outcome (collect scope) s =
          match outcome settings s with
          | (.ok st, t) =>
            (filesOfDirectory t.depths.directories t.files scope.recursive st.queriesDir, t)
          | (.error fault, t) => (.error fault, t))) := by
  refine ⟨fun root t hroot => ?_, fun htargets => ?_, fun htargets => ⟨fun d hd hne => ?_,
    fun hd => ?_⟩⟩
  · obtain ⟨place, hat⟩ := Files.exists_at?_of_node? hroot
    exact findsOnce _ hroot (hnames.of_at? hat)
  · exact outcome_collect_of_targets scope hname htargets s
  · exact outcome_collect_of_directory hname htargets (outcome_directoryOf_of_some hd hne s)
  · have hroot := outcome_directoryOf_of_none hd s
    cases hsettings : outcome settings s with
    | mk r t =>
      rw [hsettings] at hroot
      cases r with
      | ok st => exact outcome_collect_of_directory hname htargets hroot
      | error fault =>
        rw [collect, outcome_bind_ok (outcome_forM_refuseBadName hname s), htargets,
          if_pos List.isEmpty_nil, outcome_bind_error hroot]

/-- A directory with another one in it whose name comes before that of a file, but not as a text
would, with a hidden file and a directory that is named like a query file. -/
def crowdedDirectory : FileTree :=
  .directory [("a-b.yaml", .file []), ("notes.txt", .file []),
    ("a", .directory [("x.yaml", .file []), (".yml", .file [])]),
    ("d.yml", .directory [("B.YAML", .file []), ("z.yaml", .file [])])]

/-- Files with this directory. -/
def crowdedFiles : Files := ⟨.directory [("q", crowdedDirectory)], ⟨.root, []⟩⟩

theorem distinctNames_crowdedFiles : crowdedFiles.root.DistinctNames := by
  have hleaves : ∀ names : List String, names.Nodup →
      (FileTree.directory (names.map fun name => (name, .file []))).DistinctNames := by
    intro names h
    refine .directory (by simpa [Function.comp_def] using h) fun e he => ?_
    obtain ⟨name, -, rfl⟩ := List.mem_map.1 he
    exact .file []
  refine .directory (by decide) (List.forall_mem_singleton.2 (.directory (by decide) ?_))
  simp only [List.forall_mem_cons]
  exact ⟨.file [], .file [], hleaves ["x.yaml", ".yml"] (by decide),
    hleaves ["B.YAML", "z.yaml"] (by decide), nofun⟩

theorem collect_finds_once_crowded :
    crowdedFiles.root.DistinctNames ∧
    outcome (collect ⟨["q", "gone"], none, true⟩)
        (Session.start (.all 9) Environment.empty crowdedFiles 0 []) =
      (.ok [⟨.root, ["q", "a", ".yml"]⟩, ⟨.root, ["q", "a", "x.yaml"]⟩,
          ⟨.root, ["q", "a-b.yaml"]⟩, ⟨.root, ["q", "d.yml"]⟩, ⟨.root, ["q", "d.yml", "z.yaml"]⟩,
          ⟨.root, ["gone"]⟩],
        Session.start (.all 9) Environment.empty crowdedFiles 0 []) := by
  have hcollect := (collect_finds_once (Session.start (.all 9) Environment.empty crowdedFiles 0 [])
    distinctNames_crowdedFiles ⟨["q", "gone"], none, true⟩ nofun).2.1 (by decide)
  have hq : crowdedFiles.node? ⟨.root, ["q"]⟩ = .ok crowdedDirectory := by
    rw [QueryFile.node?_of_names (by simp)]
    rfl
  have hgone : crowdedFiles.node? ⟨.root, ["gone"]⟩ = .error .missing := by
    rw [QueryFile.node?_of_names (by simp)]
    rfl
  have hpath : ∀ name ∈ ["q", "gone"], targetPath crowdedFiles name = ⟨.root, [name]⟩ := by
    decide +kernel
  have hsearch : search 9 crowdedFiles true ⟨.root, ["q"]⟩ =
      .ok [⟨.root, ["q", "a", ".yml"]⟩, ⟨.root, ["q", "a", "x.yaml"]⟩, ⟨.root, ["q", "a-b.yaml"]⟩,
        ⟨.root, ["q", "d.yml"]⟩, ⟨.root, ["q", "d.yml", "z.yaml"]⟩] := by
    rw [search_true_of_none hq (by decide +kernel), queryFilesIn_of_ok hq]
    exact congrArg Except.ok (Path.mergeSort_eq_of_perm (by decide +kernel) (by decide +kernel))
  have hdirectory : targetFiles 9 crowdedFiles true "q" =
      search 9 crowdedFiles true ⟨.root, ["q"]⟩ := by
    simp [targetFiles, hpath, isRefused, Files.isDirectory, hq, FileTree.isDirectory,
      crowdedDirectory]
  have hself : targetFiles 9 crowdedFiles true "gone" = .ok [⟨.root, ["gone"]⟩] := by
    simp [targetFiles, hpath, isRefused, Files.isDirectory, hgone]
  refine ⟨distinctNames_crowdedFiles, hcollect.trans ?_⟩
  change (List.flatten <$> ["q", "gone"].mapM (targetFiles 9 crowdedFiles true), _) = _
  rw [List.mapM_cons, hdirectory, hsearch, List.mapM_cons, hself]
  rfl

/-- A step whose name is too long for any file is not followed. -/
theorem node?_of_long {files : Files} {entries : List (String × FileTree)}
    (hroot : files.root = .directory entries) {name : String}
    (hname : name.contains '\x00' = false) (hup : name ≠ "..")
    (hlong : Files.maxName < name.utf8ByteSize) :
    files.node? ⟨.root, [name]⟩ = .error .nameTooLong := by
  have hdescend : Files.descend files.root (files.origin ⟨.root, [name]⟩) [name] =
      .error .nameTooLong := by
    change Files.descend files.root [] [name] = _
    rw [Files.descend, hroot]
    change (if name = ".." then _ else if Files.maxName < name.utf8ByteSize then
      Except.error Astray.nameTooLong else _) = _
    rw [if_neg hup, if_pos hlong]
  rw [QueryFile.node?_of_names (by simpa using hname), hdescend]
  split <;> rfl

theorem targetFiles_of_long {files : Files} {entries : List (String × FileTree)}
    (hroot : files.root = .directory entries) {name : String}
    (hname : name.contains '\x00' = false) (hup : name ≠ "..")
    (hlong : Files.maxName < name.utf8ByteSize)
    (hpath : targetPath files name = ⟨.root, [name]⟩) (depth : Nat) (recursive : Bool) :
    targetFiles depth files recursive name = .error (.astray .nameTooLong) := by
  have htoo : isRefused files ⟨.root, [name]⟩ = true := by
    rw [isRefused, node?_of_long hroot hname hup hlong]
  rw [targetFiles, hname, hpath, if_neg Bool.false_ne_true, if_pos htoo]

/-- A name of some letters. -/
def nameOfLength (n : Nat) : String := String.ofList (List.replicate n 'a')

theorem contains_nameOfLength (n : Nat) : (nameOfLength n).contains '\x00' = false := by
  rw [nameOfLength, String.contains_char_eq, decide_eq_false_iff_not, String.toList_ofList]
  exact fun h => absurd (List.eq_of_mem_replicate h) (by decide)

theorem utf8ByteSize_nameOfLength (n : Nat) : (nameOfLength n).utf8ByteSize = n := by
  induction n with
  | zero => rfl
  | succ n ih =>
    have hletter : 'a'.utf8Size = 1 := by decide
    rw [nameOfLength] at ih
    rw [nameOfLength, List.replicate_succ, String.ofList_cons, String.utf8ByteSize_append,
      String.utf8ByteSize_singleton, ih, hletter, Nat.add_comm]

theorem nameOfLength_succ_ne {n : Nat} {s : String} (h : s.toList.head? ≠ some 'a') :
    nameOfLength (n + 1) ≠ s := by
  rintro rfl
  rw [nameOfLength, String.toList_ofList] at h
  exact h rfl

/-- Files in which there is one that could be collected. -/
def plainFiles : Files := ⟨.directory [("a.yaml", .file [])], ⟨.root, []⟩⟩

theorem targetPath_nameOfLength (n : Nat) :
    targetPath plainFiles (nameOfLength (n + 1)) = ⟨.root, [nameOfLength (n + 1)]⟩ := by
  have hsplit : ∀ n, Text.split '/' (List.replicate n 'a') = [List.replicate n 'a'] := by
    intro n
    induction n with
    | zero => rfl
    | succ n ih => rw [List.replicate_succ, Text.split, if_neg (by decide), ih]
  have htext : Path.ofText (nameOfLength (n + 1)) = ⟨.here, [nameOfLength (n + 1)]⟩ := by
    have hlist : (nameOfLength (n + 1)).toList = 'a' :: List.replicate n 'a' :=
      String.toList_ofList
    have hempty : nameOfLength (n + 1) ≠ "" := nameOfLength_succ_ne (by decide)
    have hdot : nameOfLength (n + 1) ≠ "." := nameOfLength_succ_ne (by decide)
    rw [Path.ofText, hlist, ← List.replicate_succ, hsplit]
    have hsteps : [nameOfLength (n + 1)].filter (fun p => p ≠ "" && p ≠ ".") =
        [nameOfLength (n + 1)] := by
      rw [List.filter_cons_of_pos (by simp [hempty, hdot]), List.filter_nil]
    exact congrArg (Path.mk .here) hsteps
  rw [targetPath, htext]
  change (⟨.root, (Path.follow [] [nameOfLength (n + 1)]).reverse⟩ : Path) = _
  rw [Path.follow, if_neg (nameOfLength_succ_ne (by decide))]
  rfl

/-- A target whose name is too long for any file cannot be looked up, so it does not stand for
itself. -/
theorem long_target_not_collected :
    ¬ ∃ paths, (outcome (collect ⟨["a.yaml", nameOfLength 256], none, true⟩)
      (Session.start (.all 9) Environment.empty plainFiles 0 [])).1 = .ok paths := by
  have hfile : targetFiles 9 plainFiles true "a.yaml" = .ok [⟨.root, ["a.yaml"]⟩] := by
    have hpath : targetPath plainFiles "a.yaml" = ⟨.root, ["a.yaml"]⟩ := by decide +kernel
    have hnode : plainFiles.node? ⟨.root, ["a.yaml"]⟩ = .ok (.file []) := by
      rw [QueryFile.node?_of_names (by simp)]
      rfl
    simp [targetFiles, hpath, isRefused, Files.isDirectory, hnode, FileTree.isDirectory]
  have hlong : targetFiles 9 plainFiles true (nameOfLength 256) =
      .error (.astray .nameTooLong) := by
    refine targetFiles_of_long (show plainFiles.root = _ from rfl) (contains_nameOfLength 256)
      (nameOfLength_succ_ne (by decide)) ?_ (targetPath_nameOfLength 255) 9 true
    rw [utf8ByteSize_nameOfLength]
    decide
  rintro ⟨paths, h⟩
  have hname : ∀ d ∈ (none : Option String), d.contains '\x00' = false := by
    intro d hd
    cases hd
  rw [outcome_collect_of_targets ⟨["a.yaml", nameOfLength 256], none, true⟩ hname
    (List.cons_ne_nil _ _)] at h
  change List.flatten <$> ["a.yaml", nameOfLength 256].mapM (targetFiles 9 plainFiles true) = _ at h
  rw [List.mapM_cons, hfile, List.mapM_cons, hlong] at h
  cases h

end Batch

end ElementLookup
