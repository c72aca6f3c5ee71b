/-
**What is below a directory.**

In a tree of files no directory has two entries of the same name, so steps lead to one place.  What
is listed below a directory is what steps lead to, each place once; what is listed inside it are
the places that a single step leads to.

Main definitions:

* `FileTree.DistinctNames` — no directory has two entries of the same name.

Main results:

* `FileTree.DistinctNames.of_at?` — a part of such a tree is such a tree;
* `FileTree.mem_descendants_iff` — **what is listed below a directory is what steps lead to**;
* `FileTree.nodup_descendants` — **each place is listed once**;
* `FileTree.mem_inside_iff`, `FileTree.nodup_inside` — the same for what is inside.
-/

import ElementLookup.Files.Tree
import Mathlib.Data.List.Nodup

set_option autoImplicit false

namespace ElementLookup

namespace FileTree

/-- No directory of a tree has two entries of the same name. -/
inductive DistinctNames : FileTree → Prop where
  | file (content : List UInt8) : DistinctNames (.file content)
  | directory {entries : List (String × FileTree)} (names : (entries.map (·.1)).Nodup)
      (inner : ∀ e ∈ entries, DistinctNames e.2) : DistinctNames (.directory entries)

/-! ### Entries -/

/-- Where names are distinct, each entry is found under its name. -/
theorem entry?_eq_some_iff {entries : List (String × FileTree)} (h : (entries.map (·.1)).Nodup)
    {name : String} {t : FileTree} :
    entry? (.directory entries) name = some t ↔ (name, t) ∈ entries := by
  induction entries with
  | nil => exact ⟨nofun, nofun⟩
  | cons e r ih =>
    obtain ⟨name', t'⟩ := e
    rw [List.map_cons, List.nodup_cons] at h
    rw [FileTree.entry?, List.find?_cons, List.mem_cons]
    by_cases hname : name' = name
    · subst hname
      simp only [decide_true, Option.map_some, Option.some.injEq]
      constructor
      · rintro rfl
        exact .inl rfl
      · rintro (heq | hmem)
        · exact (Prod.mk.inj heq).2.symm
        · exact absurd (List.mem_map.2 ⟨_, hmem, rfl⟩) h.1
    · have hrest := ih h.2
      rw [FileTree.entry?] at hrest
      simp only [hname, decide_false, hrest]
      constructor
      · exact .inr
      · rintro (heq | hmem)
        · exact absurd (Prod.mk.inj heq).1.symm hname
        · exact hmem

theorem DistinctNames.of_entry? {t u : FileTree} (h : t.DistinctNames) {name : String}
    (hu : t.entry? name = some u) : u.DistinctNames := by
  cases h with
  | file content => exact nomatch hu
  | directory names inner => exact inner _ ((entry?_eq_some_iff names).1 hu)

/-- A part of a tree with distinct names is one as well. -/
theorem DistinctNames.of_at? {t u : FileTree} (h : t.DistinctNames) {steps : List String}
    (hu : t.at? steps = some u) : u.DistinctNames := by
  induction steps generalizing t with
  | nil =>
    obtain rfl : t = u := Option.some.inj hu
    exact h
  | cons s r ih =>
    obtain ⟨v, hv, hrest⟩ := Option.bind_eq_some_iff.1 hu
    exact ih (h.of_entry? hv) hrest

/-! ### Below a directory -/

/-- What an entry adds: itself, and what is below it, one step further down. -/
def underEntry (e : String × FileTree) : List (List String × FileTree) :=
  ([e.1], e.2) :: e.2.descendants.map fun p => (e.1 :: p.1, p.2)

theorem entryDescendants_eq_flatMap (entries : List (String × FileTree)) :
    entryDescendants entries = entries.flatMap underEntry := by
  induction entries with
  | nil => rfl
  | cons e r ih =>
    rw [entryDescendants, ih, List.flatMap_cons]
    rfl

theorem descendants_directory (entries : List (String × FileTree)) :
    descendants (.directory entries) = entries.flatMap underEntry := by
  rw [descendants, entryDescendants_eq_flatMap]

/-- What is listed below a directory is what steps lead to. -/
theorem mem_descendants_iff {t : FileTree} (h : t.DistinctNames) {steps : List String}
    {u : FileTree} : (steps, u) ∈ t.descendants ↔ steps ≠ [] ∧ t.at? steps = some u := by
  induction h generalizing steps u with
  | file content =>
    refine ⟨nofun, fun ⟨hne, hat⟩ => ?_⟩
    obtain ⟨s, r, rfl⟩ := List.exists_cons_of_ne_nil hne
    exact nomatch hat
  | @directory entries names inner ih =>
    rw [descendants_directory, List.mem_flatMap]
    constructor
    · rintro ⟨e, he, hmem⟩
      have hentry := (entry?_eq_some_iff names).2 he
      rcases List.mem_cons.1 hmem with heq | hbelow
      · obtain ⟨rfl, rfl⟩ := Prod.mk.inj heq
        exact ⟨List.cons_ne_nil _ _, by rw [at?_cons, hentry]; rfl⟩
      · obtain ⟨⟨r, v⟩, hr, heq⟩ := List.mem_map.1 hbelow
        obtain ⟨rfl, rfl⟩ := Prod.mk.inj heq
        refine ⟨List.cons_ne_nil _ _, ?_⟩
        rw [at?_cons, hentry]
        exact ((ih e he).1 hr).2
    · rintro ⟨hne, hat⟩
      obtain ⟨s, r, rfl⟩ := List.exists_cons_of_ne_nil hne
      rw [at?_cons] at hat
      obtain ⟨v, hv, hrest⟩ := Option.bind_eq_some_iff.1 hat
      have he := (entry?_eq_some_iff names).1 hv
      refine ⟨(s, v), he, List.mem_cons.2 ?_⟩
      -- the entry itself, or something below it
      cases r with
      | nil =>
        obtain rfl : v = u := Option.some.inj hrest
        exact .inl rfl
      | cons s' r' =>
        exact .inr (List.mem_map.2
          ⟨(s' :: r', u), (ih _ he).2 ⟨List.cons_ne_nil _ _, hrest⟩, rfl⟩)

/-- Each place below a directory is listed once. -/
theorem nodup_descendants {t : FileTree} (h : t.DistinctNames) :
    (t.descendants.map (·.1)).Nodup := by
  induction h with
  | file content => exact List.nodup_nil
  | @directory entries names inner ih =>
    have hunder : ∀ e : String × FileTree, (underEntry e).map (·.1) =
        [e.1] :: (e.2.descendants.map (·.1)).map (e.1 :: ·) := by
      intro e
      rw [underEntry, List.map_cons, List.map_map, List.map_map]
      rfl
    rw [descendants_directory, List.map_flatMap, List.nodup_flatMap]
    constructor
    · intro e he
      rw [hunder, List.nodup_cons]
      refine ⟨fun hmem => ?_, (ih e he).map fun r r' heq => (List.cons.inj heq).2⟩
      obtain ⟨r, hr, heq⟩ := List.mem_map.1 hmem
      obtain rfl : r = [] := (List.cons.inj heq).2
      obtain ⟨⟨r, u⟩, hu, rfl⟩ := List.mem_map.1 hr
      exact ((mem_descendants_iff (inner e he)).1 hu).1 rfl
    · -- what is under different entries begins with different names
      have hhead : ∀ (e : String × FileTree) (steps : List String),
          steps ∈ (underEntry e).map (·.1) → steps.head? = some e.1 := by
        intro e steps hsteps
        rw [hunder, List.mem_cons] at hsteps
        rcases hsteps with rfl | hsteps
        · rfl
        · obtain ⟨r, -, rfl⟩ := List.mem_map.1 hsteps
          rfl
      refine (List.pairwise_map.1 names).imp fun {e e'} hne => ?_
      intro steps hsteps hsteps'
      exact hne (Option.some.inj ((hhead e steps hsteps).symm.trans (hhead e' steps hsteps')))

/-! ### Inside a directory -/

/-- What is listed inside a directory is what single steps lead to. -/
theorem mem_inside_iff {t : FileTree} (h : t.DistinctNames) {steps : List String} {u : FileTree} :
    (steps, u) ∈ t.inside ↔ steps.length = 1 ∧ t.at? steps = some u := by
  cases h with
  | file content =>
    refine ⟨nofun, fun ⟨hone, hat⟩ => ?_⟩
    obtain ⟨s, rfl⟩ := List.length_eq_one_iff.1 hone
    exact nomatch hat
  | @directory entries names inner =>
    have hsingle : ∀ s, at? (.directory entries) [s] = some u ↔ (s, u) ∈ entries := by
      intro s
      rw [← entry?_eq_some_iff names]
      change (FileTree.entry? (.directory entries) s).bind some = some u ↔ _
      rw [Option.bind_fun_some]
    rw [inside, List.mem_map]
    constructor
    · rintro ⟨e, he, heq⟩
      obtain ⟨rfl, rfl⟩ := Prod.mk.inj heq
      exact ⟨rfl, (hsingle e.1).2 he⟩
    · rintro ⟨hone, hat⟩
      obtain ⟨s, rfl⟩ := List.length_eq_one_iff.1 hone
      exact ⟨(s, u), (hsingle s).1 hat, rfl⟩

theorem nodup_inside {t : FileTree} (h : t.DistinctNames) : (t.inside.map (·.1)).Nodup := by
  cases h with
  | file content => exact List.nodup_nil
  | directory names inner =>
    rw [inside, List.map_map]
    exact (List.pairwise_map.1 names).map _ fun e e' hne heq => hne (List.cons.inj heq).1

end FileTree

/-- What a path leads to is a part of the tree. -/
theorem Files.exists_at?_of_node? {files : Files} {p : Path} {t : FileTree}
    (h : files.node? p = .ok t) : ∃ steps, files.root.at? steps = some t := by
  cases hplace : files.place? p with
  | error why =>
    rw [node?_of_error hplace] at h
    exact nomatch h
  | ok steps =>
    rw [node?_of_place? hplace] at h
    split at h
    · next u hat => exact ⟨steps, hat.trans (congrArg some (Except.ok.inj h))⟩
    · exact nomatch h

end ElementLookup
