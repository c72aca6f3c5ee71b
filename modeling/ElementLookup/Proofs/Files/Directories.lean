/-
**Directories that were made are there.**

A directory is made where nothing is, in a place that a directory is above.  Putting it there keeps
every other directory, so paths that led somewhere still do, and the new one is found under its
path.  So a directory that was made once, with those above it that were missing, need not be made
again: doing so changes nothing.

Main results:

* `FileTree.at?_insert_self`, `FileTree.isDirectoryAt_insert` — what is found after something was
  put where nothing was;
* `Files.isDirectory_of_makeDirectories` — **a directory that was made is there**;
* `Files.makeDirectories_of_isDirectory` — **what is there is not made again**.
-/

import ElementLookup.Files.Tree

set_option autoImplicit false

namespace ElementLookup

namespace FileTree

/-! ### Putting something into a tree -/

theorem entry?_setEntry (entries : List (String × FileTree)) (name other : String) (u : FileTree) :
    entry? (.directory (setEntry entries name u)) other =
      if other = name then some u else entry? (.directory entries) other := by
  induction entries with
  | nil =>
    by_cases h : other = name
    · subst h
      simp [FileTree.entry?, setEntry]
    · simp [FileTree.entry?, setEntry, h, Ne.symm h]
  | cons e r ih =>
    rw [setEntry]
    rw [FileTree.entry?, entry?] at ih
    by_cases he : e.1 = name
    · subst he
      rw [if_pos rfl, entry?, entry?, List.find?_cons, List.find?_cons]
      by_cases h : other = e.1
      · subst h
        simp
      · simp [h, Ne.symm h]
    · rw [if_neg he, entry?, entry?, List.find?_cons, List.find?_cons]
      by_cases h : e.1 = other
      · subst h
        simp [he]
      · simp only [h, decide_false, ih]

/-- There is a directory at the end of steps. -/
def IsDirectoryAt (t : FileTree) (steps : List String) : Prop :=
  ∃ entries, t.at? steps = some (.directory entries)

theorem insert_cons (entries : List (String × FileTree)) (s : String) (r : List String)
    (u : FileTree) :
    insert (.directory entries) (s :: r) u =
      .directory (setEntry entries s
        (((FileTree.entry? (.directory entries) s).getD (.directory [])).insert r u)) := rfl

/-- What is put where nothing was, in a directory, is found there. -/
theorem at?_insert_self {t u : FileTree} {place : List String} (hplace : t.at? place = none)
    (hparent : t.IsDirectoryAt place.dropLast) : (t.insert place u).at? place = some u := by
  induction place generalizing t with
  | nil => exact nomatch hplace
  | cons s r ih =>
    obtain ⟨entries, rfl⟩ : ∃ entries, t = .directory entries := by
      cases t with
      | directory entries => exact ⟨entries, rfl⟩
      | file content =>
        obtain ⟨es, hes⟩ := hparent
        cases r <;> exact nomatch hes
    rw [insert_cons, at?_cons, entry?_setEntry, if_pos rfl, Option.bind_some]
    cases r with
    | nil => rfl
    | cons s' r' =>
      obtain ⟨es, hes⟩ := hparent
      rw [List.dropLast_cons_of_ne_nil (List.cons_ne_nil _ _), at?_cons] at hes
      obtain ⟨v, hv, hrest⟩ := Option.bind_eq_some_iff.1 hes
      rw [at?_cons, hv, Option.bind_some] at hplace
      rw [hv, Option.getD_some]
      exact ih hplace ⟨es, hrest⟩

/-- Directories stay where they are when something is put where nothing was. -/
theorem isDirectoryAt_insert {t u : FileTree} {place steps : List String}
    (hplace : t.at? place = none) (h : t.IsDirectoryAt steps) :
    (t.insert place u).IsDirectoryAt steps := by
  induction place generalizing t steps with
  | nil => exact nomatch hplace
  | cons s r ih =>
    obtain ⟨es, hes⟩ := h
    cases t with
    | file content => exact ⟨es, hes⟩
    | directory entries =>
      rw [insert_cons]
      cases steps with
      | nil => exact ⟨_, rfl⟩
      | cons s' r' =>
        rw [IsDirectoryAt]
        rw [at?_cons] at hes ⊢
        rw [entry?_setEntry]
        by_cases hs : s' = s
        · subst hs
          obtain ⟨v, hv, hrest⟩ := Option.bind_eq_some_iff.1 hes
          rw [at?_cons, hv, Option.bind_some] at hplace
          rw [if_pos rfl, Option.bind_some, hv, Option.getD_some]
          exact ih hplace ⟨es, hrest⟩
        · rw [if_neg hs]
          exact ⟨es, hes⟩

end FileTree

namespace Files

variable {f g : Files} {p : Path}

/-! ### Following paths -/

/-- Steps that could be followed still can if all directories stay. -/
theorem descend_of_isDirectoryAt {root root' : FileTree}
    (h : ∀ steps, root.IsDirectoryAt steps → root'.IsDirectoryAt steps) {place steps : List String}
    {end' : List String} (hdescend : descend root place steps = .ok end') :
    descend root' place steps = .ok end' := by
  induction steps generalizing place with
  | nil => exact hdescend
  | cons s r ih =>
    rw [descend] at hdescend ⊢
    cases hat : root.at? place.reverse with
    | none => rw [hat] at hdescend; exact nomatch hdescend
    | some t =>
      cases t with
      | file content => rw [hat] at hdescend; exact nomatch hdescend
      | directory entries =>
        obtain ⟨entries', hat'⟩ := h place.reverse ⟨entries, hat⟩
        rw [hat] at hdescend
        rw [hat']
        dsimp only at hdescend ⊢
        by_cases hup : s = ".."
        · rw [if_pos hup] at hdescend ⊢
          exact ih hdescend
        · rw [if_neg hup] at hdescend ⊢
          by_cases hlong : maxName < s.utf8ByteSize
          · rw [if_pos hlong] at hdescend
            exact nomatch hdescend
          · rw [if_neg hlong] at hdescend ⊢
            exact ih hdescend

theorem place?_of_isDirectoryAt {root : FileTree}
    (h : ∀ steps, f.root.IsDirectoryAt steps → root.IsDirectoryAt steps) {place : List String}
    (hplace : f.place? p = .ok place) : ({ f with root := root } : Files).place? p = .ok place := by
  rw [place?] at hplace ⊢
  split at hplace
  · exact nomatch hplace
  · next hname =>
    rw [if_neg hname]
    split at hplace
    · exact nomatch hplace
    · next hlong =>
      rw [if_neg hlong]
      cases hdescend : descend f.root (f.origin p) p.steps with
      | error why =>
        rw [hdescend] at hplace
        exact nomatch hplace
      | ok end' =>
        rw [hdescend] at hplace
        have hfollowed := descend_of_isDirectoryAt h hdescend
        change (·.reverse) <$> descend root (f.origin p) p.steps = _
        rw [hfollowed]
        exact hplace

theorem isDirectory_iff :
    f.isDirectory p = true ↔ ∃ place, f.place? p = .ok place ∧ f.root.IsDirectoryAt place := by
  rw [isDirectory]
  cases hplace : f.place? p with
  | error why =>
    rw [node?_of_error hplace]
    exact ⟨nofun, fun ⟨_, h, _⟩ => nomatch h⟩
  | ok place =>
    rw [node?_of_place? hplace]
    constructor
    · intro h
      cases hat : f.root.at? place with
      | none => rw [hat] at h; exact nomatch h
      | some t =>
        cases t with
        | file content => rw [hat] at h; exact nomatch h
        | directory entries => exact ⟨place, rfl, entries, hat⟩
    · rintro ⟨place', hplace', entries, hat⟩
      obtain rfl : place = place' := Except.ok.inj hplace'
      rw [hat]
      rfl

/-! ### Making directories -/

/-- A directory that was made is there. -/
theorem isDirectory_of_makeDirectory (h : f.makeDirectory p = .ok g) : g.isDirectory p = true := by
  rw [makeDirectory] at h
  cases hplace : f.place? p with
  | error why => rw [hplace] at h; exact nomatch h
  | ok place =>
    rw [hplace] at h
    dsimp only at h
    cases hat : f.root.at? place with
    | some t => rw [hat] at h; exact nomatch h
    | none =>
      rw [hat] at h
      dsimp only at h
      split at h
      · next entries hparent =>
        obtain rfl := Except.ok.inj h
        have hstay : ∀ steps, f.root.IsDirectoryAt steps →
            (f.root.insert place (.directory [])).IsDirectoryAt steps :=
          fun _ hsteps => FileTree.isDirectoryAt_insert hat hsteps
        exact isDirectory_iff.2 ⟨place, place?_of_isDirectoryAt hstay hplace, [],
          FileTree.at?_insert_self hat ⟨entries, hparent⟩⟩
      · exact nomatch h
      · exact nomatch h

/-- Where a directory is, none is made. -/
theorem makeDirectory_of_isDirectory (h : f.isDirectory p = true) :
    f.makeDirectory p = .error .exists := by
  obtain ⟨place, hplace, entries, hat⟩ := isDirectory_iff.1 h
  rw [makeDirectory, hplace]
  dsimp only
  rw [hat]

theorem isDirectory_of_ensureDirectory (h : f.ensureDirectory p = .ok g) :
    g.isDirectory p = true := by
  rw [ensureDirectory] at h
  split at h
  · next made hmade =>
    obtain rfl := Except.ok.inj h
    exact isDirectory_of_makeDirectory hmade
  · split at h
    · next hthere =>
      obtain rfl := Except.ok.inj h
      exact hthere
    · exact nomatch h

theorem isDirectory_of_makeDirectoriesWithin {fuel : Nat}
    (h : f.makeDirectoriesWithin fuel p = .ok g) : g.isDirectory p = true := by
  cases fuel with
  | zero => exact isDirectory_of_ensureDirectory h
  | succ fuel =>
    rw [makeDirectoriesWithin] at h
    split at h
    · split at h
      · exact nomatch h
      · cases habove : makeDirectoriesWithin f fuel p.parent with
        | error fault => rw [habove] at h; exact nomatch h
        | ok above =>
          rw [habove] at h
          exact isDirectory_of_ensureDirectory h
    · next made hmade =>
      obtain rfl := Except.ok.inj h
      exact isDirectory_of_makeDirectory hmade
    · split at h
      · next hthere =>
        obtain rfl := Except.ok.inj h
        exact hthere
      · exact nomatch h

/-- A directory that was made, with those above it that were missing, is there. -/
theorem isDirectory_of_makeDirectories (h : f.makeDirectories p = .ok g) :
    g.isDirectory p = true :=
  isDirectory_of_makeDirectoriesWithin h

theorem makeDirectoriesWithin_of_isDirectory (h : f.isDirectory p = true) (fuel : Nat) :
    f.makeDirectoriesWithin fuel p = .ok f := by
  have hmake := makeDirectory_of_isDirectory h
  cases fuel with
  | zero =>
    rw [makeDirectoriesWithin, ensureDirectory, hmake]
    exact if_pos h
  | succ fuel =>
    rw [makeDirectoriesWithin, hmake]
    exact if_pos h

/-- What is there is not made again. -/
theorem makeDirectories_of_isDirectory (h : f.isDirectory p = true) :
    f.makeDirectories p = .ok f :=
  makeDirectoriesWithin_of_isDirectory h _

end Files

end ElementLookup
