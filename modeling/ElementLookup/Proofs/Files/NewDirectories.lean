/-
**Which directories are made.**

Making a directory, with the missing ones above it, adds nothing else.  Every file stays what it
was, and no file is added; every directory stays; and what is new are the place that the path leads
to and the places that the steps on its way lead to.

What is found at a place is all that matters of a tree here: nothing, a file with its octets, or a
directory.

Main definitions:

* `FileTree.found?` — what is found at the end of steps;
* `Path.IsAtOrAbove` — a path that leads part of the way of another one;
* `Files.Grows`, `Files.Extended` — files to which directories on the way of a path were added;
* `Files.left` — the files as making directories leaves them.

Main results:

* `FileTree.found?_insert` — a new directory is found where it was put, and all else as before;
* `Files.isDirectoryAt_of_isAtOrAbove` — the way to a directory leads through directories;
* `Files.grows_makeDirectoriesWithin` — what is added step by step, also if not all can be made;
* `Files.extended_of_makeDirectories` — **only the directories on the way of a path are made**;
* `Files.makeDirectories_again` — what could not be made cannot be made afterwards either.
-/

import ElementLookup.Proofs.Files.Directories

set_option autoImplicit false

namespace ElementLookup

namespace FileTree

/-! ### What is found in a tree -/

/-- The octets of a file. -/
def content? : FileTree → Option (List UInt8)
  | .file content => some content
  | .directory _ => none

/-- What is found at the end of steps: a file with its octets, or a directory. -/
def found? (t : FileTree) (steps : List String) : Option (Option (List UInt8)) :=
  (t.at? steps).map content?

theorem found?_cons (t : FileTree) (s : String) (r : List String) :
    t.found? (s :: r) = (t.entry? s).bind fun u => u.found? r := by
  rw [found?, at?_cons, Option.map_bind]
  rfl

theorem found?_eq_file_iff {t : FileTree} {steps : List String} {content : List UInt8} :
    t.found? steps = some (some content) ↔ t.at? steps = some (.file content) := by
  rw [found?, Option.map_eq_some_iff]
  constructor
  · rintro ⟨u, hu, hcontent⟩
    cases u with
    | file c => rw [hu, Option.some.inj hcontent]
    | directory entries => exact nomatch hcontent
  · exact fun h => ⟨_, h, rfl⟩

theorem found?_eq_directory_iff {t : FileTree} {steps : List String} :
    t.found? steps = some none ↔ t.IsDirectoryAt steps := by
  rw [found?, Option.map_eq_some_iff]
  constructor
  · rintro ⟨u, hu, hcontent⟩
    cases u with
    | file c => exact nomatch hcontent
    | directory entries => exact ⟨entries, hu⟩
  · exact fun ⟨entries, h⟩ => ⟨_, h, rfl⟩

/-- Where there is a directory, the steps start at one. -/
theorem IsDirectoryAt.exists_entries {t : FileTree} {steps : List String}
    (h : t.IsDirectoryAt steps) : ∃ entries, t = .directory entries := by
  cases t with
  | directory entries => exact ⟨entries, rfl⟩
  | file content =>
    obtain ⟨entries, hat⟩ := h
    cases steps <;> exact nomatch hat

/-- What has a name is in a directory. -/
theorem isDirectoryAt_of_at?_concat {t u : FileTree} {steps : List String} {name : String}
    (h : t.at? (steps ++ [name]) = some u) : t.IsDirectoryAt steps := by
  induction steps generalizing t with
  | nil =>
    cases t with
    | file content => cases h
    | directory entries => exact ⟨entries, rfl⟩
  | cons s r ih =>
    rw [List.cons_append, at?_cons] at h
    obtain ⟨v, hv, hrest⟩ := Option.bind_eq_some_iff.1 h
    obtain ⟨entries, hat⟩ := ih hrest
    exact ⟨entries, by rw [at?_cons, hv, Option.bind_some, hat]⟩

/-- A new directory is found where it was put, and all else as before. -/
theorem found?_insert {t : FileTree} {place : List String} (hplace : t.at? place = none)
    (hparent : t.IsDirectoryAt place.dropLast) (steps : List String) :
    (t.insert place (.directory [])).found? steps =
      if steps = place then some none else t.found? steps := by
  induction place generalizing t steps with
  | nil => exact nomatch hplace
  | cons s r ih =>
    obtain ⟨entries, rfl⟩ := hparent.exists_entries
    rw [insert_cons]
    cases steps with
    | nil => rfl
    | cons s' r' =>
      rw [found?_cons, entry?_setEntry, found?_cons]
      by_cases hs : s' = s
      · subst hs
        rw [if_pos rfl, Option.bind_some]
        cases r with
        | nil =>
          -- nothing was below the place, and nothing is in the new directory
          have hnone : entry? (.directory entries) s' = none := by
            simpa [at?_cons] using hplace
          rw [hnone]
          cases r' with
          | nil => rw [if_pos rfl]; rfl
          | cons s₂ r₂ => rw [if_neg (by simp)]; rfl
        | cons s₂ r₂ =>
          obtain ⟨es, hes⟩ := hparent
          rw [List.dropLast_cons_of_ne_nil (List.cons_ne_nil _ _), at?_cons] at hes
          obtain ⟨v, hv, hrest⟩ := Option.bind_eq_some_iff.1 hes
          rw [at?_cons, hv, Option.bind_some] at hplace
          rw [hv, Option.getD_some, ih hplace ⟨es, hrest⟩, Option.bind_some]
          simp only [List.cons.injEq, true_and]
      · have hne : s' :: r' ≠ s :: r := fun h => hs (List.cons.inj h).1
        rw [if_neg hs, if_neg hne]

end FileTree

namespace Path

/-! ### The way of a path -/

/-- A path leads part of the way of another one, or all of it. -/
def IsAtOrAbove (q p : Path) : Prop := q.start = p.start ∧ q.steps <+: p.steps

theorem IsAtOrAbove.refl (p : Path) : p.IsAtOrAbove p := ⟨rfl, List.prefix_rfl⟩

theorem IsAtOrAbove.trans {p q r : Path} (h : r.IsAtOrAbove q) (h' : q.IsAtOrAbove p) :
    r.IsAtOrAbove p :=
  ⟨h.1.trans h'.1, h.2.trans h'.2⟩

theorem parent_isAtOrAbove (p : Path) : p.parent.IsAtOrAbove p :=
  ⟨rfl, List.dropLast_prefix p.steps⟩

end Path

namespace Files

variable {f g h : Files} {p q : Path}

/-! ### The way to a directory -/

theorem descend_append (root : FileTree) (place a b : List String) :
    descend root place (a ++ b) = descend root place a >>= fun mid => descend root mid b := by
  induction a generalizing place with
  | nil => rfl
  | cons s r ih =>
    rw [List.cons_append, descend, descend]
    cases root.at? place.reverse with
    | none => rfl
    | some t =>
      cases t with
      | file content => rfl
      | directory entries =>
        dsimp only
        split
        · exact ih _
        · split
          · rfl
          · exact ih _

/-- What a step leads away from is a directory. -/
theorem isDirectoryAt_of_descend_cons {root : FileTree} {place rest end' : List String}
    {s : String} (hdescend : descend root place (s :: rest) = .ok end') :
    root.IsDirectoryAt place.reverse := by
  rw [descend] at hdescend
  cases hat : root.at? place.reverse with
  | none => rw [hat] at hdescend; cases hdescend
  | some t =>
    cases t with
    | file content => rw [hat] at hdescend; cases hdescend
    | directory entries => exact ⟨entries, hat⟩

/-- What is left on the way is a directory. -/
theorem isDirectoryAt_of_descend {root : FileTree} {place rest end' : List String}
    (hdescend : descend root place rest = .ok end') (hend : root.IsDirectoryAt end'.reverse) :
    root.IsDirectoryAt place.reverse := by
  cases rest with
  | nil =>
    obtain rfl : place = end' := Except.ok.inj hdescend
    exact hend
  | cons s r => exact isDirectoryAt_of_descend_cons hdescend

theorem origin_of_isAtOrAbove (h : q.IsAtOrAbove p) (f : Files) : f.origin q = f.origin p := by
  rw [Files.origin, Files.origin, Path.isAbsolute, Path.isAbsolute, h.1]

theorem descend_of_place? {place : List String} (hplace : f.place? p = .ok place) :
    descend f.root (f.origin p) p.steps = .ok place.reverse := by
  rw [place?] at hplace
  split at hplace
  · cases hplace
  · split at hplace
    · cases hplace
    · cases hdescend : descend f.root (f.origin p) p.steps with
      | error why => rw [hdescend] at hplace; cases hplace
      | ok end' =>
        rw [hdescend] at hplace
        obtain rfl : end'.reverse = place := Except.ok.inj hplace
        rw [List.reverse_reverse]

/-- The way to a directory leads through directories. -/
theorem isDirectoryAt_of_isAtOrAbove (hp : f.isDirectory p = true) (hq : q.IsAtOrAbove p)
    {place : List String} (hplace : f.place? q = .ok place) : f.root.IsDirectoryAt place := by
  obtain ⟨end', hend, hdirectory⟩ := isDirectory_iff.1 hp
  obtain ⟨rest, hsteps⟩ := hq.2
  have hway := descend_of_place? hend
  rw [← hsteps, descend_append, ← origin_of_isAtOrAbove hq, descend_of_place? hplace] at hway
  have hleft := isDirectoryAt_of_descend hway (by rwa [List.reverse_reverse])
  rwa [List.reverse_reverse] at hleft

/-! ### What is added -/

/-- Nothing but directories on the way of a path is added, and nothing is taken away. -/
structure Grows (f g : Files) (p : Path) : Prop where
  cwd : g.cwd = f.cwd
  files : ∀ place content,
    g.root.at? place = some (.file content) ↔ f.root.at? place = some (.file content)
  kept : ∀ place, f.root.IsDirectoryAt place → g.root.IsDirectoryAt place
  made : ∀ place, g.root.IsDirectoryAt place →
    f.root.IsDirectoryAt place ∨ ∃ q : Path, q.IsAtOrAbove p ∧ g.place? q = .ok place

theorem Grows.refl (f : Files) (p : Path) : Grows f f p :=
  ⟨rfl, fun _ _ => .rfl, fun _ h => h, fun _ h => .inl h⟩

/-- Paths lead where they led. -/
theorem Grows.place? (hgrows : Grows f g p) {place : List String}
    (hplace : f.place? q = .ok place) : g.place? q = .ok place := by
  have hsame : ({ f with root := g.root } : Files) = g := by rw [← hgrows.cwd]
  rw [← hsame]
  exact place?_of_isDirectoryAt hgrows.kept hplace

/-- What is added above a path, and then on its way, is added on its way. -/
theorem Grows.trans (hfirst : Grows f g q) (hsecond : Grows g h p) (hq : q.IsAtOrAbove p) :
    Grows f h p where
  cwd := hsecond.cwd.trans hfirst.cwd
  files place content := (hsecond.files place content).trans (hfirst.files place content)
  kept place hplace := hsecond.kept place (hfirst.kept place hplace)
  made place hplace := by
    rcases hsecond.made place hplace with hold | hnew
    · rcases hfirst.made place hold with holder | ⟨r, hr, hrplace⟩
      · exact .inl holder
      · exact .inr ⟨r, hr.trans hq, hsecond.place? hrplace⟩
    · exact .inr hnew

theorem grows_makeDirectory (hmake : f.makeDirectory p = .ok g) : Grows f g p := by
  rw [makeDirectory] at hmake
  cases hplace : f.place? p with
  | error why => rw [hplace] at hmake; cases hmake
  | ok place =>
    rw [hplace] at hmake
    dsimp only at hmake
    cases hat : f.root.at? place with
    | some t => rw [hat] at hmake; cases hmake
    | none =>
      rw [hat] at hmake
      dsimp only at hmake
      split at hmake
      · next entries hparent =>
        obtain rfl := Except.ok.inj hmake
        have hfound := FileTree.found?_insert hat ⟨entries, hparent⟩
        have hnothing : f.root.found? place = none := by rw [FileTree.found?, hat, Option.map_none]
        have hkept : ∀ steps, f.root.IsDirectoryAt steps →
            (f.root.insert place (.directory [])).IsDirectoryAt steps :=
          fun _ hsteps => FileTree.isDirectoryAt_insert hat hsteps
        refine ⟨rfl, fun steps content => ?_, hkept, fun steps hsteps => ?_⟩
        · rw [← FileTree.found?_eq_file_iff, ← FileTree.found?_eq_file_iff, hfound]
          split
          · next hsteps =>
            rw [hsteps, hnothing]
            simp
          · exact .rfl
        · rw [← FileTree.found?_eq_directory_iff, hfound] at hsteps
          split at hsteps
          · next hsame =>
            rw [hsame]
            exact .inr ⟨p, .refl p, place?_of_isDirectoryAt hkept hplace⟩
          · exact .inl (FileTree.found?_eq_directory_iff.1 hsteps)
      · cases hmake
      · cases hmake

/-- The files as making directories leaves them, whatever becomes of it. -/
def left : Except Unmade Files → Files
  | .ok g => g
  | .error unmade => unmade.files

theorem left_ensureDirectory_of_error {fault : MakeFault}
    (hmake : f.makeDirectory p = .error fault) : left (f.ensureDirectory p) = f := by
  rw [ensureDirectory, hmake]
  dsimp only
  split <;> rfl

theorem grows_ensureDirectory (f : Files) (p : Path) : Grows f (left (f.ensureDirectory p)) p := by
  cases hmake : f.makeDirectory p with
  | ok g =>
    rw [ensureDirectory, hmake]
    exact grows_makeDirectory hmake
  | error fault =>
    rw [left_ensureDirectory_of_error hmake]
    exact .refl f p

/-- However many steps up the missing directories begin, and whatever becomes of them, only those on
the way are added. -/
theorem grows_makeDirectoriesWithin (f : Files) (fuel : Nat) (p : Path) :
    Grows f (left (f.makeDirectoriesWithin fuel p)) p := by
  induction fuel generalizing p with
  | zero => exact grows_ensureDirectory f p
  | succ fuel ih =>
    rw [makeDirectoriesWithin]
    split
    · split
      · exact .refl f p
      · have habove := ih p.parent
        cases hmake : f.makeDirectoriesWithin fuel p.parent with
        | error unmade =>
          rw [hmake] at habove
          exact habove.trans (.refl _ p) p.parent_isAtOrAbove
        | ok above =>
          rw [hmake] at habove
          exact habove.trans (grows_ensureDirectory above p) p.parent_isAtOrAbove
    · next made hmade => exact grows_makeDirectory hmade
    · split <;> exact .refl f p

theorem grows_makeDirectories (f : Files) (p : Path) : Grows f (left (f.makeDirectories p)) p :=
  grows_makeDirectoriesWithin f _ p

theorem node?_eq_ok_iff {t : FileTree} :
    f.node? p = .ok t ↔ ∃ place, f.place? p = .ok place ∧ f.root.at? place = some t := by
  cases hplace : f.place? p with
  | error why =>
    rw [node?_of_error hplace]
    exact ⟨nofun, fun ⟨_, h, _⟩ => by cases h⟩
  | ok place =>
    rw [node?_of_place? hplace]
    constructor
    · intro h
      cases hat : f.root.at? place with
      | none => rw [hat] at h; cases h
      | some u => rw [hat] at h; exact ⟨place, rfl, hat.trans (congrArg some (Except.ok.inj h))⟩
    · rintro ⟨place', ⟨⟩, hat⟩
      rw [hat]

/-- A step leads to a name where there is a directory. -/
theorem descend_name {root : FileTree} {place : List String}
    (hplace : root.IsDirectoryAt place.reverse) {name : String} (hname : name ≠ "..") :
    descend root place [name] =
      if maxName < name.utf8ByteSize then .error .nameTooLong else .ok (name :: place) := by
  obtain ⟨entries, hat⟩ := hplace
  rw [descend, hat]
  dsimp only
  rw [if_neg hname]
  rfl

/-- A file where one is stays one, and does not come into being, when directories are added. -/
theorem Grows.node?_eq_file_iff (hgrows : Grows f g p) {name : String} (hname : name ≠ "..")
    {content : List UInt8} :
    g.node? ⟨.here, [name]⟩ = .ok (.file content) ↔
      f.node? ⟨.here, [name]⟩ = .ok (.file content) := by
  rw [node?_eq_ok_iff, node?_eq_ok_iff]
  constructor
  · rintro ⟨place, hplace, hat⟩
    rw [hgrows.files] at hat
    refine ⟨place, ?_, hat⟩
    have hway := descend_of_place? hplace
    have hg : g.root.IsDirectoryAt f.cwd.steps.reverse.reverse :=
      hgrows.cwd ▸ isDirectoryAt_of_descend_cons hway
    change descend g.root g.cwd.steps.reverse [name] = _ at hway
    rw [hgrows.cwd, descend_name hg hname] at hway
    split at hway
    · cases hway
    · obtain rfl : place = f.cwd.steps ++ [name] := by
        rw [← List.reverse_reverse place, ← Except.ok.inj hway, List.reverse_cons,
          List.reverse_reverse]
      -- the file was there before, so one was in a directory before
      have hf : f.root.IsDirectoryAt f.cwd.steps.reverse.reverse := by
        rw [List.reverse_reverse]
        exact FileTree.isDirectoryAt_of_at?_concat hat
      have hsame : descend f.root (f.origin ⟨.here, [name]⟩) [name] =
          descend g.root (g.origin ⟨.here, [name]⟩) [name] := by
        change descend f.root f.cwd.steps.reverse [name] = descend g.root g.cwd.steps.reverse [name]
        rw [hgrows.cwd, descend_name hf hname, descend_name hg hname]
      refine Eq.trans ?_ hplace
      rw [Files.place?, Files.place?, hsame]
  · rintro ⟨place, hplace, hat⟩
    exact ⟨place, hgrows.place? hplace, (hgrows.files place content).2 hat⟩

/-- The files with a directory and the missing ones above it: the files are the same, and the
directories are those that were there and those on the way of the path. -/
structure Extended (f g : Files) (p : Path) : Prop where
  cwd : g.cwd = f.cwd
  files : ∀ place content,
    g.root.at? place = some (.file content) ↔ f.root.at? place = some (.file content)
  directories : ∀ place, g.root.IsDirectoryAt place ↔
    f.root.IsDirectoryAt place ∨ ∃ q : Path, q.IsAtOrAbove p ∧ g.place? q = .ok place
  there : g.isDirectory p = true

/-- Only the directories on the way of a path are made. -/
theorem extended_of_makeDirectories (hmake : f.makeDirectories p = .ok g) : Extended f g p := by
  have hgrows := grows_makeDirectories f p
  rw [hmake] at hgrows
  have hthere := isDirectory_of_makeDirectories hmake
  refine ⟨hgrows.cwd, hgrows.files, fun place => ⟨hgrows.made place, ?_⟩, hthere⟩
  rintro (hold | ⟨q, hq, hplace⟩)
  · exact hgrows.kept place hold
  · exact isDirectoryAt_of_isAtOrAbove hthere hq hplace

/-! ### Directories that cannot be made -/

theorem size_intercalate_dropLast (steps : List String) :
    ("/".intercalate steps.dropLast).utf8ByteSize ≤ ("/".intercalate steps).utf8ByteSize := by
  induction steps with
  | nil => exact Nat.le_refl _
  | cons s r ih =>
    match r with
    | [] => exact Nat.zero_le _
    | [t] =>
      rw [String.intercalate_cons_cons]
      simp [String.utf8ByteSize_append]
      omega
    | t :: u :: v =>
      rw [List.dropLast_cons_of_ne_nil (List.cons_ne_nil _ _)] at ih ⊢
      rw [List.dropLast_cons_of_ne_nil (List.cons_ne_nil _ _), String.intercalate_cons_cons,
        String.intercalate_cons_cons]
      simp only [String.utf8ByteSize_append]
      omega

/-- Without its last step a path is not longer. -/
theorem isTooLong_parent (h : isTooLong p = false) : isTooLong p.parent = false := by
  rw [isTooLong, decide_eq_false_iff_not, Nat.not_lt] at h ⊢
  have hsize := size_intercalate_dropLast p.steps
  rw [Path.text] at h ⊢
  split
  · decide
  · next hparent =>
    have hp : ¬ (decide (p.start = .here) && p.steps.isEmpty) = true := by
      intro hempty
      obtain ⟨hstart, hsteps⟩ := Bool.and_eq_true_iff.1 hempty
      refine hparent (Bool.and_eq_true_iff.2 ⟨hstart, ?_⟩)
      rw [Path.parent, List.isEmpty_iff.1 hsteps]
      rfl
    rw [if_neg hp, String.utf8ByteSize_append] at h
    rw [String.utf8ByteSize_append, Path.parent]
    dsimp only
    omega

/-- Where the last step of a path leads on from is a directory. -/
theorem isDirectory_parent {place : List String} (hplace : f.place? p = .ok place)
    (hne : p.steps ≠ []) : f.isDirectory p.parent = true := by
  have hdescend := descend_of_place? hplace
  rw [← List.dropLast_concat_getLast hne, descend_append] at hdescend
  cases hmid : descend f.root (f.origin p) p.steps.dropLast with
  | error why => rw [hmid] at hdescend; cases hdescend
  | ok mid =>
    rw [hmid] at hdescend
    refine isDirectory_iff.2 ⟨mid.reverse, ?_, isDirectoryAt_of_descend_cons hdescend⟩
    rw [place?] at hplace
    split at hplace
    · cases hplace
    · next hnames =>
      split at hplace
      · cases hplace
      · next hlong =>
        have hnames' : ¬ p.parent.steps.any (·.contains '\x00') = true := by
          intro h
          obtain ⟨s, hs, hbad⟩ := List.any_eq_true.1 h
          exact hnames (List.any_eq_true.2 ⟨s, List.dropLast_subset _ hs, hbad⟩)
        rw [place?, if_neg hnames', isTooLong_parent (Bool.eq_false_iff.2 hlong)]
        change (·.reverse) <$> descend f.root (f.origin p) p.steps.dropLast = _
        rw [hmid]
        rfl

theorem files_of_ensureDirectory {unmade : Unmade} (hfail : f.ensureDirectory p = .error unmade) :
    unmade.files = f := by
  rw [ensureDirectory] at hfail
  split at hfail
  · cases hfail
  · split at hfail
    · cases hfail
    · rw [← Except.error.inj hfail]

/-- In a directory only the last step is to be made. -/
theorem makeDirectoriesWithin_succ_of_isDirectory (h : f.isDirectory p.parent = true)
    (hne : p.parent ≠ p) (fuel : Nat) :
    f.makeDirectoriesWithin (fuel + 1) p = f.ensureDirectory p := by
  rw [makeDirectoriesWithin]
  split
  · rw [if_neg hne, makeDirectoriesWithin_of_isDirectory h]
    rfl
  · next made hmade => rw [ensureDirectory, hmade]
  · next fault _ hfault => rw [ensureDirectory, hfault]

/-- Who makes a directory could make those above it alone. -/
theorem exists_above_of_makeDirectoriesWithin {fuel : Nat}
    (hmake : f.makeDirectoriesWithin (fuel + 1) p = .ok g) (hne : p.parent ≠ p) :
    ∃ above, f.makeDirectoriesWithin fuel p.parent = .ok above := by
  have hsteps : p.steps ≠ [] := by
    intro hnil
    exact hne (by rw [Path.parent, hnil, List.dropLast_nil, ← hnil])
  rw [makeDirectoriesWithin] at hmake
  split at hmake
  · rw [if_neg hne] at hmake
    cases habove : f.makeDirectoriesWithin fuel p.parent with
    | error unmade => rw [habove] at hmake; cases hmake
    | ok above => exact ⟨above, rfl⟩
  · next made hmade =>
    rw [makeDirectory] at hmade
    split at hmade
    · cases hmade
    · next place hplace =>
      exact ⟨f, makeDirectoriesWithin_of_isDirectory (isDirectory_parent hplace hsteps) fuel⟩
  · split at hmake
    · next hthere =>
      obtain ⟨place, hplace, -⟩ := isDirectory_iff.1 hthere
      exact ⟨f, makeDirectoriesWithin_of_isDirectory (isDirectory_parent hplace hsteps) fuel⟩
    · cases hmake

/-- What could not be made cannot be made afterwards either, whatever was made above it. -/
theorem makeDirectoriesWithin_again {fuel : Nat} {unmade : Unmade}
    (hfail : f.makeDirectoriesWithin fuel p = .error unmade) :
    ∃ again, unmade.files.makeDirectoriesWithin fuel p = .error again := by
  induction fuel generalizing p unmade with
  | zero =>
    rw [files_of_ensureDirectory hfail]
    exact ⟨unmade, hfail⟩
  | succ fuel ih =>
    have hfirst := hfail
    rw [makeDirectoriesWithin] at hfail
    split at hfail
    · split at hfail
      · cases hfail
        exact ⟨_, hfirst⟩
      · next hne =>
        cases habove : f.makeDirectoriesWithin fuel p.parent with
        | error above =>
          rw [habove] at hfail
          cases hfail
          obtain ⟨again, hagain⟩ := ih habove
          cases hnow : unmade.files.makeDirectoriesWithin (fuel + 1) p with
          | error still => exact ⟨still, rfl⟩
          | ok g =>
            obtain ⟨h, hh⟩ := exists_above_of_makeDirectoriesWithin hnow hne
            rw [hagain] at hh
            cases hh
        | ok above =>
          -- the one above is there now, so the last step fails as before
          rw [habove] at hfail
          have hthere := isDirectory_of_makeDirectoriesWithin habove
          rw [files_of_ensureDirectory hfail,
            makeDirectoriesWithin_succ_of_isDirectory hthere hne fuel]
          exact ⟨unmade, hfail⟩
    · cases hfail
    · split at hfail
      · cases hfail
      · cases hfail
        exact ⟨_, hfirst⟩

/-- A directory that could not be made cannot be made with what was made for it. -/
theorem makeDirectories_again {unmade : Unmade} (hfail : f.makeDirectories p = .error unmade) :
    ∃ again, unmade.files.makeDirectories p = .error again :=
  makeDirectoriesWithin_again hfail

end Files

end ElementLookup
