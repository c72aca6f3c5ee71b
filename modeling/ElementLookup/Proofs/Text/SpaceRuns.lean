/-
**Maximal runs of spaces.**

Two texts look the same on a page if they differ only in how their words are spaced, because every
run of spaces is shown as one.  A pattern for inexact text takes the same view: it replaces each run
of spaces that cannot be lengthened, and nothing else.  This module says what such a run is, gives
the induction over a text that goes from run to run, and defines the two things that patterns are
compared with: the text with one space for each run, and the texts that arise from it by spacing it
differently and folding its letters.

Main definitions:

* `Text.MaximalRun` — a run of spaces at the front that the rest does not lengthen;
* `Text.collapseSpaces` — one space for each maximal run;
* `Text.Respaced` — a text with other spaces in place of each run, up to a folding of characters.

Main results:

* `Text.runInduction` — what holds of a text if it is carried over a character and over a run;
* `Text.collapseSpaces_run` — a maximal run becomes one space;
* `Text.respaced_self` — every text arises from itself.
-/

import ElementLookup.Text.Blank

set_option autoImplicit false

namespace ElementLookup.Text

/-! ### Runs -/

/-- A run of spaces at the front of a text that what follows does not lengthen. -/
structure MaximalRun (run rest : List Char) : Prop where
  /-- There is a space. -/
  nonempty : run ≠ []
  /-- There are only spaces. -/
  spaces : ∀ c ∈ run, isSpace c = true
  /-- What follows does not start with a space. -/
  ends : ∀ c, rest.head? = some c → isSpace c = false

/-- A text that starts with a space starts with a maximal run. -/
theorem maximalRun_takeWhile {c : Char} (hc : isSpace c = true) (rest : List Char) :
    MaximalRun ((c :: rest).takeWhile isSpace) ((c :: rest).dropWhile isSpace) where
  nonempty := by simp [hc]
  spaces d hd := by
    have h := List.all_takeWhile (p := isSpace) (l := c :: rest)
    exact List.all_eq_true.1 h d hd
  ends := head?_dropWhile_not isSpace (c :: rest)

/-- Induction over a text from one maximal run of spaces to the next. -/
@[elab_as_elim]
theorem runInduction {motive : List Char → Prop} (nil : motive [])
    (char : ∀ (c : Char) (rest : List Char), isSpace c = false → motive rest → motive (c :: rest))
    (run : ∀ run rest : List Char, MaximalRun run rest → motive rest → motive (run ++ rest))
    (text : List Char) : motive text := by
  -- a run is skipped as a whole, so the induction is on the length
  induction hn : text.length using Nat.strongRecOn generalizing text with
  | ind n ih =>
      cases text with
      | nil => exact nil
      | cons c rest =>
          cases hc : isSpace c with
          | false => exact char c rest hc (ih rest.length (by simp [← hn]) rest rfl)
          | true =>
              have hrun := maximalRun_takeWhile hc rest
              have hshort : ((c :: rest).dropWhile isSpace).length < n := by
                have hle := (List.dropWhile_sublist isSpace (l := rest)).length_le
                simp [hc, ← hn]
                omega
              have h := run _ _ hrun (ih _ hshort _ rfl)
              rwa [List.takeWhile_append_dropWhile] at h

/-! ### One space for each run -/

/-- A text with one space for each maximal run of spaces. -/
def collapseSpaces : List Char → List Char
  | [] => []
  | c :: rest =>
    if isSpace c then ' ' :: collapseSpaces (rest.dropWhile isSpace)
    else c :: collapseSpaces rest
termination_by text => text.length
decreasing_by
  · have hle := (List.dropWhile_sublist isSpace (l := rest)).length_le
    simp only [List.length_cons]
    omega
  · simp

@[simp] theorem collapseSpaces_nil : collapseSpaces [] = [] := by simp [collapseSpaces]

theorem collapseSpaces_cons {c : Char} (hc : isSpace c = false) (rest : List Char) :
    collapseSpaces (c :: rest) = c :: collapseSpaces rest := by
  simp [collapseSpaces, hc]

/-- A maximal run becomes one space. -/
theorem collapseSpaces_run {run rest : List Char} (h : MaximalRun run rest) :
    collapseSpaces (run ++ rest) = ' ' :: collapseSpaces rest := by
  obtain ⟨hne, hsp, hend⟩ := h
  cases run with
  | nil => exact absurd rfl hne
  | cons c r =>
      rw [List.forall_mem_cons] at hsp
      have hdrop : (r ++ rest).dropWhile isSpace = rest := by
        rw [List.dropWhile_append_of_pos hsp.2, dropWhile_eq_self isSpace rest hend]
      rw [List.cons_append, collapseSpaces, if_pos hsp.1, hdrop]

/-- The only space of a collapsed text is the plain one. -/
theorem eq_space_of_mem_collapseSpaces {text : List Char} {c : Char}
    (hc : c ∈ collapseSpaces text) (hsp : isSpace c = true) : c = ' ' := by
  induction text using runInduction with
  | nil => simp at hc
  | char d rest hd ih =>
      rw [collapseSpaces_cons hd, List.mem_cons] at hc
      rcases hc with rfl | hc
      · rw [hd] at hsp
        cases hsp
      · exact ih hc
  | run run rest hrun ih =>
      rw [collapseSpaces_run hrun, List.mem_cons] at hc
      rcases hc with rfl | hc
      · rfl
      · exact ih hc

example : collapseSpaces "a \t b\n".toList = "a b ".toList := by simp [collapseSpaces, isSpace]

/-! ### Other spaces for each run -/

/-- `Respaced fold spaces text other` says that `other` arises from `text` by replacing every
maximal run of spaces by some characters of the class `spaces`, at least one, and every other
character by one with the same folding. -/
inductive Respaced {α : Type} (fold : Char → α) (spaces : Char → Prop) :
    List Char → List Char → Prop
  | nil : Respaced fold spaces [] []
  | char {c d : Char} {rest other : List Char} :
      isSpace c = false → fold d = fold c → Respaced fold spaces rest other →
      Respaced fold spaces (c :: rest) (d :: other)
  | run {run rest wide other : List Char} :
      MaximalRun run rest → wide ≠ [] → (∀ d ∈ wide, spaces d) → Respaced fold spaces rest other →
      Respaced fold spaces (run ++ rest) (wide ++ other)

/-- Every text arises from itself, if the class holds every space. -/
theorem respaced_self {α : Type} (fold : Char → α) {spaces : Char → Prop}
    (hspaces : ∀ c, isSpace c = true → spaces c) (text : List Char) :
    Respaced fold spaces text text := by
  induction text using runInduction with
  | nil => exact .nil
  | char c rest hc ih => exact .char hc rfl ih
  | run run rest hrun ih =>
      exact .run hrun hrun.nonempty (fun d hd => hspaces d (hrun.spaces d hd)) ih

end ElementLookup.Text
