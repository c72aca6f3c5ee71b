/-
**Paths.**

A path names a place among files by the steps that lead to it, from the root or from wherever one
is.  Empty steps and steps that stay in place are dropped when a path is read; steps upward are
kept.  Steps are Unicode text: names whose octets are no UTF-8 have no path here.

Main definitions:

* `Path`, `Path.ofText`, `Path.text` — paths and their written form;
* `Path.join`, `Path.parent` — a path seen from another one, and the place above;
* `Path.resolve` — an absolute path without steps upward;
* `Path.le` — the order of paths, step by step.

Main results:

* `Path.join_of_isAbsolute` — an absolute path is the same from everywhere.
-/

import ElementLookup.Text.Split

set_option autoImplicit false

namespace ElementLookup

/-- Where a path starts: at the place one is, at the root, or at the root in the form that is
written with two strokes. -/
inductive Path.Start where
  | here
  | root
  | doubleRoot
  deriving DecidableEq, Repr

/-- A path by its steps. -/
structure Path where
  start : Path.Start
  steps : List String
  deriving DecidableEq, Repr

namespace Path

/-! ### Written form -/

/-- Where a written path starts: exactly two strokes differ from one and from three. -/
def startOf : List Char → Start
  | '/' :: '/' :: '/' :: _ => .root
  | '/' :: '/' :: _ => .doubleRoot
  | '/' :: _ => .root
  | _ => .here

/-- The path with a written form. -/
def ofText (s : String) : Path :=
  let steps := (Text.split '/' s.toList).map String.ofList
  ⟨startOf s.toList, steps.filter fun p => p ≠ "" && p ≠ "."⟩

/-- The written form of a start. -/
def Start.text : Start → String
  | .here => ""
  | .root => "/"
  | .doubleRoot => "//"

/-- The written form of a path; the place one is at is a dot. -/
def text (p : Path) : String :=
  if p.start = .here && p.steps.isEmpty then "."
  else p.start.text ++ "/".intercalate p.steps

/-! ### Places -/

/-- Whether a path starts at the root. -/
def isAbsolute (p : Path) : Bool := p.start ≠ .here

/-- The place of `q` seen from `p`. -/
def join (p q : Path) : Path :=
  if q.isAbsolute then q else ⟨p.start, p.steps ++ q.steps⟩

theorem join_of_isAbsolute {q : Path} (h : q.isAbsolute = true) (p : Path) : p.join q = q := by
  simp [join, h]

theorem isAbsolute_join {p : Path} (h : p.isAbsolute = true) (q : Path) :
    (p.join q).isAbsolute = true := by
  by_cases hq : q.isAbsolute = true
  · rw [join_of_isAbsolute hq]; exact hq
  · rw [join, if_neg hq]; exact h

/-- The place above. -/
def parent (p : Path) : Path := ⟨p.start, p.steps.dropLast⟩

/-- Follows steps from a place, which is given by its steps in reverse. -/
def follow (place : List String) : List String → List String
  | [] => place
  | s :: r => if s = ".." then follow place.tail r else follow (s :: place) r

/-- The absolute path without steps upward that leads to the same place. -/
def resolve (cwd p : Path) : Path :=
  ⟨.root, (follow [] (cwd.join p).steps).reverse⟩

/-! ### Order -/

/-- The steps as the order of paths sees them. -/
def sortKey (p : Path) : List (List Char) := p.steps.map String.toList

/-- The order of paths: step by step, each by code points. -/
def le (p q : Path) : Bool := !decide (q.sortKey < p.sortKey)

example : (ofText "./a//b/").text = "a/b" := by decide +kernel
example : (ofText "//two").text = "//two" ∧ (ofText "///x").text = "/x" := by decide +kernel

end Path

end ElementLookup
