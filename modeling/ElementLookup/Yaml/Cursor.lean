/-
**Positions in a document.**

A cursor stands between two characters of a document.  It knows what follows and how much that is,
and how many characters, lines and columns lie before it.

Main definitions:

* `Yaml.Cursor` — a position;
* `Yaml.Cursor.forward`, `Yaml.Cursor.skip` — positions further on;
* `Yaml.Cursor.lineBreak?` — the end of a line, as the text of a value holds it;
* `Yaml.Cursor.atMarker` — the marks that begin and end documents.

Main results:

* `Yaml.Cursor.rest_skip` — what follows a later position.
-/

import ElementLookup.Yaml.Character

set_option autoImplicit false

namespace ElementLookup.Yaml

/-- A position: what follows it, with its length, and what lies before it. -/
structure Cursor where
  rest : List Char
  left : Nat
  index : Nat
  line : Nat
  column : Nat
  left_eq : left = rest.length

namespace Cursor

/-- The beginning of a text. -/
def start (cs : List Char) : Cursor := ⟨cs, cs.length, 0, 0, 0, rfl⟩

/-- The next character. -/
def peek? (c : Cursor) : Option Char := c.rest.head?

/-- The character after `n` others. -/
def peekAt? (c : Cursor) (n : Nat) : Option Char := c.rest[n]?

/-- The position after the next character. -/
def forward (c : Cursor) : Cursor :=
  match h : c.rest with
  | [] => c
  | x :: r =>
    have left_eq : c.left - 1 = r.length := by simp [c.left_eq, h]
    if isBreak x then ⟨r, c.left - 1, c.index + 1, c.line + 1, 0, left_eq⟩
    else ⟨r, c.left - 1, c.index + 1, c.line,
      if x = byteOrderMark then c.column else c.column + 1, left_eq⟩

/-- The position after `n` characters. -/
def skip (c : Cursor) : Nat → Cursor
  | 0 => c
  | n + 1 => c.forward.skip n

theorem rest_forward (c : Cursor) : c.forward.rest = c.rest.tail := by
  unfold forward
  split
  · simp_all
  · split <;> simp_all

theorem rest_skip (c : Cursor) (n : Nat) : (c.skip n).rest = c.rest.drop n := by
  induction n generalizing c with
  | zero => rfl
  | succ n ih => rw [skip, ih, rest_forward, List.drop_tail]

/-- The next characters of a class, and the position after them. -/
def span (c : Cursor) (p : Char → Bool) : List Char × Cursor :=
  let run := c.rest.takeWhile p
  (run, c.skip run.length)

/-- The position after the next characters of a class. -/
def skipWhile (c : Cursor) (p : Char → Bool) : Cursor := (c.span p).2

/-- The position after blanks. -/
def skipSpaces (c : Cursor) : Cursor := c.skipWhile (· = ' ')

/-- The position at the end of the line. -/
def skipToBreak (c : Cursor) : Cursor := c.skipWhile fun x => !isBreak x

/-- The end of a line, as the text of a value holds it, and the position after it. -/
def lineBreak? (c : Cursor) : Option (Char × Cursor) :=
  match c.peek? with
  | some x =>
    if x = '\n' || x = '\x85' then some ('\n', c.forward)
    else if isBreak x then some (x, c.forward)
    else none
  | none => none

/-- Whether one of the marks `---` and `...` stands here, with a gap after it. -/
def atMarker (c : Cursor) : Bool :=
  let three := c.rest.take 3
  (three = ['-', '-', '-'] || three = ['.', '.', '.']) && endOr isGap (c.peekAt? 3)

end Cursor

end ElementLookup.Yaml
