/-
**Literal text inside selectors.**

The query engine reads a selector from left to right, so literal text has to be written in a form
that it does not take for something else.  Exact text stands between double quotes.  Inexact text
stands as it is, unless it holds a double quote or the engine's separator `>>`, or starts like a
pattern; it is then written as a pattern that ignores case and in which a run of spaces matches any
run of spaces.

Main definitions:

* `Selector.isSpecial`, `Selector.escapeChars` — the characters with a meaning in patterns, and a
  text without their meaning;
* `Selector.widenSpaces` — each run of spaces replaced by a pattern for such runs;
* `Selector.quote` — text between double quotes;
* `Selector.needsPattern` — the inexact texts that cannot stand as they are;
* `Selector.textBody`, `Selector.attributeBody` — the written forms of a text value.

Main results:

* `Selector.escapeChars_append`, `Selector.length_quoteChars` — the two escapes go character by
  character.
-/

import ElementLookup.Pattern
import ElementLookup.Text.Blank

set_option autoImplicit false

namespace ElementLookup.Selector

/-! ### Escaping for patterns -/

/-- The characters that have a meaning in a pattern. -/
def specials : List Char :=
  ['.', '*', '+', '?', '^', '>', '$', '\x7b', '\x7d', '(', ')', '|', '[', ']', '\\']

/-- Whether a character has a meaning in a pattern. -/
def isSpecial (c : Char) : Bool := c ∈ specials

/-- One character without its meaning. -/
def escapeChar (c : Char) : List Char :=
  if isSpecial c then ['\\', c] else [c]

/-- A text of which every character stands for itself. -/
def escapeChars (cs : List Char) : List Char :=
  cs.flatMap escapeChar

@[simp] theorem escapeChars_nil : escapeChars [] = [] := rfl

@[simp] theorem escapeChars_cons (c : Char) (r : List Char) :
    escapeChars (c :: r) = escapeChar c ++ escapeChars r := rfl

theorem escapeChars_append (a b : List Char) :
    escapeChars (a ++ b) = escapeChars a ++ escapeChars b := by
  simp [escapeChars]

/-- A text as the source of a pattern that matches it. -/
def escapeRegex (text : String) : String :=
  String.ofList (escapeChars text.toList)

/-! ### Runs of spaces -/

/-- The pattern for a run of spaces. -/
def anySpaces : List Char := ['\\', 's', '+']

/-- Replaces each maximal run of spaces by the pattern for such runs; `within` tells whether the
text before ends in a space. -/
def widenSpaces (within : Bool) : List Char → List Char
  | [] => []
  | c :: r =>
    if Text.isSpace c then
      -- the first space of a run has written the pattern for all of it
      if within then widenSpaces true r else anySpaces ++ widenSpaces true r
    else c :: widenSpaces false r

@[simp] theorem widenSpaces_nil (within : Bool) : widenSpaces within [] = [] := rfl

/-! ### Quoting -/

/-- One character between double quotes. -/
def quoteChar (c : Char) : List Char :=
  if c = '"' then ['\\', '"'] else [c]

/-- The characters between double quotes; backslashes pass as they are. -/
def quoteChars (cs : List Char) : List Char :=
  cs.flatMap quoteChar

@[simp] theorem quoteChars_nil : quoteChars [] = [] := rfl

@[simp] theorem quoteChars_cons (c : Char) (r : List Char) :
    quoteChars (c :: r) = quoteChar c ++ quoteChars r := rfl

/-- Each double quote costs one more character. -/
theorem length_quoteChars (cs : List Char) :
    (quoteChars cs).length = cs.length + cs.count '"' := by
  induction cs with
  | nil => rfl
  | cons c r ih =>
    by_cases h : c = '"'
    · subst h; simp [quoteChar, ih]; omega
    · have h' : ('"' == c) = false := by simpa using fun e => h e.symm
      simp [quoteChar, h, ih]; omega

/-- A text between double quotes. -/
def quote (text : String) : String :=
  String.ofList ('"' :: (quoteChars text.toList ++ ['"']))

/-! ### Written forms -/

/-- Whether two angle brackets are neighbours, which separates the parts of a selector. -/
def hasSeparator : List Char → Bool
  | '>' :: '>' :: _ => true
  | _ :: r => hasSeparator r
  | [] => false

/-- The inexact texts that the engine would not read as themselves. -/
def needsPattern (cs : List Char) : Bool :=
  cs.contains '"' || hasSeparator cs || cs.head? = some '/'

/-- The source of the pattern for an inexact text. -/
def patternBody (cs : List Char) : List Char :=
  widenSpaces false (escapeChars cs)

/-- The form of a text value in a text or label lookup; a pattern ignores `exact`. -/
def textBody (value : TextValue) (exact : Bool) : String :=
  match value with
  | .pattern p => p.literal
  | .literal text =>
    if exact then quote text
    else if needsPattern text.toList then
      "/" ++ String.ofList (patternBody text.toList) ++ "/i"
    else text

/-- The form of a literal text as an attribute's value: inexact text is marked. -/
def attributeText (text : String) (exact : Bool) : String :=
  if exact then quote text else quote text ++ "i"

/-- The form of a text value as an attribute's value; a pattern ignores `exact`. -/
def attributeBody (value : TextValue) (exact : Bool) : String :=
  match value with
  | .pattern p => p.literal
  | .literal text => attributeText text exact

/-- The selector of the elements whose attribute `name` has a value. -/
def byAttribute (name : String) (value : TextValue) (exact : Bool) : String :=
  "internal:attr=[" ++ name ++ "=" ++ attributeBody value exact ++ "]"

end ElementLookup.Selector
