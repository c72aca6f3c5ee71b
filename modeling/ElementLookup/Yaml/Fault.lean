/-
**Why a document cannot be read.**

Most faults are violations of the rules of documents; they are not told apart here.  The others come
from values that a tag asks for and that do not exist.

Main definitions:

* `Yaml.Fault` — the faults.

Main results: none; this is vocabulary.
-/

set_option autoImplicit false

namespace ElementLookup.Yaml

/-- Why a document cannot be read. -/
inductive Fault where
  /-- The rules of documents, or those of a tag, are violated. -/
  | malformed
  /-- A number, a date or a character that does not exist is written. -/
  | noSuchValue
  /-- A number without a digit is written. -/
  | emptyNumber
  /-- A word that is no truth value is tagged as one. -/
  | unknownWord
  /-- A text that is no date is tagged as one. -/
  | noDate
  /-- A container is tagged as a date. -/
  | wrongShape
  /-- A number or a character code is beyond all bounds. -/
  | beyondBounds
  /-- Nodes stand in one another too deeply, or refer to one another over too many steps. -/
  | tooDeep
  deriving DecidableEq, Repr

end ElementLookup.Yaml
