/-
**How far recursion may go.**

What is nested is gone through by recursion, and recursion takes stack.  How much of it is left when
a walk begins depends on who began it, so no depth is fixed here.  A session is given its depths,
and what is said of its walks holds whatever they are.

Main definitions:

* `Depths` — how far each of the walks may go;
* `Depths.all` — the same depth for all walks.

Main results: none; this is vocabulary.
-/

set_option autoImplicit false

namespace ElementLookup

/-- How far recursion may go before the stack is used up. -/
structure Depths where
  /-- Through nodes of a document in one another, while the document is read. -/
  nodes : Nat
  /-- Through mappings of a document that take over entries from one another. -/
  merges : Nat
  /-- Through mappings of a document that stand for their defaults. -/
  defaults : Nat
  /-- Through lists and mappings in one another, while references in them are replaced. -/
  containers : Nat
  /-- Through directories below one another, while query files are looked for. -/
  directories : Nat
  /-- Through lists and objects in one another, while they are written on a line. -/
  written : Nat
  deriving DecidableEq, Repr

/-- The same depth for all walks. -/
def Depths.all (depth : Nat) : Depths := ⟨depth, depth, depth, depth, depth, depth⟩

end ElementLookup
