/-
**Texts of documents that cannot be written.**

A document may hold texts with halves of surrogate pairs.  It is accepted like any other, but no
encoding can write those texts, nor the selectors that they become part of.  What a document says
of its halves is found beside its queries, which hold replacement characters in their place.

Main definitions:

* `QueryHalves`, `DocumentHalves` — where a query, and a document, hold halves;
* `QueryHalves.ofValue`, `DocumentHalves.ofValue` — the same, read off a document's data.

Main results:

* `DocumentHalves.length_queries` — every query of a list is looked at.
-/

import ElementLookup.Query.Check

set_option autoImplicit false

namespace ElementLookup

/-! ### Fields -/

/-- Whether the text of a field holds a half. -/
def halvedAt (entries : List (Value × Value)) (key : String) : Bool :=
  (Value.entry? entries key).any Value.isHalved

/-- Whether a text, or the source of a pattern, holds a half. -/
def Value.isHalvedTextOrPattern : Value → Bool
  | .map entries => halvedAt entries "pattern"
  | v => v.isHalved

/-! ### Queries -/

/-- Whether the description of a query holds a half, and whether its selector does. -/
structure QueryHalves where
  description : Bool
  selector : Bool
  deriving DecidableEq, Repr

/-- Whether the selector of a query of some kind holds a half; `idHalved` tells whether the
attribute for test ids does. -/
def halvedSelector (idHalved : Bool) (kind : Kind) (entries : List (Value × Value)) : Bool :=
  let within (key : String) := (Value.entry? entries key).any Value.isHalvedTextOrPattern
  match kind with
  | .text .testId => idHalved || within "value"
  | .text _ => within "value"
  | .role => halvedAt entries "role" || within "name"

/-- Where a query holds halves. -/
def QueryHalves.ofValue (idHalved : Bool) : Value → QueryHalves
  | .map entries =>
    let kind? := (Value.entry? entries "kind").bind Check.kindOf?
    ⟨halvedAt entries "description", kind?.any fun kind => halvedSelector idHalved kind entries⟩
  | _ => ⟨false, false⟩

/-! ### Documents -/

/-- Whether the name of a document holds a half, and where its queries do. -/
structure DocumentHalves where
  name : Bool
  queries : List QueryHalves
  deriving DecidableEq, Repr

/-- The items of a list of queries. -/
def queryItems : Value → List Value
  | .list vs | .tuple vs | .set vs => vs
  | _ => []

/-- Where a document holds halves. -/
def DocumentHalves.ofValue : Value → DocumentHalves
  | .map entries =>
    let items := ((Value.entry? entries "queries").map queryItems).getD []
    ⟨halvedAt entries "name",
      items.map (QueryHalves.ofValue (halvedAt entries "test_id_attribute"))⟩
  | _ => ⟨false, []⟩

theorem DocumentHalves.length_queries {entries : List (Value × Value)} {vs : List Value}
    (h : Value.entry? entries "queries" = some (.list vs)) :
    (DocumentHalves.ofValue (.map entries)).queries.length = vs.length := by
  simp [DocumentHalves.ofValue, h, queryItems]

end ElementLookup
