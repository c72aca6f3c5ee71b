/-
**Accepted documents have selectors.**

Whatever is accepted as a document can be compiled: the steps that might fail, such as making a
pattern, have succeeded before.  There is one selector for each query, in the order of the queries,
and it is the one that the query has by itself under the attribute of the document, or else of the
context.  The one thing that can still go wrong is that a level has too many digits to be written.

Main definitions:

* `Kind.start` — what the selectors of a kind begin with;
* `Session.ComesTo` — a query has a selector of its kind by itself.

Main results:

* `Query.exists_selector_eq` — selectors begin as their kinds demand;
* `Session.compileDocument_of_accepted` — **accepted documents have selectors**.
-/

import ElementLookup.Proofs.Query.Accepted
import ElementLookup.Proofs.Session.Answers

set_option autoImplicit false

namespace ElementLookup

/-! ### Kinds of selectors -/

/-- What a selector of the elements whose attribute `name` has some value begins with. -/
def Selector.attributeStart (name : String) : String := "internal:attr=[" ++ name ++ "="

theorem Selector.byAttribute_eq (name : String) (value : TextValue) (exact : Bool) :
    byAttribute name value exact = attributeStart name ++ (attributeBody value exact ++ "]") := by
  unfold byAttribute attributeStart
  exact String.append_assoc

/-- What the selectors of a kind begin with, under an attribute for test ids. -/
def Kind.start (idAttribute : String) : Kind → String
  | .text .testId => Selector.attributeStart idAttribute
  | .text .altText => Selector.attributeStart "alt"
  | .text .title => Selector.attributeStart "title"
  | .text .placeholder => Selector.attributeStart "placeholder"
  | .text .label => "internal:label="
  | .text .text => "text="
  | .role => "role="

/-- The selector of a text value begins as its kind demands. -/
theorem TextKind.exists_selector_eq (kind : TextKind) (idAttribute : String) (value : TextValue)
    (exact : Bool) :
    ∃ body, kind.selector idAttribute value exact = (Kind.text kind).start idAttribute ++ body := by
  cases kind with
  | testId => exact ⟨_, Selector.byAttribute_eq idAttribute value true⟩
  | altText => exact ⟨_, Selector.byAttribute_eq "alt" value exact⟩
  | title => exact ⟨_, Selector.byAttribute_eq "title" value exact⟩
  | placeholder => exact ⟨_, Selector.byAttribute_eq "placeholder" value exact⟩
  | label => exact ⟨Selector.textBody value exact, rfl⟩
  | text => exact ⟨Selector.textBody value exact, rfl⟩

theorem RoleQuery.exists_selector_eq (q : RoleQuery) : ∃ body, q.selector = "role=" ++ body := by
  unfold selector Role.render
  exact ⟨_, String.append_assoc⟩

theorem Query.selector_text (q : TextQuery) (idAttribute : String) :
    (Query.text q).selector idAttribute = q.kind.selector idAttribute q.value q.exact := by
  obtain ⟨kind, description, value, exact⟩ := q
  cases kind <;> rfl

@[simp] theorem Query.selector_role (q : RoleQuery) (idAttribute : String) :
    (Query.role q).selector idAttribute = q.selector := rfl

/-- Selectors begin as their kinds demand. -/
theorem Query.exists_selector_eq (q : Query) (idAttribute : String) :
    ∃ body, q.selector idAttribute = q.kind.start idAttribute ++ body := by
  cases q with
  | text q =>
    rw [Query.selector_text]
    exact q.kind.exists_selector_eq idAttribute q.value q.exact
  | role q => exact q.exists_selector_eq

namespace Session

/-! ### Documents -/

/-- A query by itself has a selector under an attribute for test ids, and the selector begins as its
kind demands. -/
structure ComesTo (q : Query) (idAttribute sel : String) : Prop where
  /-- Compiled alone, the query has this selector. -/
  alone : ∀ (t : Session) (e : ContextId), t.attributeIn e = idAttribute →
    outcome (compileQuery (some e) q) t = (.ok sel, t)
  /-- The selector begins as its kind demands. -/
  start : ∃ body, sel = q.kind.start idAttribute ++ body

theorem comesTo_of_short {q : Query} (h : q.isOverlong = false) (idAttribute : String) :
    ComesTo q idAttribute (q.selector idAttribute) where
  alone t e he := by
    have hyields := (yields_builderAttribute t e).compileUnder q
    rw [he, Query.compiled_of_short h] at hyields
    exact hyields.outcome_eq
  start := q.exists_selector_eq idAttribute

/-- Accepted documents are well formed and have selectors, one for each query and in their order;
each is the selector of the query by itself, under the attribute of the document or else of the
context.  Only a level that cannot be written is a fault. -/
theorem compileDocument_of_accepted {env : Environment} {data : Value} {d : QueryDocument}
    (hd : Check.document (env.substitute data) = .good d) :
    d.WellFormed ∧ ∀ (s : Session) (c : ContextId),
      ((∀ q ∈ d.queries, q.isOverlong = false) →
        ∃ sels, outcome (compileDocument (some c) d) s = (.ok sels, s) ∧
          sels.length = d.queries.length ∧
          ∀ (i : Nat) (q : Query), d.queries[i]? = some q → ∃ sel, sels[i]? = some sel ∧
            ComesTo q (d.testIdAttribute.getD (s.attributeIn c)) sel) ∧
      ((∃ q ∈ d.queries, q.isOverlong = true) →
        outcome (compileDocument (some c) d) s = (.error .overlongLevel, s)) := by
  refine ⟨Check.wellFormed_of_document hd, fun s c => ?_⟩
  have houtcome := ((yields_builderAttribute s c).compileDocument d).outcome_eq
  constructor
  · intro hshort
    rw [Query.mapM_compiled_of_short hshort] at houtcome
    refine ⟨_, houtcome, List.length_map _, fun i q hq => ?_⟩
    refine ⟨q.selector (d.testIdAttribute.getD (s.attributeIn c)), ?_, ?_⟩
    · rw [List.getElem?_map, hq]
      rfl
    · exact comesTo_of_short (hshort q (List.mem_of_getElem? hq)) _
  · intro hlong
    rw [Query.mapM_compiled_of_overlong hlong] at houtcome
    exact houtcome

/-- Data with blanks around its attribute and a role, a reference to a variable, and a pattern. -/
def paddedData : Value :=
  .map [(.text "test_id_attribute", .text " data-qa\t"),
    (.text "queries", .list [
      .map [(.text "kind", .text "role"), (.text "role", .text " heading "),
        (.text "level", .text " 2 "), (.text "name", .text "Say \"${WORD}\"")],
      .map [(.text "kind", .text "test_id"),
        (.text "value", .map [(.text "pattern", .text "sa.e"), (.text "flags", .text "im")])]])]

/-- The document that these data are accepted as. -/
def paddedDocument : QueryDocument :=
  ⟨"1", none, some "data-qa",
    [.role ⟨none, "heading", none, none, none, none, none, some 2, some (.literal "Say \"hi\""),
      none⟩,
    .text ⟨.testId, none, .pattern ⟨"sa.e", "im", by decide⟩, false⟩]⟩

/-- The statement for these data. -/
theorem compileDocument_of_accepted_padded :
    Check.document (Environment.substitute ⟨[("WORD", "hi")]⟩ paddedData) = .good paddedDocument ∧
    paddedDocument.WellFormed ∧
    ∀ (s : Session) (c : ContextId), ∃ sels,
      outcome (compileDocument (some c) paddedDocument) s = (.ok sels, s) ∧ sels.length = 2 := by
  have hd : Check.document (Environment.substitute ⟨[("WORD", "hi")]⟩ paddedData) =
      .good paddedDocument := by decide +kernel
  have hshort : ∀ q ∈ paddedDocument.queries, q.isOverlong = false := by decide +kernel
  obtain ⟨hwell, hcompile⟩ := compileDocument_of_accepted hd
  refine ⟨hd, hwell, fun s c => ?_⟩
  obtain ⟨sels, houtcome, hlength, -⟩ := (hcompile s c).1 hshort
  exact ⟨sels, houtcome, hlength⟩

end Session

end ElementLookup
