/-
**What an accepted document is like.**

A document is checked once, and whoever holds an accepted one may rely on what was checked: roles
and the attribute for test ids are not blank and have no blanks around them, levels count from one,
and every pattern has flags that a pattern accepts.  What is noted beside a document about texts
that cannot be written covers each of its queries.

Main definitions:

* `Query.textValue?` — the text value that a query compares with;
* `RoleQuery.WellFormed`, `QueryDocument.WellFormed` — what may be relied on;
* `LoadedDocument.Complete` — every query has its note of texts that cannot be written.

Main results:

* `Check.wellFormed_of_document` — **what an accepted document is like**;
* `QueryFile.complete_of_load` — the documents of a file have a note for each query.
-/

import ElementLookup.Proofs.Check.Success
import ElementLookup.Proofs.Query.LoadOutcome

set_option autoImplicit false

namespace ElementLookup

/-! ### What may be relied on -/

/-- The text value that a query compares with, if there is one. -/
def Query.textValue? : Query → Option TextValue
  | .text q => some q.value
  | .role q => q.name

/-- What may be relied on in a role query. -/
structure RoleQuery.WellFormed (q : RoleQuery) : Prop where
  /-- The role is not blank. -/
  role_ne : q.role ≠ ""
  /-- The role has no blanks around it. -/
  role_unpadded : Text.Unpadded Text.isBlank q.role.toList
  /-- Levels count from one. -/
  level : ∀ n, q.level = some n → 1 ≤ n

/-- What may be relied on in a document. -/
structure QueryDocument.WellFormed (d : QueryDocument) : Prop where
  /-- The attribute for test ids is not blank and has no blanks around it. -/
  idAttribute : ∀ name, d.testIdAttribute = some name →
    name ≠ "" ∧ Text.Unpadded Text.isBlank name.toList
  /-- Role queries are well formed. -/
  role : ∀ q, .role q ∈ d.queries → q.WellFormed
  /-- Every pattern was checked, and can be made of its source and its flags. -/
  pattern : ∀ q ∈ d.queries, ∀ p, q.textValue? = some (.pattern p) →
    (∃ v, Check.pattern v = .good p) ∧ TextPattern.make p.source p.flags = .ok p

namespace Check

/-! ### Fields -/

/-- A text that is not blank is taken without the blanks around it. -/
theorem unpadded_of_nonBlank {v : Value} {problem s : String}
    (h : (text v).andThen (nonBlank problem) = .good s) :
    s ≠ "" ∧ Text.Unpadded Text.isBlank s.toList := by
  obtain ⟨t, -, ht⟩ := Checked.andThen_eq_good.1 h
  obtain ⟨rfl, hne⟩ := nonBlank_eq_good.1 ht
  exact ⟨hne, Text.unpadded_strip t⟩

/-- A pattern that is taken as a text value was checked. -/
theorem pattern_of_textOrPattern {v : Value} {p : TextPattern}
    (h : textOrPattern v = .good (.pattern p)) : pattern v = .good p := by
  rcases textOrPattern_eq_good.1 h with ⟨s, -, hs⟩ | ⟨-, q, hq, heq⟩
  · exact nomatch hs
  · cases heq
    exact hq

theorem wellFormed_of_roleQuery {entries : List (Value × Value)} {q : RoleQuery}
    (h : roleQuery entries = .good q) : q.WellFormed := by
  obtain ⟨-, hrole, -, -, -, -, -, hlevel, -, -⟩ := roleQuery_eq_good.1 h
  obtain ⟨v, -, hv⟩ := required_eq_good.1 hrole
  obtain ⟨hne, hunpadded⟩ := unpadded_of_nonBlank hv
  refine ⟨hne, hunpadded, fun n hn => ?_⟩
  rw [hn] at hlevel
  obtain ⟨w, hw⟩ := check_of_withDefault_optional hlevel
  exact (level_eq_good.1 hw).2

/-- A pattern in an accepted query was checked. -/
theorem pattern_of_queryOfKind {kind : Kind} {entries : List (Value × Value)} {q : Query}
    {p : TextPattern} (h : queryOfKind kind entries = .good q)
    (hp : q.textValue? = some (.pattern p)) : ∃ v, pattern v = .good p := by
  rcases queryOfKind_eq_good.1 h with ⟨k, t, -, rfl, ht⟩ | ⟨r, -, rfl, hr⟩
  · obtain ⟨-, -, hvalue, -⟩ := textQuery_eq_good.1 ht
    obtain ⟨v, -, hv⟩ := required_eq_good.1 hvalue
    rw [Option.some.inj hp] at hv
    exact ⟨v, pattern_of_textOrPattern hv⟩
  · obtain ⟨-, -, -, -, -, -, -, -, hname, -⟩ := roleQuery_eq_good.1 hr
    rw [show r.name = some (.pattern p) from hp] at hname
    obtain ⟨v, hv⟩ := check_of_withDefault_optional hname
    exact ⟨v, pattern_of_textOrPattern hv⟩

/-! ### Documents -/

/-- The queries of an accepted document were checked one by one. -/
theorem query_of_mem {entries : List (Value × Value)} {qs : List Query} {q : Query}
    (h : withDefault entries "queries" [] queries = .good qs) (hq : q ∈ qs) :
    ∃ v, query v = .good q := by
  rcases withDefault_eq_good.1 h with ⟨-, rfl⟩ | ⟨v, -, hv⟩
  · exact nomatch hq
  · obtain ⟨vs, -, hvs⟩ := queries_eq_good.1 hv
    have hmem : Checked.good q ∈ vs.map query := hvs ▸ List.mem_map_of_mem hq
    obtain ⟨w, -, hw⟩ := List.mem_map.1 hmem
    exact ⟨w, hw⟩

/-- What an accepted document is like. -/
theorem wellFormed_of_document {v : Value} {d : QueryDocument} (h : document v = .good d) :
    d.WellFormed := by
  obtain ⟨entries, -, -, -, hown, hqueries⟩ := document_eq_good.1 h
  -- every query was checked by its kind
  have hkind : ∀ q ∈ d.queries, ∃ entries, queryOfKind q.kind entries = .good q := by
    intro q hq
    obtain ⟨w, hw⟩ := query_of_mem hqueries hq
    obtain ⟨fields, -, -, -, -, hfields⟩ := query_eq_good.1 hw
    exact ⟨fields, hfields⟩
  refine ⟨fun name hname => ?_, fun q hq => ?_, fun q hq p hp => ?_⟩
  · rw [hname] at hown
    obtain ⟨w, hw⟩ := check_of_withDefault_optional hown
    exact unpadded_of_nonBlank hw
  · obtain ⟨fields, hfields⟩ := hkind _ hq
    rcases queryOfKind_eq_good.1 hfields with ⟨_, _, -, h, -⟩ | ⟨r, -, h, hr⟩
    · exact nomatch h
    · cases h
      exact wellFormed_of_roleQuery hr
  · obtain ⟨fields, hfields⟩ := hkind q hq
    exact ⟨pattern_of_queryOfKind hfields hp, make_self p⟩

end Check

/-! ### Texts that cannot be written -/

/-- Every query of a document has its note of texts that cannot be written. -/
def LoadedDocument.Complete (d : LoadedDocument) : Prop :=
  d.halves.queries.length = d.document.queries.length

theorem DocumentHalves.length_of_document {v : Value} {d : QueryDocument}
    (h : Check.document v = .good d) :
    (DocumentHalves.ofValue v).queries.length = d.queries.length := by
  obtain ⟨entries, rfl, -, -, -, hqueries⟩ := Check.document_eq_good.1 h
  rcases Check.withDefault_eq_good.1 hqueries with ⟨hnone, hempty⟩ | ⟨v, hv, hqs⟩
  · simp [DocumentHalves.ofValue, hnone, ← hempty]
  · obtain ⟨vs, hlist, hvs⟩ := Check.queries_eq_good.1 hqs
    have hitems : queryItems v = vs := by
      rcases hlist with rfl | rfl | rfl <;> rfl
    have hlength := congrArg List.length hvs
    rw [List.length_map, List.length_map] at hlength
    simp [DocumentHalves.ofValue, hv, hitems, hlength]

namespace QueryFile

variable {depths : Depths} {env : Environment} {files : Files} {path : Path}

theorem complete_of_checkOne {number : Nat} {v : Value} {d : LoadedDocument}
    (h : checkOne depths env path number v = .ok (some d)) : d.Complete := by
  cases v with
  | map entries =>
    cases hdeep : Environment.isTooDeep depths.containers (.map entries) with
    | true => rw [checkOne_of_tooDeep hdeep] at h; exact nomatch h
    | false =>
      rw [checkOne_of_not_tooDeep hdeep] at h
      cases hchecked : Check.document (env.substitute (.map entries)) with
      | good doc =>
        rw [hchecked] at h
        cases h
        exact DocumentHalves.length_of_document hchecked
      | bad problems => rw [hchecked] at h; exact nomatch h
  | _ => exact nomatch h

/-- Every document of a file has a note for each of its queries. -/
theorem complete_of_load {ds : List LoadedDocument} (h : load depths env files path = .ok ds)
    {d : LoadedDocument} (hd : d ∈ ds) : d.Complete := by
  obtain ⟨-, vs, hvs⟩ := checkFrom_of_load h
  obtain ⟨n, v, -, hv⟩ := exists_checkOne_of_mem hvs hd
  exact complete_of_checkOne hv

end QueryFile

end ElementLookup
