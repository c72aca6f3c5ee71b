/-
**A document is accepted as its own data.**

Checking forgives a good deal: it takes words for truth values and octets for texts, drops blanks,
looks for hidden elements under two spellings, and reads a pattern where no text is found.  What it
comes to needs no forgiveness any more.  The data of an accepted document, with every field under
its own name, are accepted in their turn, and as the same document; and a document that is accepted
as its own data is one that is accepted at all.

Main definitions:

* `Query.Settled`, `QueryDocument.Settled` — nothing is left to forgive.

Main results:

* `Check.textOrPattern_toValue`, `Check.roleQuery_toValue`, `Check.query_toValue` — text values and
  queries are accepted as their own data;
* `Check.query_toValue_iff`, `Check.document_toValue_iff` — **what is accepted as its own data** is
  what is settled;
* `Check.document_again` — an accepted document is accepted again, with the same selectors.
-/

import ElementLookup.Proofs.Query.Accepted
import ElementLookup.Session

set_option autoImplicit false

namespace ElementLookup

/-! ### Settled documents -/

/-- A query by test id is not marked exact, and a role query is well formed. -/
def Query.Settled : Query → Prop
  | .text q => q.kind = .testId → q.exact = false
  | .role q => q.WellFormed

/-- A document in which nothing is left to forgive. -/
structure QueryDocument.Settled (d : QueryDocument) : Prop where
  /-- The attribute for test ids is not blank and has no blanks around it. -/
  idAttribute : ∀ name, d.testIdAttribute = some name →
    name ≠ "" ∧ Text.Unpadded Text.isBlank name.toList
  /-- Every query is settled. -/
  queries : ∀ q ∈ d.queries, q.Settled

namespace Text

/-- A text without blanks around it stays as it is when it is stripped. -/
theorem strip_of_unpadded {s : String} (h : Unpadded isBlank s.toList) : strip s = s := by
  have hend : trimEnd isBlank s.toList = s.toList := by
    rw [trimEnd, dropWhile_eq_self isBlank _ fun c hc => h.2 c (by rwa [List.head?_reverse] at hc),
      List.reverse_reverse]
  rw [strip, trim, dropWhile_eq_self isBlank _ h.1, hend, String.ofList_toList]

end Text

namespace Check

variable {α : Type} {entries : List (Value × Value)} {key : String} {check : Value → Checked α}

/-! ### Fields -/

theorem required_of_entry {v : Value} {a : α} (hv : Value.entry? entries key = some v)
    (h : check v = .good a) : required entries key check = .good a :=
  required_eq_good.2 ⟨v, hv, h⟩

theorem withDefault_of_entry {v : Value} {default a : α}
    (hv : Value.entry? entries key = some v) (h : check v = .good a) :
    withDefault entries key default check = .good a :=
  withDefault_eq_good.2 (.inr ⟨v, hv, h⟩)

/-- What may be absent is accepted as null or as what it is. -/
theorem optional_getD {f : α → Value} {o : Option α}
    (h : ∀ a, o = some a → f a ≠ .null ∧ check (f a) = .good a) :
    optional check ((o.map f).getD .null) = .good o := by
  cases o with
  | none => rfl
  | some a =>
    obtain ⟨hne, ha⟩ := h a rfl
    exact optional_eq_good.2 (.inr ⟨hne, a, ha, rfl⟩)

theorem optional_ofText? (o : Option String) : optional text (Value.ofText? o) = .good o :=
  optional_getD fun _ _ => ⟨nofun, rfl⟩

theorem optional_bool (o : Option Bool) :
    optional bool ((o.map .bool).getD .null) = .good o :=
  optional_getD fun _ _ => ⟨nofun, rfl⟩

theorem nonBlank_text {problem s : String} (hne : s ≠ "")
    (h : Text.Unpadded Text.isBlank s.toList) :
    (text (.text s)).andThen (nonBlank problem) = .good s :=
  Checked.andThen_eq_good.2 ⟨s, rfl, nonBlank_eq_good.2 ⟨(Text.strip_of_unpadded h).symm, hne⟩⟩

theorem pattern_toValue (p : TextPattern) : pattern (TextValue.pattern p).toValue = .good p := by
  have hflags : flagsValue (.text p.flags) = .good p.flags :=
    Checked.andThen_eq_good.2 ⟨p.flags, rfl, flags_eq_good.2 ⟨rfl, p.accepted⟩⟩
  exact pattern_eq_good.2 ⟨_, rfl, required_of_entry rfl rfl, withDefault_of_entry rfl hflags⟩

/-- A text value is accepted as its own data: a mapping is no text, so a pattern is found. -/
theorem textOrPattern_toValue (t : TextValue) : textOrPattern t.toValue = .good t := by
  cases t with
  | literal s => rfl
  | pattern p => exact textOrPattern_eq_good.2 (.inr ⟨⟨_, rfl⟩, p, pattern_toValue p, rfl⟩)

theorem toValue_ne_null (t : TextValue) : t.toValue ≠ .null := by
  cases t <;> exact nofun

/-! ### Queries -/

/-- The fields of a text query, under their names. -/
theorem textQuery_toValue {q : TextQuery} (h : q.kind = .testId → q.exact = false)
    (hentries : q.toValue = .map entries) : textQuery q.kind entries = .good q := by
  rw [TextQuery.toValue, Value.map.injEq] at hentries
  subst hentries
  refine textQuery_eq_good.2 ⟨rfl, ?_, ?_, ?_⟩
  · exact withDefault_of_entry rfl (optional_ofText? q.description)
  · exact required_of_entry rfl (textOrPattern_toValue q.value)
  · by_cases hkind : q.kind = .testId
    · rw [if_pos hkind, h hkind]
    · rw [if_neg hkind, if_neg hkind]
      exact withDefault_of_entry rfl rfl

/-- A role query is accepted if all its values are found: a text value as its own data, and what is
said of hidden elements under either spelling. -/
theorem roleQuery_of_entries {q : RoleQuery} (h : q.WellFormed)
    (hdescription : withDefault entries "description" none (optional text) = .good q.description)
    (hrole : Value.entry? entries "role" = some (.text q.role))
    (hname : Value.entry? entries "name" = some ((q.name.map TextValue.toValue).getD .null))
    (hother : ∀ p, p ≠ .name →
      Value.entry? entries (if p = .includeHidden then hiddenKey entries else p.key) =
        some (q.value p)) :
    roleQuery entries = .good q := by
  refine roleQuery_eq_good.2 ⟨hdescription, ?_, ?_, ?_, ?_, ?_, ?_, ?_, ?_, ?_⟩
  · exact required_of_entry hrole (nonBlank_text h.role_ne h.role_unpadded)
  · exact withDefault_of_entry (hother .checked nofun) (optional_bool q.checked)
  · exact withDefault_of_entry (hother .disabled nofun) (optional_bool q.disabled)
  · exact withDefault_of_entry (hother .selected nofun) (optional_bool q.selected)
  · exact withDefault_of_entry (hother .expanded nofun) (optional_bool q.expanded)
  · exact withDefault_of_entry (hother .includeHidden nofun) (optional_bool q.includeHidden)
  · refine withDefault_of_entry (hother .level nofun) (optional_getD fun n hn => ⟨nofun, ?_⟩)
    exact level_eq_good.2 ⟨rfl, h.level n hn⟩
  · refine withDefault_of_entry hname (optional_getD fun t _ => ?_)
    exact ⟨toValue_ne_null t, textOrPattern_toValue t⟩
  · exact withDefault_of_entry (hother .pressed nofun) (optional_bool q.pressed)

/-- The fields of a role query, under their names: what is said of hidden elements is found under
the second spelling, because the first is absent. -/
theorem roleQuery_toValue {q : RoleQuery} (h : q.WellFormed)
    (hentries : q.toValue = .map entries) : roleQuery entries = .good q := by
  rw [RoleQuery.toValue, Value.map.injEq] at hentries
  subst hentries
  refine roleQuery_of_entries h ?_ rfl rfl fun p hp => ?_
  · exact withDefault_of_entry rfl (optional_ofText? q.description)
  · cases p with
    | name => exact absurd rfl hp
    | checked | disabled | selected | expanded | includeHidden | level | pressed => rfl

/-- A settled query is accepted as its own data. -/
theorem query_toValue {q : Query} (h : q.Settled) : query q.toValue = .good q := by
  cases q with
  | text t =>
    refine query_eq_good.2 ⟨_, .text t.kind.name, rfl, rfl, Kind.ofName?_name (.text t.kind), ?_⟩
    exact queryOfKind_eq_good.2 (.inl ⟨t.kind, t, rfl, rfl, textQuery_toValue h rfl⟩)
  | role r =>
    refine query_eq_good.2 ⟨_, .text Kind.role.name, rfl, rfl, Kind.ofName?_name .role, ?_⟩
    exact queryOfKind_eq_good.2 (.inr ⟨r, rfl, rfl, roleQuery_toValue h rfl⟩)

/-- Whatever is accepted as a query is settled. -/
theorem settled_of_query {v : Value} {q : Query} (h : query v = .good q) : q.Settled := by
  obtain ⟨entries, -, -, -, -, hfields⟩ := query_eq_good.1 h
  rcases queryOfKind_eq_good.1 hfields with ⟨k, t, -, rfl, ht⟩ | ⟨r, -, rfl, hr⟩
  · intro hkind
    obtain ⟨rfl, -, -, hexact⟩ := textQuery_eq_good.1 ht
    rw [if_pos hkind] at hexact
    exact (Checked.good.inj hexact).symm
  · exact wellFormed_of_roleQuery hr

/-- A query is accepted as its own data exactly if it is settled. -/
theorem query_toValue_iff {q : Query} : query q.toValue = .good q ↔ q.Settled :=
  ⟨settled_of_query, query_toValue⟩

/-! ### Documents -/

/-- A settled document is accepted as its own data. -/
theorem document_toValue {d : QueryDocument} (h : d.Settled) : document d.toValue = .good d := by
  refine document_eq_good.2 ⟨_, rfl, ?_, ?_, ?_, ?_⟩
  · exact withDefault_of_entry rfl rfl
  · exact withDefault_of_entry rfl (optional_ofText? d.name)
  · refine withDefault_of_entry rfl (optional_getD fun name hname => ⟨nofun, ?_⟩)
    obtain ⟨hne, hunpadded⟩ := h.idAttribute name hname
    exact nonBlank_text hne hunpadded
  · refine withDefault_of_entry rfl (queries_eq_good.2 ⟨_, .inl rfl, ?_⟩)
    rw [List.map_map]
    exact List.map_congr_left fun q hq => query_toValue (h.queries q hq)

/-- Whatever is accepted as a document is settled. -/
theorem settled_of_document {v : Value} {d : QueryDocument} (h : document v = .good d) :
    d.Settled where
  idAttribute := (wellFormed_of_document h).idAttribute
  queries q hq := by
    obtain ⟨entries, -, -, -, -, hqueries⟩ := document_eq_good.1 h
    obtain ⟨w, hw⟩ := query_of_mem hqueries hq
    exact settled_of_query hw

/-- A document is accepted as its own data exactly if it is accepted as any data at all. -/
theorem document_toValue_iff {d : QueryDocument} :
    document d.toValue = .good d ↔ ∃ v, document v = .good d :=
  ⟨fun h => ⟨d.toValue, h⟩, fun ⟨_, h⟩ => document_toValue (settled_of_document h)⟩

/-- The data of an accepted document are accepted, as the same document; so it has the same
selectors under every context. -/
theorem document_again {v : Value} {d : QueryDocument} (h : document v = .good d) :
    ∃ e, document d.toValue = .good e ∧ e = d ∧
      ∀ c, Session.compileDocument c e = Session.compileDocument c d :=
  ⟨d, document_toValue_iff.2 ⟨v, h⟩, rfl, fun _ => rfl⟩

/-- Data in which nearly everything has to be forgiven. -/
def forgivenData : Value :=
  .map [(.text "version", .octets (Text.encode "2")),
    (.text "test_id_attribute", .text " data-qa\t"),
    (.text "queries", .tuple [
      .map [(.text "kind", .text "role"), (.text "role", .text "\u00a0heading "),
        (.text "include_hidden", .bool false), (.text "includeHidden", .text "Yes"),
        (.text "level", .text " +0_2.0 "), (.text "checked", .int 0),
        (.text "name", .map [(.text "flags", .octets (Text.encode "is")),
          (.text "pattern", .text "sa.e")])],
      .map [(.text "kind", .text "test_id"), (.text "value", .octets (Text.encode "a")),
        (.text "exact", .bool true)],
      .map [(.text "kind", .text "label"), (.text "value", .text "b"),
        (.text "exact", .text "ON"), (.text "level", .int 1)]])]

/-- The document that these data are accepted as. -/
def forgivenDocument : QueryDocument :=
  ⟨"2", none, some "data-qa",
    [.role ⟨none, "heading", some false, none, none, none, some true, some 2,
      some (.pattern ⟨"sa.e", "is", by decide⟩), none⟩,
    .text ⟨.testId, none, .literal "a", false⟩, .text ⟨.label, none, .literal "b", true⟩]⟩

/-- The statement for these data. -/
theorem document_again_forgiven :
    document forgivenData = .good forgivenDocument ∧
    document forgivenDocument.toValue = .good forgivenDocument := by
  have h : document forgivenData = .good forgivenDocument := by decide +kernel
  obtain ⟨e, he, rfl, -⟩ := document_again h
  exact ⟨h, he⟩

end Check

end ElementLookup
