/-
**What is reported of a document.**

A document that is not accepted is reported with all of its problems, and no problem hides another
one.  The problems of the fields come first, in the order of the fields, and then those of the
queries, one query after the other.  Each query adds what it would add by itself in a document
without other fields, only its place is another.  So a document is accepted exactly if it would be
accepted without queries and with each of its queries alone.  And there is no refusal without a
problem to show for it.

Main definitions:

* `Checked.Explained` — a refusal names a problem;
* `Check.only`, `Check.withQueries` — a mapping with one of its entries, and with other queries;
* `Problem.atQuery` — a problem of the first query, seen at another one;
* `Check.Reported` — how the report of a document is made up.

Main results:

* `Check.explained_document` — no document is refused without a problem;
* `Check.problems_document` — the problems of a document, field by field;
* `Check.problems_queries` — the problems of its queries, one by one;
* `Check.reported_of_queries` — **every query is reported as if it were alone**.
-/

import ElementLookup.Proofs.Check.Success
import ElementLookup.Query.Load

set_option autoImplicit false

namespace ElementLookup

/-! ### Refusals -/

namespace Checked

variable {α β : Type}

/-- A refusal names a problem. -/
def Explained (c : Checked α) : Prop := c ≠ .bad []

@[simp] theorem explained_good (a : α) : (good a).Explained := nofun

@[simp] theorem explained_fail (cause : Problem.Cause) : (fail cause : Checked α).Explained := nofun

theorem Explained.map {c : Checked α} (h : c.Explained) (f : α → β) : (f <$> c).Explained := by
  change (Checked.map f c).Explained
  cases c with
  | good a => exact explained_good _
  | bad ps => exact fun hnil => h (by cases hnil; rfl)

theorem Explained.seq {f : Checked (α → β)} {c : Checked α} (hf : f.Explained)
    (hc : c.Explained) : (f <*> c).Explained := by
  change (Checked.seq f fun _ => c).Explained
  cases f with
  | good f =>
    cases c with
    | good a => exact explained_good _
    | bad ps => exact fun hnil => hc (by cases hnil; rfl)
  | bad ps =>
    cases c with
    | good a => exact fun hnil => hf (by cases hnil; rfl)
    | bad qs =>
      intro hnil
      obtain ⟨rfl, -⟩ := List.append_eq_nil_iff.1 (Checked.bad.inj hnil)
      exact hf rfl

theorem Explained.within {c : Checked α} (h : c.Explained) (step : String) :
    (c.within step).Explained := by
  cases c with
  | good a => exact explained_good _
  | bad ps =>
    intro hnil
    obtain rfl := List.map_eq_nil_iff.1 (Checked.bad.inj hnil)
    exact h rfl

theorem Explained.andThen {c : Checked α} {f : α → Checked β} (h : c.Explained)
    (hf : ∀ a, (f a).Explained) : (c.andThen f).Explained := by
  cases c with
  | good a => exact hf a
  | bad ps => exact fun hnil => h (by cases hnil; rfl)

theorem Explained.all {cs : List (Checked α)} (h : ∀ c ∈ cs, c.Explained) :
    (Checked.all cs).Explained := by
  induction cs with
  | nil => exact explained_good _
  | cons c r ih =>
    rw [List.forall_mem_cons] at h
    exact (h.1.map _).seq (ih h.2)

/-- What is explained is good exactly if it has no problems. -/
theorem Explained.exists_good_iff {c : Checked α} (h : c.Explained) :
    (∃ a, c = .good a) ↔ c.problems = [] := by
  cases c with
  | good a => simp [problems]
  | bad ps =>
    constructor
    · rintro ⟨_, hgood⟩
      cases hgood
    · intro hnil
      obtain rfl : ps = [] := hnil
      exact absurd rfl h

@[simp] theorem problems_good (a : α) : (good a).problems = [] := rfl

@[simp] theorem problems_within (step : String) (c : Checked α) :
    (c.within step).problems = c.problems.map (Problem.within step) := by
  cases c <;> rfl

end Checked

namespace Check

open Checked (Explained explained_good explained_fail)

/-! ### No refusal without a problem -/

section Fields

variable {α : Type} {check : Value → Checked α}

theorem explained_text (v : Value) : (text v).Explained := by
  unfold text
  split
  · simp
  · simp
  · split <;> simp
  · simp

theorem explained_boolOfText (s : String) : (boolOfText s).Explained := by
  unfold boolOfText
  split <;> simp

theorem explained_boolOfWhole (n : Int) : (boolOfWhole n).Explained := by
  unfold boolOfWhole
  split
  · simp
  · split <;> simp

theorem explained_bool (v : Value) : (bool v).Explained := by
  unfold bool
  split
  · exact explained_good _
  · exact explained_boolOfText _
  · exact explained_fail _
  · split
    · exact explained_boolOfText _
    · exact explained_fail _
  · split
    · exact explained_boolOfWhole _
    · exact explained_fail _
  · split
    · split
      · exact explained_boolOfWhole _
      · exact explained_fail _
    · exact explained_fail _
  · exact explained_fail _

theorem explained_wholeOfText (cs : List Char) : (wholeOfText cs).Explained := by
  unfold wholeOfText
  split <;> simp

theorem explained_whole (v : Value) : (whole v).Explained := by
  unfold whole
  split
  · exact explained_good _
  · exact explained_good _
  · split
    · split
      · split <;> simp
      · exact explained_fail _
    · exact explained_fail _
  · exact explained_wholeOfText _
  · exact explained_fail _
  · split
    · exact explained_wholeOfText _
    · exact explained_fail _
  · exact explained_fail _

theorem explained_level (v : Value) : (level v).Explained :=
  (explained_whole v).andThen fun n => by split <;> simp

theorem explained_nonBlank (problem s : String) : (nonBlank problem s).Explained := by
  unfold nonBlank
  dsimp only
  split <;> simp

theorem explained_optional (h : ∀ v, (check v).Explained) (v : Value) :
    (optional check v).Explained := by
  unfold optional
  split
  · exact explained_good _
  · exact (h _).map _

theorem explained_required (h : ∀ v, (check v).Explained) (entries : List (Value × Value))
    (key : String) : (required entries key check).Explained := by
  unfold required
  refine Explained.within ?_ key
  split
  · exact h _
  · exact explained_fail _

theorem explained_withDefault (h : ∀ v, (check v).Explained) (entries : List (Value × Value))
    (key : String) (default : α) : (withDefault entries key default check).Explained := by
  unfold withDefault
  split
  · exact (h _).within key
  · exact explained_good _

end Fields

theorem explained_textOrPattern (v : Value) : (textOrPattern v).Explained := by
  have htext := explained_text v
  unfold textOrPattern
  cases hv : text v with
  | good s => exact explained_good _
  | bad ps =>
    cases pattern v with
    | good p => exact explained_good _
    | bad qs =>
      intro hnil
      obtain ⟨hps, -⟩ := List.append_eq_nil_iff.1 (Checked.bad.inj hnil)
      rw [hv, List.map_eq_nil_iff.1 hps] at htext
      exact htext rfl

theorem explained_state (entries : List (Value × Value)) (key : String) :
    (state entries key).Explained :=
  explained_withDefault (explained_optional explained_bool) _ _ _

theorem explained_queryOfKind (kind : Kind) (entries : List (Value × Value)) :
    (queryOfKind kind entries).Explained := by
  have hdescription : (withDefault entries "description" none (optional text)).Explained :=
    explained_withDefault (explained_optional explained_text) _ _ _
  unfold queryOfKind
  refine Explained.within ?_ kind.name
  split
  · refine Explained.map (((hdescription.map _).seq ?_).seq ?_) _
    · exact explained_required explained_textOrPattern _ _
    · split
      · exact explained_good _
      · exact explained_withDefault explained_bool _ _ _
  · have hrole : (required entries "role" fun v =>
        (text v).andThen (nonBlank "role cannot be empty")).Explained :=
      explained_required (fun v => (explained_text v).andThen (explained_nonBlank _)) _ _
    have hstate := explained_state entries
    have hlevel : (withDefault entries "level" none (optional level)).Explained :=
      explained_withDefault (explained_optional explained_level) _ _ _
    have hname : (withDefault entries "name" none (optional textOrPattern)).Explained :=
      explained_withDefault (explained_optional explained_textOrPattern) _ _ _
    exact ((((((((((hdescription.map _).seq hrole).seq (hstate _)).seq (hstate _)).seq
      (hstate _)).seq (hstate _)).seq (hstate _)).seq hlevel).seq hname).seq (hstate _)).map _

theorem explained_query (v : Value) : (query v).Explained := by
  unfold query
  split
  · split
    · exact explained_fail _
    · split
      · exact explained_queryOfKind _ _
      · exact explained_fail _
  · exact explained_fail _
  · exact explained_fail _
  · exact explained_fail _

/-- The queries of a list, each at its place. -/
theorem queriesFrom_eq_map (i : Nat) (vs : List Value) :
    queriesFrom i vs = (vs.zipIdx i).map fun p => Checked.within (toString p.2) (query p.1) := by
  induction vs generalizing i with
  | nil => rfl
  | cons v r ih => rw [queriesFrom, ih, List.zipIdx_cons, List.map_cons]

theorem explained_queries (v : Value) : (queries v).Explained := by
  have hlist (vs : List Value) : (queryList vs).Explained := by
    rw [queryList, queriesFrom_eq_map]
    refine Explained.all fun c hc => ?_
    obtain ⟨p, -, rfl⟩ := List.mem_map.1 hc
    exact (explained_query p.1).within _
  unfold queries
  split
  · exact hlist _
  · exact hlist _
  · exact hlist _
  · exact explained_fail _

/-- No document is refused without a problem. -/
theorem explained_document (v : Value) : (document v).Explained := by
  unfold document
  split
  · refine (((Explained.map ?_ _).seq ?_).seq ?_).seq ?_
    · exact explained_withDefault explained_text _ _ _
    · exact explained_withDefault (explained_optional explained_text) _ _ _
    · exact explained_withDefault (explained_optional fun v =>
        (explained_text v).andThen (explained_nonBlank _)) _ _ _
    · exact explained_withDefault explained_queries _ _ _
  · exact explained_fail _

/-! ### Reports -/

/-- The entry of a mapping under a text key, and nothing else. -/
def only (entries : List (Value × Value)) (key : String) : List (Value × Value) :=
  (Value.entry? entries key).toList.map fun v => (.text key, v)

/-- A mapping with other queries. -/
def withQueries (entries : List (Value × Value)) (vs : List Value) : List (Value × Value) :=
  entries.map fun e =>
    match e.1 with
    | .text key => if key = "queries" then (e.1, .list vs) else e
    | _ => e

theorem entry?_only (entries : List (Value × Value)) (key other : String) :
    Value.entry? (only entries key) other =
      if other = key then Value.entry? entries key else none := by
  rw [only]
  cases Value.entry? entries key with
  | none => simp [Value.entry?]
  | some v => by_cases h : other = key <;> simp [Value.entry?, h, eq_comm]

theorem entry?_withQueries (entries : List (Value × Value)) (vs : List Value) (key : String) :
    Value.entry? (withQueries entries vs) key =
      if key = "queries" then (Value.entry? entries key).map fun _ => .list vs
      else Value.entry? entries key := by
  induction entries with
  | nil => simp [withQueries, Value.entry?]
  | cons e r ih =>
    obtain ⟨k, v⟩ := e
    cases k with
    | text s =>
      by_cases hs : s = "queries" <;> by_cases hk : s = key <;>
        simp_all [withQueries, Value.entry?]
    | _ => simp_all [withQueries, Value.entry?]

section Absent

variable {α : Type} {entries others : List (Value × Value)} {key : String} {default : α}
  {check : Value → Checked α}

theorem withDefault_congr (h : Value.entry? entries key = Value.entry? others key) :
    withDefault entries key default check = withDefault others key default check := by
  rw [withDefault, withDefault, h]

theorem withDefault_of_absent (h : Value.entry? entries key = none) :
    withDefault entries key default check = .good default := by
  rw [withDefault, h]

theorem withDefault_only (other : String) :
    withDefault (only entries key) other default check =
      if other = key then withDefault entries other default check else .good default := by
  split
  · rename_i h
    exact withDefault_congr (by rw [entry?_only, if_pos h, h])
  · rename_i h
    exact withDefault_of_absent (by rw [entry?_only, if_neg h])

end Absent

/-- The problems of a document are those of its fields, in their order. -/
theorem problems_document (entries : List (Value × Value)) :
    (document (.map entries)).problems =
      (withDefault entries "version" "1" text).problems ++
      (withDefault entries "name" none (optional text)).problems ++
      (withDefault entries "test_id_attribute" none (optional fun v =>
        (text v).andThen (nonBlank "test_id_attribute cannot be empty"))).problems ++
      (withDefault entries "queries" [] queries).problems := by
  simp only [document, Checked.problems_seq, Checked.problems_map]

/-- The problems of the fields before the queries, each as if it were the only one. -/
def fieldProblems (entries : List (Value × Value)) : List Problem :=
  (document (.map (only entries "version"))).problems ++
  (document (.map (only entries "name"))).problems ++
  (document (.map (only entries "test_id_attribute"))).problems

/-- The problems of a query, as if it were the only one and there were no other field. -/
def aloneProblems (v : Value) : List Problem :=
  (document (.map [(.text "queries", .list [v])])).problems

end Check

/-- A problem of the first query, seen at the query with number `i`. -/
def Problem.atQuery (i : Nat) (p : Problem) : Problem :=
  match p.place with
  | field :: _ :: inside => { p with place := field :: toString i :: inside }
  | _ => p

namespace Check

/-- The queries of a document have the problems of each, seen at its place. -/
theorem problems_queriesField {entries : List (Value × Value)} {vs : List Value}
    (h : Value.entry? entries "queries" = some (.list vs)) :
    (withDefault entries "queries" [] queries).problems = vs.zipIdx.flatMap fun p =>
      (query p.1).problems.map fun problem =>
        (problem.within (toString p.2)).within "queries" := by
  rw [withDefault, h]
  change (Checked.within "queries" (queryList vs)).problems = _
  rw [Checked.problems_within, problems_queryList, queriesFrom_eq_map, List.flatMap_map,
    List.map_flatMap]
  simp only [Checked.problems_within, List.map_map, Function.comp_def]

theorem aloneProblems_eq (v : Value) :
    aloneProblems v =
      (query v).problems.map fun problem => (problem.within "0").within "queries" := by
  have hentry : Value.entry? [(.text "queries", .list [v])] "queries" = some (.list [v]) := rfl
  have hqueries := problems_queriesField hentry
  rw [aloneProblems, problems_document, withDefault_of_absent rfl, withDefault_of_absent rfl,
    withDefault_of_absent rfl, hqueries]
  have hzero : toString 0 = "0" := rfl
  simp only [List.zipIdx_singleton, List.flatMap_singleton, hzero,
    Checked.problems_good, List.nil_append]

/-- A query adds what it would add alone, at its own place. -/
theorem map_atQuery_aloneProblems (v : Value) (i : Nat) :
    (aloneProblems v).map (Problem.atQuery i) =
      (query v).problems.map fun problem =>
        (problem.within (toString i)).within "queries" := by
  rw [aloneProblems_eq, List.map_map]
  rfl

theorem fieldProblems_eq (entries : List (Value × Value)) :
    fieldProblems entries =
      (withDefault entries "version" "1" text).problems ++
      (withDefault entries "name" none (optional text)).problems ++
      (withDefault entries "test_id_attribute" none (optional fun v =>
        (text v).andThen (nonBlank "test_id_attribute cannot be empty"))).problems := by
  simp [fieldProblems, problems_document, withDefault_only]

/-- The problems of a document with queries: those of the other fields, and those that each query
would have alone, at its own place. -/
theorem problems_queries {entries : List (Value × Value)} {vs : List Value}
    (h : Value.entry? entries "queries" = some (.list vs)) :
    (document (.map entries)).problems = fieldProblems entries ++
      vs.zipIdx.flatMap fun p => (aloneProblems p.1).map (Problem.atQuery p.2) := by
  rw [problems_document, problems_queriesField h, fieldProblems_eq]
  simp only [map_atQuery_aloneProblems]

theorem fieldProblems_withQueries (entries : List (Value × Value)) (vs : List Value) :
    fieldProblems (withQueries entries vs) = fieldProblems entries := by
  have hother {key : String} (h : key ≠ "queries") :
      Value.entry? (withQueries entries vs) key = Value.entry? entries key := by
    rw [entry?_withQueries, if_neg h]
  rw [fieldProblems_eq, fieldProblems_eq, withDefault_congr (hother (by decide)),
    withDefault_congr (hother (by decide)), withDefault_congr (hother (by decide))]

/-- A document with queries is accepted exactly if neither its other fields nor any of its queries
alone has a problem. -/
theorem exists_document_iff {entries : List (Value × Value)} {vs : List Value}
    (h : Value.entry? entries "queries" = some (.list vs)) :
    (∃ d, document (.map entries) = .good d) ↔
      fieldProblems entries = [] ∧ ∀ v ∈ vs, aloneProblems v = [] := by
  rw [(explained_document _).exists_good_iff, problems_queries h, List.append_eq_nil_iff,
    List.flatMap_eq_nil_iff]
  refine and_congr_right fun _ => ?_
  simp only [List.map_eq_nil_iff]
  constructor
  · intro hall v hv
    obtain ⟨i, hi⟩ := List.mem_iff_getElem?.1 hv
    exact hall (v, i) (List.mem_zipIdx_iff_getElem?.2 hi)
  · intro hall p hp
    exact hall p.1 (List.mem_of_getElem? (List.mem_zipIdx_iff_getElem?.1 hp))

/-- How the report of a document with queries is made up. -/
structure Reported (entries : List (Value × Value)) (vs : List Value) : Prop where
  /-- The document is accepted exactly if it is accepted without queries, and with each of them as
  the only one. -/
  accepted : (∃ d, document (.map entries) = .good d) ↔
    (∃ d, document (.map (withQueries entries [])) = .good d) ∧
      ∀ v ∈ vs, ∃ d, document (.map (withQueries entries [v])) = .good d
  /-- Its problems are those of the other fields and those that each query has alone, in the order
  of the queries and at their places. -/
  problems : (document (.map entries)).problems = fieldProblems entries ++
    vs.zipIdx.flatMap fun p => (aloneProblems p.1).map (Problem.atQuery p.2)
  /-- A query that is alone has its problems at the first place. -/
  places : ∀ v ∈ vs, ∀ problem ∈ aloneProblems v,
    ∃ inside, problem.place = "queries" :: "0" :: inside
  /-- The message has a header and one entry for each problem, of which there is at least one. -/
  message : ∀ problems, document (.map entries) = .bad problems → problems ≠ [] ∧
    ∀ (path : Path) (number : Nat), (LoadFault.invalid path number problems).message? =
      some ("\n".intercalate
        (("Invalid query file '" ++ path.text ++ "' (document " ++ toString number ++ "):") ::
          problems.map fun p => "  - " ++ ".".intercalate p.place ++ ": " ++ p.cause.text))

/-- Every query is reported as if it were alone, and none hides another one. -/
theorem reported_of_queries {entries : List (Value × Value)} {vs : List Value}
    (h : Value.entry? entries "queries" = some (.list vs)) : Reported entries vs where
  accepted := by
    have hentry (ws : List Value) :
        Value.entry? (withQueries entries ws) "queries" = some (.list ws) := by
      rw [entry?_withQueries, if_pos rfl, h]
      rfl
    rw [exists_document_iff h, exists_document_iff (hentry []), fieldProblems_withQueries]
    simp only [exists_document_iff (hentry [_]), fieldProblems_withQueries,
      List.forall_mem_singleton]
    constructor
    · rintro ⟨hfields, hall⟩
      exact ⟨⟨hfields, nofun⟩, fun v hv => ⟨hfields, hall v hv⟩⟩
    · rintro ⟨⟨hfields, -⟩, hall⟩
      exact ⟨hfields, fun v hv => (hall v hv).2⟩
  problems := problems_queries h
  places v _ problem hproblem := by
    rw [aloneProblems_eq] at hproblem
    obtain ⟨inside, -, rfl⟩ := List.mem_map.1 hproblem
    exact ⟨inside.place, rfl⟩
  message problems hbad := by
    have hne : problems ≠ [] := by
      rintro rfl
      exact explained_document _ hbad
    refine ⟨hne, fun path number => ?_⟩
    obtain ⟨p, r, rfl⟩ := List.exists_cons_of_ne_nil hne
    have hcolon : "):\n" = "):" ++ "\n" := by decide
    rw [List.map_cons, String.intercalate_cons_cons, LoadFault.message?, hcolon,
      ← String.append_assoc]
    rfl

/-- Fields of a document with a name that is no text and queries of which one is in order: the
others are no mapping, have no kind and an unknown one, and have two faults of their own. -/
def faultyFields : List (Value × Value) :=
  [(.text "name", .int 1),
    (.text "queries", .list [
      .int 7,
      .map [(.text "kind", .text "text"), (.text "value", .text "a")],
      .map [(.text "value", .text "a")],
      .map [(.text "kind", .text "xpath")],
      .map [(.text "kind", .text "role"), (.text "role", .text " "), (.text "level", .int 0)]])]

/-- The statement for these fields, and the report of their document. -/
theorem reported_of_queries_faulty :
    ∃ vs, Value.entry? faultyFields "queries" = some (.list vs) ∧ Reported faultyFields vs ∧
      (document (.map faultyFields)).problems.map Problem.line =
        ["  - name: Input should be a valid string",
          "  - queries.0: Input should be a valid dictionary or object to extract fields from",
          "  - queries.2: Unable to extract tag using discriminator 'kind'",
          "  - queries.3: Input tag 'xpath' found using 'kind' does not match any of the "
            ++ "expected tags: "
            ++ "'test_id', 'alt_text', 'label', 'placeholder', 'text', 'title', 'role'",
          "  - queries.4.role.role: Value error, role cannot be empty",
          "  - queries.4.role.level: Input should be greater than or equal to 1"] :=
  ⟨_, rfl, reported_of_queries rfl, by decide +kernel⟩

end Check

end ElementLookup
