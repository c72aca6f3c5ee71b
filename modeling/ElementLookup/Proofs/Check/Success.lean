/-
**When a check succeeds.**

A check that is put together from others finds a good value exactly if its parts do.  Here this is
said once for each way of putting checks together, for the fields of a mapping, and for what a field
may hold; what is known of an accepted document follows from these and from nothing else.

Main results:

* `Checked.map_eq_good`, `Checked.seq_eq_good`, `Checked.andThen_eq_good`, `Checked.all_eq_good` —
  checks side by side, one after the other, and in a list;
* `Check.required_eq_good`, `Check.withDefault_eq_good`, `Check.optional_eq_good` — fields;
* `Check.nonBlank_eq_good`, `Check.level_eq_good` — texts that are not blank, and levels;
* `Check.pattern_eq_good`, `Check.exists_pattern_eq_good` — **a pattern is accepted exactly if its
  fields are**: what passes their checks is not refused when the pattern is made;
* `Check.query_eq_good`, `Check.queries_eq_good`, `Check.document_eq_good` — queries and documents.
-/

import ElementLookup.Query.Check

set_option autoImplicit false

namespace ElementLookup

/-! ### Parts -/

namespace Checked

variable {α β : Type}

@[simp] theorem fail_ne_good {cause : Problem.Cause} {a : α} : (fail cause : Checked α) ≠ .good a :=
  nofun

@[simp] theorem map_eq_good {f : α → β} {c : Checked α} {b : β} :
    f <$> c = .good b ↔ ∃ a, c = .good a ∧ f a = b := by
  change map f c = .good b ↔ _
  cases c <;> simp [map]

@[simp] theorem seq_eq_good {f : Checked (α → β)} {c : Checked α} {b : β} :
    f <*> c = .good b ↔ ∃ g, f = .good g ∧ ∃ a, c = .good a ∧ g a = b := by
  change seq f (fun _ => c) = .good b ↔ _
  cases f <;> cases c <;> simp [seq]

@[simp] theorem within_eq_good {step : String} {c : Checked α} {a : α} :
    within step c = .good a ↔ c = .good a := by
  cases c <;> simp [within]

@[simp] theorem andThen_eq_good {c : Checked α} {f : α → Checked β} {b : β} :
    c.andThen f = .good b ↔ ∃ a, c = .good a ∧ f a = .good b := by
  cases c <;> simp [andThen]

/-- A list of results is good exactly if its members are, which then make up the list. -/
theorem all_eq_good {cs : List (Checked α)} {as : List α} :
    all cs = .good as ↔ cs = as.map .good := by
  induction cs generalizing as with
  | nil => cases as <;> simp [all]
  | cons c r ih =>
    simp only [all, seq_eq_good, map_eq_good, ih]
    cases as with
    | nil => simp
    | cons a as =>
      constructor
      · rintro ⟨g, ⟨x, hx, rfl⟩, y, rfl, h⟩
        cases h
        rw [hx, List.map_cons]
      · intro h
        rw [List.map_cons, List.cons.injEq] at h
        exact ⟨_, ⟨a, h.1, rfl⟩, as, h.2, rfl⟩

end Checked

namespace Check

variable {α : Type} {entries : List (Value × Value)} {key : String} {check : Value → Checked α}

/-! ### Fields -/

theorem required_eq_good {a : α} :
    required entries key check = .good a ↔
      ∃ v, Value.entry? entries key = some v ∧ check v = .good a := by
  rw [required, Checked.within_eq_good]
  cases Value.entry? entries key <;> simp

theorem withDefault_eq_good {default a : α} :
    withDefault entries key default check = .good a ↔
      Value.entry? entries key = none ∧ default = a ∨
      ∃ v, Value.entry? entries key = some v ∧ check v = .good a := by
  rw [withDefault]
  cases Value.entry? entries key <;> simp

theorem optional_of_ne {v : Value} (h : v ≠ .null) : optional check v = some <$> check v := by
  cases v with
  | null => exact absurd rfl h
  | _ => rfl

theorem optional_eq_good {v : Value} {o : Option α} :
    optional check v = .good o ↔
      v = .null ∧ o = none ∨ v ≠ .null ∧ ∃ a, check v = .good a ∧ some a = o := by
  by_cases hnull : v = .null
  · subst hnull
    simp [optional, eq_comm]
  · rw [optional_of_ne hnull, Checked.map_eq_good]
    simp [hnull]

/-- What a field that may be absent or null holds was checked. -/
theorem check_of_withDefault_optional {a : α}
    (h : withDefault entries key none (optional check) = .good (some a)) :
    ∃ v, check v = .good a := by
  rcases withDefault_eq_good.1 h with ⟨-, hnone⟩ | ⟨v, -, hv⟩
  · exact nomatch hnone
  · rcases optional_eq_good.1 hv with ⟨-, hnone⟩ | ⟨-, b, hb, hsome⟩
    · exact nomatch hnone
    · cases hsome
      exact ⟨v, hb⟩

/-! ### What a field may hold -/

theorem nonBlank_eq_good {problem s t : String} :
    nonBlank problem s = .good t ↔ t = Text.strip s ∧ t ≠ "" := by
  simp only [nonBlank]
  split
  · rename_i hblank
    constructor
    · exact fun h => nomatch h
    · rintro ⟨rfl, hne⟩
      exact absurd hblank hne
  · rename_i hne
    constructor
    · intro h
      cases h
      exact ⟨rfl, hne⟩
    · rintro ⟨rfl, -⟩
      rfl

theorem level_eq_good {v : Value} {n : Int} : level v = .good n ↔ whole v = .good n ∧ 1 ≤ n := by
  rw [level, Checked.andThen_eq_good]
  constructor
  · rintro ⟨m, hm, h⟩
    split at h
    · rename_i hle
      cases h
      exact ⟨hm, hle⟩
    · exact nomatch h
  · rintro ⟨hn, hle⟩
    exact ⟨n, hn, if_pos hle⟩

/-! ### Patterns -/

theorem flags_eq_good {s t : String} :
    flags s = .good t ↔ s = t ∧ TextPattern.AcceptedFlags s := by
  rw [flags]
  split
  · rename_i haccepted
    simp [haccepted]
  · rename_i hrefused
    simp [hrefused]

/-- Flags that pass their check are accepted by every pattern. -/
theorem accepted_of_flagsValue {v : Value} {s : String} (h : flagsValue v = .good s) :
    TextPattern.AcceptedFlags s := by
  have of_text : (text v).andThen flags = .good s → TextPattern.AcceptedFlags s := by
    intro h
    obtain ⟨t, -, hflags⟩ := Checked.andThen_eq_good.1 h
    obtain ⟨rfl, haccepted⟩ := flags_eq_good.1 hflags
    exact haccepted
  cases v with
  | halved signs => exact nomatch h
  | _ => exact of_text h

theorem patternOf_eq_good {source flags : String} {p : TextPattern} :
    patternOf source flags = .good p ↔ TextPattern.make source flags = .ok p := by
  rw [patternOf]
  cases TextPattern.make source flags <;> simp

/-- A pattern accepts its own source and flags. -/
theorem make_self (p : TextPattern) : TextPattern.make p.source p.flags = .ok p :=
  dif_pos p.accepted

/-- A pattern is accepted exactly if its fields are. -/
theorem pattern_eq_good {v : Value} {p : TextPattern} :
    pattern v = .good p ↔ ∃ entries, v = .map entries ∧
      required entries "pattern" text = .good p.source ∧
      withDefault entries "flags" "" flagsValue = .good p.flags := by
  cases v with
  | map entries =>
    simp only [pattern, Checked.andThen_eq_good, Checked.seq_eq_good, Checked.map_eq_good,
      patternOf_eq_good, Value.map.injEq, exists_eq_left']
    constructor
    · rintro ⟨f, ⟨g, ⟨source, hsource, rfl⟩, flags, hflags, rfl⟩, hmake⟩
      obtain ⟨rfl, rfl⟩ := TextPattern.eq_of_make hmake
      exact ⟨hsource, hflags⟩
    · rintro ⟨hsource, hflags⟩
      exact ⟨_, ⟨_, ⟨_, hsource, rfl⟩, _, hflags, rfl⟩, make_self p⟩
  | _ => simp [pattern]

/-- Where the fields of a pattern are accepted, there is a pattern that has them. -/
theorem exists_pattern_eq_good {source flags : String}
    (hsource : required entries "pattern" text = .good source)
    (hflags : withDefault entries "flags" "" flagsValue = .good flags) :
    ∃ p, pattern (.map entries) = .good p ∧ p.source = source ∧ p.flags = flags := by
  have haccepted : TextPattern.AcceptedFlags flags := by
    rcases withDefault_eq_good.1 hflags with ⟨-, rfl⟩ | ⟨v, -, hv⟩
    · decide
    · exact accepted_of_flagsValue hv
  exact ⟨⟨source, flags, haccepted⟩, pattern_eq_good.2 ⟨entries, rfl, hsource, hflags⟩, rfl, rfl⟩

/-- A value is accepted as a text, or else as a pattern. -/
theorem textOrPattern_eq_good {v : Value} {t : TextValue} :
    textOrPattern v = .good t ↔
      (∃ s, text v = .good s ∧ t = .literal s) ∨
      (∃ ps, text v = .bad ps) ∧ ∃ p, pattern v = .good p ∧ t = .pattern p := by
  rw [textOrPattern]
  cases text v with
  | good s => simp [eq_comm]
  | bad ps => cases pattern v <;> simp [eq_comm]

/-! ### Queries -/

theorem textQuery_eq_good {kind : TextKind} {q : TextQuery} :
    textQuery kind entries = .good q ↔ q.kind = kind ∧
      withDefault entries "description" none (optional text) = .good q.description ∧
      required entries "value" textOrPattern = .good q.value ∧
      (if kind = .testId then .good false else withDefault entries "exact" false bool) =
        .good q.exact := by
  simp only [textQuery, Checked.seq_eq_good, Checked.map_eq_good]
  constructor
  · rintro ⟨_, ⟨_, ⟨description, hdescription, rfl⟩, value, hvalue, rfl⟩, exact, hexact, rfl⟩
    exact ⟨rfl, hdescription, hvalue, hexact⟩
  · rintro ⟨rfl, hdescription, hvalue, hexact⟩
    exact ⟨_, ⟨_, ⟨_, hdescription, rfl⟩, _, hvalue, rfl⟩, _, hexact, rfl⟩

/-- A role query is accepted exactly if its fields are. -/
theorem roleQuery_eq_good {q : RoleQuery} :
    roleQuery entries = .good q ↔
      withDefault entries "description" none (optional text) = .good q.description ∧
      required entries "role" (fun v => (text v).andThen (nonBlank "role cannot be empty")) =
        .good q.role ∧
      state entries "checked" = .good q.checked ∧
      state entries "disabled" = .good q.disabled ∧
      state entries "selected" = .good q.selected ∧
      state entries "expanded" = .good q.expanded ∧
      state entries (hiddenKey entries) = .good q.includeHidden ∧
      withDefault entries "level" none (optional level) = .good q.level ∧
      withDefault entries "name" none (optional textOrPattern) = .good q.name ∧
      state entries "pressed" = .good q.pressed := by
  simp only [roleQuery, Checked.seq_eq_good, Checked.map_eq_good]
  constructor
  · rintro ⟨_, ⟨_, ⟨_, ⟨_, ⟨_, ⟨_, ⟨_, ⟨_, ⟨_, ⟨d, hd, rfl⟩, r, hr, rfl⟩, c, hc, rfl⟩, di, hdi,
      rfl⟩, se, hse, rfl⟩, ex, hex, rfl⟩, hi, hhi, rfl⟩, le, hle, rfl⟩, na, hna, rfl⟩, pr, hpr, rfl⟩
    exact ⟨hd, hr, hc, hdi, hse, hex, hhi, hle, hna, hpr⟩
  · rintro ⟨hd, hr, hc, hdi, hse, hex, hhi, hle, hna, hpr⟩
    exact ⟨_, ⟨_, ⟨_, ⟨_, ⟨_, ⟨_, ⟨_, ⟨_, ⟨_, ⟨_, hd, rfl⟩, _, hr, rfl⟩, _, hc, rfl⟩, _, hdi, rfl⟩,
      _, hse, rfl⟩, _, hex, rfl⟩, _, hhi, rfl⟩, _, hle, rfl⟩, _, hna, rfl⟩, _, hpr, rfl⟩

theorem queryOfKind_eq_good {kind : Kind} {q : Query} :
    queryOfKind kind entries = .good q ↔
      (∃ k t, kind = .text k ∧ q = .text t ∧ textQuery k entries = .good t) ∨
      ∃ r, kind = .role ∧ q = .role r ∧ roleQuery entries = .good r := by
  rw [queryOfKind.eq_def, Checked.within_eq_good]
  cases kind <;> simp [eq_comm, and_comm]

/-- The kind that was checked is the kind of the query. -/
theorem kind_of_queryOfKind {kind : Kind} {q : Query} (h : queryOfKind kind entries = .good q) :
    q.kind = kind := by
  rcases queryOfKind_eq_good.1 h with ⟨k, t, rfl, rfl, ht⟩ | ⟨r, rfl, rfl, -⟩
  · rw [Query.kind, (textQuery_eq_good.1 ht).1]
  · rfl

/-- A query is accepted exactly if it is a mapping that names its kind and whose fields are. -/
theorem query_eq_good {v : Value} {q : Query} :
    query v = .good q ↔ ∃ entries tag, v = .map entries ∧
      Value.entry? entries "kind" = some tag ∧ kindOf? tag = some q.kind ∧
      queryOfKind q.kind entries = .good q := by
  cases v with
  | map entries =>
    simp only [query, Value.map.injEq]
    cases htag : Value.entry? entries "kind" with
    | none => simp [htag]
    | some tag =>
      cases hkind : kindOf? tag with
      | none => simp [htag, hkind]
      | some kind =>
        simp only [exists_and_left, exists_eq_left', htag, Option.some.injEq, hkind]
        constructor
        · intro h
          have hk := kind_of_queryOfKind h
          rw [hk]
          exact ⟨rfl, h⟩
        · rintro ⟨rfl, h⟩
          exact h
  | _ => simp [query]

/-- The places of queries in a list make no difference to whether they are accepted. -/
theorem queriesFrom_eq_map_good {i : Nat} {vs : List Value} {qs : List Query} :
    queriesFrom i vs = qs.map .good ↔ vs.map query = qs.map .good := by
  induction vs generalizing i qs with
  | nil => rfl
  | cons v r ih =>
    cases qs with
    | nil => simp [queriesFrom]
    | cons q qs => simp [queriesFrom, ih]

/-- Queries are accepted exactly if they are listed and each of them is. -/
theorem queries_eq_good {v : Value} {qs : List Query} :
    queries v = .good qs ↔ ∃ vs, (v = .list vs ∨ v = .tuple vs ∨ v = .set vs) ∧
      vs.map query = qs.map .good := by
  have of_list (vs : List Value) : queryList vs = .good qs ↔ vs.map query = qs.map .good := by
    rw [queryList, Checked.all_eq_good, queriesFrom_eq_map_good]
  cases v <;> simp [queries, of_list]

/-- A document is accepted exactly if it is a mapping whose fields are. -/
theorem document_eq_good {v : Value} {d : QueryDocument} :
    document v = .good d ↔ ∃ entries, v = .map entries ∧
      withDefault entries "version" "1" text = .good d.version ∧
      withDefault entries "name" none (optional text) = .good d.name ∧
      withDefault entries "test_id_attribute" none (optional fun v =>
        (text v).andThen (nonBlank "test_id_attribute cannot be empty")) =
          .good d.testIdAttribute ∧
      withDefault entries "queries" [] queries = .good d.queries := by
  cases v with
  | map entries =>
    simp only [document, Checked.seq_eq_good, Checked.map_eq_good, Value.map.injEq,
      exists_eq_left']
    constructor
    · rintro ⟨_, ⟨_, ⟨_, ⟨version, hversion, rfl⟩, name, hname, rfl⟩, own, hown, rfl⟩, qs, hqs, rfl⟩
      exact ⟨hversion, hname, hown, hqs⟩
    · rintro ⟨hversion, hname, hown, hqs⟩
      exact ⟨_, ⟨_, ⟨_, ⟨_, hversion, rfl⟩, _, hname, rfl⟩, _, hown, rfl⟩, _, hqs, rfl⟩
  | _ => simp [document]

end Check

end ElementLookup
