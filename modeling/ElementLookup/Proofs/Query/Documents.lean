/-
**The documents of a query file.**

A query file may hold several documents, some of which are null.  Null documents are passed over,
but they are counted; the others must be accepted, one by one and in order.  The whole file is read
before any document is looked at, so what breaks the rules of documents, wherever it stands, comes
before all that is wrong with a document.  Only then does the first document decide that is not
accepted, whatever comes after it.

Main definitions:

* `QueryFile.Accepts` — a value is accepted as a document;
* `QueryFile.LoadsAs` — what a file comes to whose documents stand for some values.

Main results:

* `QueryFile.checkFrom_eq_ok_iff` — the documents are those of the values that are not null, in
  order;
* `QueryFile.stops_iff` — the fault is that of the first document that is not accepted, with its
  number among all;
* `QueryFile.load_of_stream` — **what a file comes to, given what its text delivers**;
* `QueryFile.knotted_not_reported` — a document may be neither accepted nor reported.
-/

import ElementLookup.Proofs.Query.LoadOutcome
import ElementLookup.Proofs.Yaml.Stream
import Mathlib.Data.List.Forall2
import Mathlib.Tactic.Push

set_option autoImplicit false

namespace ElementLookup.QueryFile

variable {depths : Depths} {env : Environment} {files : Files} {path : Path}

/-! ### Documents that are accepted -/

/-- A mapping is accepted as a document if its references can be replaced and it obeys the rules of
documents then. -/
def Accepts (depths : Depths) (env : Environment) (v : Value) (d : LoadedDocument) : Prop :=
  (∃ entries, v = .map entries) ∧ Environment.isTooDeep depths.containers v = false ∧
    Check.document (env.substitute v) = .good d.document ∧ d.halves = .ofValue (env.substitute v)

theorem checkOne_of_accepts {v : Value} {d : LoadedDocument} (h : Accepts depths env v d)
    (number : Nat) :
    checkOne depths env path number v = .ok (some d) := by
  obtain ⟨⟨entries, rfl⟩, hdeep, hchecked, hhalves⟩ := h
  rw [checkOne_of_not_tooDeep hdeep, hchecked, ← hhalves]

/-- A value is null, or accepted, or there is a fault. -/
theorem checkOne_cases (depths : Depths) (env : Environment) (path : Path) (number : Nat)
    (v : Value) : v = .null ∨ (∃ d, Accepts depths env v d) ∨
      ∃ fault, checkOne depths env path number v = .error fault := by
  by_cases hnull : v = .null
  · exact .inl hnull
  by_cases hmap : ∃ entries, v = .map entries
  · obtain ⟨entries, rfl⟩ := hmap
    cases hdeep : Environment.isTooDeep depths.containers (.map entries) with
    | true => exact .inr (.inr ⟨_, checkOne_of_tooDeep hdeep⟩)
    | false =>
      cases hchecked : Check.document (env.substitute (.map entries)) with
      | good doc => exact .inr (.inl ⟨⟨doc, _⟩, ⟨entries, rfl⟩, hdeep, hchecked, rfl⟩)
      | bad problems =>
        exact .inr (.inr ⟨_, checkOne_eq_error_iff.2 (.invalid hdeep hchecked)⟩)
  · exact .inr (.inr ⟨_, checkOne_of_not_map hnull fun entries he => hmap ⟨entries, he⟩⟩)

theorem checkOne_eq_some_iff {number : Nat} {v : Value} {d : LoadedDocument} :
    checkOne depths env path number v = .ok (some d) ↔ Accepts depths env v d := by
  refine ⟨fun h => ?_, fun h => checkOne_of_accepts h number⟩
  rcases checkOne_cases depths env path number v with rfl | ⟨e, he⟩ | ⟨fault, hfault⟩
  · cases h
  · rw [checkOne_of_accepts he] at h
    cases h
    exact he
  · rw [hfault] at h
    cases h

theorem checkOne_eq_none_iff {number : Nat} {v : Value} :
    checkOne depths env path number v = .ok none ↔ v = .null := by
  constructor
  · intro h
    rcases checkOne_cases depths env path number v with hnull | ⟨d, hd⟩ | ⟨fault, hfault⟩
    · exact hnull
    · rw [checkOne_of_accepts hd] at h
      cases h
    · rw [hfault] at h
      cases h
  · rintro rfl
    rfl

/-- A value is passed over or accepted, whatever its number, or there is a fault. -/
theorem exists_checkOne_iff {number : Nat} {v : Value} :
    (∃ d, checkOne depths env path number v = .ok d) ↔ v = .null ∨ ∃ d, Accepts depths env v d := by
  constructor
  · rintro ⟨d, h⟩
    cases d with
    | none => exact .inl (checkOne_eq_none_iff.1 h)
    | some d => exact .inr ⟨d, checkOne_eq_some_iff.1 h⟩
  · rintro (rfl | ⟨d, h⟩)
    · exact ⟨none, rfl⟩
    · exact ⟨some d, checkOne_of_accepts h number⟩

/-- The documents are those of the values that are not null, in order. -/
theorem checkFrom_eq_ok_iff {number : Nat} {vs : List Value} {ds : List LoadedDocument} :
    checkFrom depths env path number vs = .ok ds ↔
      List.Forall₂ (Accepts depths env) (vs.filterMap Value.present?) ds := by
  induction vs generalizing number ds with
  | nil =>
    rw [List.filterMap_nil, List.forall₂_nil_left_iff]
    exact ⟨fun h => (Except.ok.inj h).symm, fun h => h ▸ rfl⟩
  | cons v r ih =>
    by_cases hnull : v = .null
    · subst hnull
      rw [checkFrom_null]
      exact ih
    · rw [List.filterMap_cons_some (Value.present?_of_ne hnull), List.forall₂_cons_left_iff]
      constructor
      · intro h
        cases hv : checkOne depths env path number v with
        | error fault =>
          rw [checkFrom_cons_of_error hv] at h
          exact nomatch h
        | ok d? =>
          rw [checkFrom_cons_of_ok hv] at h
          obtain ⟨ds', hds', rfl⟩ : ∃ ds', checkFrom depths env path (number + 1) r = .ok ds' ∧
              d?.toList ++ ds' = ds := by
            cases hr : checkFrom depths env path (number + 1) r with
            | error fault => rw [hr] at h; exact nomatch h
            | ok ds' => rw [hr] at h; exact ⟨ds', rfl, Except.ok.inj h⟩
          cases d? with
          | none => exact absurd (checkOne_eq_none_iff.1 hv) hnull
          | some d => exact ⟨d, ds', checkOne_eq_some_iff.1 hv, ih.1 hds', rfl⟩
      · rintro ⟨d, ds', hd, hds', rfl⟩
        rw [checkFrom_cons_of_ok (checkOne_of_accepts hd number), ih.2 hds']
        rfl

/-- There are documents exactly if every value is passed over or accepted. -/
theorem exists_checkFrom_iff {number : Nat} {vs : List Value} :
    (∃ ds, checkFrom depths env path number vs = .ok ds) ↔
      ∀ v ∈ vs, v ≠ .null → ∃ d, Accepts depths env v d := by
  simp only [checkFrom_eq_ok_iff]
  induction vs with
  | nil => simp
  | cons v r ih =>
    rw [List.forall_mem_cons, ← ih]
    by_cases hnull : v = .null
    · subst hnull
      exact ⟨fun h => ⟨fun hne => absurd rfl hne, h⟩, fun h => h.2⟩
    · rw [List.filterMap_cons_some (Value.present?_of_ne hnull)]
      simp only [List.forall₂_cons_left_iff]
      constructor
      · rintro ⟨_, d, ds, hd, hds, rfl⟩
        exact ⟨fun _ => ⟨d, hd⟩, ds, hds⟩
      · rintro ⟨hv, ds, hds⟩
        obtain ⟨d, hd⟩ := hv hnull
        exact ⟨d :: ds, d, ds, hd, hds, rfl⟩

/-- There is no document exactly if all values are null. -/
theorem checkFrom_eq_nil_iff {number : Nat} {vs : List Value} :
    checkFrom depths env path number vs = .ok [] ↔ ∀ v ∈ vs, v = .null := by
  have hnull (v : Value) : v.present? = none ↔ v = .null := by
    cases v <;> simp [Value.present?]
  rw [checkFrom_eq_ok_iff, List.forall₂_nil_right_iff, List.filterMap_eq_nil_iff]
  simp only [hnull]

/-! ### The first document that is not accepted -/

/-- The fault is that of the first value that is neither passed over nor accepted, with its number
among all, whatever comes after it. -/
theorem stops_iff {number : Nat} {vs : List Value} {fault : LoadFault} :
    Stops depths env path number vs fault ↔ ∃ before v after, vs = before ++ v :: after ∧
      (∀ w ∈ before, w = .null ∨ ∃ d, Accepts depths env w d) ∧
      Refuses depths env path (number + before.length) v fault := by
  constructor
  · intro h
    induction h with
    | @here number v r fault hrefused => exact ⟨[], v, r, rfl, nofun, hrefused⟩
    | @later number w r d fault hd _ ih =>
      obtain ⟨before, v, after, rfl, hbefore, hrefused⟩ := ih
      refine ⟨w :: before, v, after, rfl, ?_, ?_⟩
      · rw [List.forall_mem_cons]
        exact ⟨exists_checkOne_iff.1 ⟨d, hd⟩, hbefore⟩
      · rw [List.length_cons, Nat.add_comm before.length, ← Nat.add_assoc]
        exact hrefused
  · rintro ⟨before, v, after, rfl, hbefore, hrefused⟩
    induction before generalizing number with
    | nil => exact .here hrefused
    | cons w before ih =>
      rw [List.forall_mem_cons] at hbefore
      obtain ⟨d, hd⟩ := exists_checkOne_iff.2 hbefore.1
      refine .later hd (ih hbefore.2 ?_)
      rw [List.length_cons, Nat.add_comm before.length, ← Nat.add_assoc] at hrefused
      exact hrefused

/-! ### Files -/

/-- What a file comes to whose documents stand for the values `vs`. -/
structure LoadsAs (depths : Depths) (env : Environment) (path : Path) (vs : List Value)
    (result : Except LoadFault (List LoadedDocument)) : Prop where
  /-- The documents are those of the values that are not null, in order, and there is one. -/
  documents : ∀ ds, result = .ok ds ↔
    ds ≠ [] ∧ List.Forall₂ (Accepts depths env) (vs.filterMap Value.present?) ds
  /-- There are documents exactly if some value is not null and all those are accepted. -/
  accepted : (∃ ds, result = .ok ds) ↔
    (∃ v ∈ vs, v ≠ .null) ∧ ∀ v ∈ vs, v ≠ .null → ∃ d, Accepts depths env v d
  /-- Else the first value decides that is neither null nor accepted, with its number among all, or
  there is no document. -/
  refused : ∀ fault, result = .error fault ↔
    (∃ before v after, vs = before ++ v :: after ∧
      (∀ w ∈ before, w = .null ∨ ∃ d, Accepts depths env w d) ∧
      Refuses depths env path (before.length + 1) v fault) ∨
    (∀ v ∈ vs, v = .null) ∧ fault = .noDocuments path

theorem loadsAs_ofValues (depths : Depths) (env : Environment) (path : Path) (vs : List Value) :
    LoadsAs depths env path vs (ofValues depths env path vs) where
  documents ds := by
    rw [ofValues_eq_ok_iff, checkFrom_eq_ok_iff, and_comm]
  accepted := by
    simp only [ofValues_eq_ok_iff]
    constructor
    · rintro ⟨ds, hds, hne⟩
      refine ⟨?_, exists_checkFrom_iff.1 ⟨ds, hds⟩⟩
      by_contra hall
      push Not at hall
      rw [checkFrom_eq_nil_iff.2 hall] at hds
      exact hne (Except.ok.inj hds).symm
    · rintro ⟨⟨v, hv, hne⟩, hall⟩
      obtain ⟨ds, hds⟩ : ∃ ds, checkFrom depths env path 1 vs = .ok ds :=
        exists_checkFrom_iff.2 hall
      refine ⟨ds, hds, ?_⟩
      rintro rfl
      exact hne (checkFrom_eq_nil_iff.1 hds v hv)
  refused fault := by
    rw [ofValues_eq_error_iff, stops_iff, checkFrom_eq_nil_iff]
    simp only [Nat.add_comm 1]

/-- What a file comes to, given what its text delivers: a fault of the text comes before all that is
wrong with a document. -/
theorem load_of_stream {octets : List UInt8} {cs : List Char}
    (hnode : files.node? path = .ok (.file octets)) (hdecode : Text.decode octets = .ok cs) :
    (∃ vs ended, Yaml.Stream depths (Text.unifyLines cs) vs ended) ∧
    ∀ vs ended, Yaml.Stream depths (Text.unifyLines cs) vs ended →
      (ended = none → LoadsAs depths env path vs (load depths env files path)) ∧
      (ended = some .malformed → load depths env files path = .error (.malformed path)) ∧
      ∀ fault, ended = some fault → fault ≠ .malformed →
        load depths env files path = .error (.unbuildable fault) := by
  refine ⟨Yaml.exists_stream _ _, fun vs ended hstream => ?_⟩
  have hread := Yaml.readAll_of_stream hstream
  rw [load_of_decode hnode hdecode]
  refine ⟨?_, ?_, ?_⟩
  · rintro rfl
    rw [ofText_of_values hread]
    exact loadsAs_ofValues depths env path vs
  · rintro rfl
    exact ofText_eq_error_iff.2 (.malformed hread)
  · rintro fault rfl hne
    exact ofText_of_unbuildable hread hne

/-- A file at the default path with a text. -/
def fileOf (text : String) : Files :=
  ⟨.directory [("queries.yaml", .file (Text.encode text))], ⟨.root, []⟩⟩

theorem fileOf_node? (text : String) :
    (fileOf text).node? defaultPath = .ok (.file (Text.encode text)) := by
  rw [node?_of_names (by simp [defaultPath])]
  rfl

/-- A null document, one that is accepted, one that is no mapping, and another one behind it. -/
def mixedText : String := "---\n---\nqueries: []\n---\n- a\n---\nqueries: 1\n"

/-- The texts and the number in values of the form that these documents have. -/
def mixedParts? : Except Yaml.Fault (List Value) → Option (String × String × String × Int)
  | .ok [.null, .map [(.text k, .list [])], .list [.text item], .map [(.text l, .int n)]] =>
    some (k, item, l, n)
  | _ => none

theorem eq_of_mixedParts? {r : Except Yaml.Fault (List Value)} {k item l : String} {n : Int}
    (h : mixedParts? r = some (k, item, l, n)) :
    r = .ok [.null, .map [(.text k, .list [])], .list [.text item], .map [(.text l, .int n)]] := by
  unfold mixedParts? at h
  split at h
  · cases h
    rfl
  · cases h

theorem stream_mixed : Yaml.Stream (.all 9) (Text.unifyLines mixedText.toList)
    [.null, .map [(.text "queries", .list [])], .list [.text "a"],
      .map [(.text "queries", .int 1)]] none :=
  Yaml.stream_of_readAll (eq_of_mixedParts? (by decide +kernel))

/-- The statement for these documents: the third one decides. -/
theorem load_of_stream_mixed :
    (fileOf mixedText).node? defaultPath = .ok (.file (Text.encode mixedText)) ∧
    Text.decode (Text.encode mixedText) = .ok mixedText.toList ∧
    load (.all 9) .empty (fileOf mixedText) defaultPath = .error (.notMapping 3 defaultPath) := by
  have hdecode : Text.decode (Text.encode mixedText) = .ok mixedText.toList := by
    decide +kernel
  obtain ⟨-, hload⟩ := @load_of_stream (.all 9) .empty _ _ _ _ (fileOf_node? mixedText) hdecode
  have hempty : Accepts (.all 9) .empty (.map [(.text "queries", .list [])])
      ⟨⟨"1", none, none, []⟩, ⟨false, []⟩⟩ :=
    ⟨⟨_, rfl⟩, by decide +kernel, by decide +kernel, by decide +kernel⟩
  refine ⟨fileOf_node? _, hdecode, (((hload _ _ stream_mixed).1 rfl).refused _).2 (.inl ?_)⟩
  refine ⟨[.null, .map [(.text "queries", .list [])]], .list [.text "a"], _, rfl, ?_, ?_⟩
  · exact List.forall_mem_cons.2 ⟨.inl rfl, List.forall_mem_singleton.2 (.inr ⟨_, hempty⟩)⟩
  · exact .notMapping nofun nofun

/-- A mapping with a list that contains itself. -/
def knottedText : String := "queries: &a [*a]\n"

/-- The value of that mapping. -/
def knotted : Value := .map [(.text "queries", .list [.enclosing .list])]

/-- The key of a mapping whose only value is a list that contains itself. -/
def knottedKey? : Except Yaml.Fault (List Value) → Option String
  | .ok [.map [(.text key, .list [.enclosing .list])]] => some key
  | _ => none

theorem eq_of_knottedKey? {r : Except Yaml.Fault (List Value)} {key : String}
    (h : knottedKey? r = some key) : r = .ok [.map [(.text key, .list [.enclosing .list])]] := by
  unfold knottedKey? at h
  split at h
  · cases h
    rfl
  · cases h

theorem stream_knotted :
    Yaml.Stream (.all 9) (Text.unifyLines knottedText.toList) [knotted] none :=
  Yaml.stream_of_readAll (eq_of_knottedKey? (by decide +kernel))

/-- A file whose text can be read and delivers a document may have neither documents nor a fault
that is reported. -/
theorem knotted_not_reported :
    ¬ ∀ (depths : Depths) (env : Environment) (files : Files) (path : Path)
      (octets : List UInt8) (cs : List Char) (vs : List Value),
      files.node? path = .ok (.file octets) → Text.decode octets = .ok cs →
      Yaml.Stream depths (Text.unifyLines cs) vs none →
      (∃ ds, load depths env files path = .ok ds) ∨
        ∃ fault, load depths env files path = .error fault ∧ fault.isReported = true := by
  intro h
  have hdecode : Text.decode (Text.encode knottedText) = .ok knottedText.toList := by
    decide +kernel
  have hdeep : Environment.isTooDeep (Depths.all 9).containers knotted = true := by decide +kernel
  have hload : load (.all 9) .empty (fileOf knottedText) defaultPath = .error .tooDeep := by
    rw [load_of_decode (fileOf_node? _) hdecode,
      ofText_of_values (Yaml.readAll_of_stream stream_knotted)]
    exact ((loadsAs_ofValues _ _ _ _).refused _).2 (.inl ⟨[], _, [], rfl, nofun, .tooDeep hdeep⟩)
  rcases h (.all 9) .empty _ defaultPath _ _ _ (fileOf_node? knottedText) hdecode
      stream_knotted with ⟨ds, hds⟩ | ⟨fault, hfault, hreported⟩
  · rw [hload] at hds
    cases hds
  · rw [hload] at hfault
    cases hfault
    exact absurd hreported (by decide)

end ElementLookup.QueryFile
