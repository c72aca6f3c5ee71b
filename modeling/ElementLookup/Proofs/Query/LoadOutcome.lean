/-
**What can become of a query file.**

A query file is accepted, or there is a fault, and most faults belong to the file: it is missing, it
cannot be read, it breaks the rules of documents, or a document in it is not accepted.  A batch
reports these and goes on with the next file.  Three faults are foreseen by no one and end it: a
name that the file system refuses, a value that is written but cannot be built, such as a number
without digits, and a document in which lists and mappings stand in one another too deeply, as those
that contain themselves do.  Here every fault is put beside what it is about.

Main definitions:

* `QueryFile.Refuses` — why one document is not accepted;
* `QueryFile.Stops`, `QueryFile.Rejects`, `QueryFile.Fails` — why documents, a text and a file are
  not accepted;
* `QueryFile.IsMissing` — nothing is at a path;
* `QueryFile.Unforeseen` — the faults that are not reported.

Main results:

* `QueryFile.checkFrom_eq_error_iff` — the first document that is refused decides;
* `QueryFile.mem_checkFrom` — what is accepted was checked;
* `QueryFile.load_eq_error_iff` — **when a query file is not accepted**;
* `QueryFile.load_outcome` — an accepted file has documents, a missing file is missing, and all
  other faults are reported but the unforeseen ones.
-/

import ElementLookup.Query.Load

set_option autoImplicit false

namespace ElementLookup.QueryFile

variable {depths : Depths} {env : Environment} {files : Files} {path : Path}

/-! ### Documents -/

/-- Why a document with a number is not accepted. -/
inductive Refuses (depths : Depths) (env : Environment) (path : Path) (number : Nat) :
    Value → LoadFault → Prop
  | notMapping {v : Value} : v ≠ .null → (∀ entries, v ≠ .map entries) →
      Refuses depths env path number v (.notMapping number path)
  | tooDeep {entries : List (Value × Value)} :
      Environment.isTooDeep depths.containers (.map entries) = true →
      Refuses depths env path number (.map entries) .tooDeep
  | invalid {entries : List (Value × Value)} {problems : List Problem} :
      Environment.isTooDeep depths.containers (.map entries) = false →
      Check.document (env.substitute (.map entries)) = .bad problems →
      Refuses depths env path number (.map entries) (.invalid path number problems)

theorem checkOne_of_tooDeep {number : Nat} {entries : List (Value × Value)}
    (h : Environment.isTooDeep depths.containers (.map entries) = true) :
    checkOne depths env path number (.map entries) = .error .tooDeep := by
  rw [checkOne, Environment.substitute?, if_pos h]

theorem checkOne_of_not_tooDeep {number : Nat} {entries : List (Value × Value)}
    (h : Environment.isTooDeep depths.containers (.map entries) = false) :
    checkOne depths env path number (.map entries) =
      match Check.document (env.substitute (.map entries)) with
      | .good d => .ok (some ⟨d, .ofValue (env.substitute (.map entries))⟩)
      | .bad problems => .error (.invalid path number problems) := by
  rw [checkOne, Environment.substitute?, h]
  rfl

theorem checkOne_of_not_map {number : Nat} {v : Value} (hnull : v ≠ .null)
    (hmap : ∀ entries, v ≠ .map entries) :
    checkOne depths env path number v = .error (.notMapping number path) := by
  cases v with
  | null => exact absurd rfl hnull
  | map entries => exact absurd rfl (hmap entries)
  | _ => rfl

theorem checkOne_eq_error_iff {number : Nat} {v : Value} {fault : LoadFault} :
    checkOne depths env path number v = .error fault ↔ Refuses depths env path number v fault := by
  constructor
  · intro h
    by_cases hnull : v = .null
    · rw [hnull] at h
      exact nomatch h
    · by_cases hmap : ∃ entries, v = .map entries
      · obtain ⟨entries, rfl⟩ := hmap
        cases hdeep : Environment.isTooDeep depths.containers (.map entries) with
        | true =>
          rw [checkOne_of_tooDeep hdeep] at h
          cases h
          exact .tooDeep hdeep
        | false =>
          rw [checkOne_of_not_tooDeep hdeep] at h
          cases hchecked : Check.document (env.substitute (.map entries)) with
          | good d => rw [hchecked] at h; exact nomatch h
          | bad problems =>
            rw [hchecked] at h
            cases h
            exact .invalid hdeep hchecked
      · have hne : ∀ entries, v ≠ .map entries := fun entries he => hmap ⟨entries, he⟩
        rw [checkOne_of_not_map hnull hne] at h
        cases h
        exact .notMapping hnull hne
  · intro h
    cases h with
    | notMapping hnull hmap => exact checkOne_of_not_map hnull hmap
    | tooDeep hdeep => exact checkOne_of_tooDeep hdeep
    | invalid hdeep hchecked => rw [checkOne_of_not_tooDeep hdeep, hchecked]

/-- A document that is accepted was checked. -/
theorem document_of_checkOne {number : Nat} {v : Value} {d : LoadedDocument}
    (h : checkOne depths env path number v = .ok (some d)) :
    ∃ entries, v = .map entries ∧
      Check.document (env.substitute (.map entries)) = .good d.document := by
  cases v with
  | map entries =>
    refine ⟨entries, rfl, ?_⟩
    cases hdeep : Environment.isTooDeep depths.containers (.map entries) with
    | true => rw [checkOne_of_tooDeep hdeep] at h; exact nomatch h
    | false =>
      rw [checkOne_of_not_tooDeep hdeep] at h
      cases hchecked : Check.document (env.substitute (.map entries)) with
      | good doc => rw [hchecked] at h; cases h; rfl
      | bad problems => rw [hchecked] at h; exact nomatch h
  | _ => exact nomatch h

/-- Why documents are not accepted: the first one that is refused decides. -/
inductive Stops (depths : Depths) (env : Environment) (path : Path) :
    Nat → List Value → LoadFault → Prop
  | here {number : Nat} {v : Value} {r : List Value} {fault : LoadFault} :
      Refuses depths env path number v fault → Stops depths env path number (v :: r) fault
  | later {number : Nat} {v : Value} {r : List Value} {d : Option LoadedDocument}
      {fault : LoadFault} : checkOne depths env path number v = .ok d →
      Stops depths env path (number + 1) r fault → Stops depths env path number (v :: r) fault

theorem checkFrom_cons_of_error {number : Nat} {v : Value} {fault : LoadFault}
    (h : checkOne depths env path number v = .error fault) (r : List Value) :
    checkFrom depths env path number (v :: r) = .error fault := by
  rw [checkFrom, h]
  rfl

theorem checkFrom_cons_of_ok {number : Nat} {v : Value} {d : Option LoadedDocument}
    (h : checkOne depths env path number v = .ok d) (r : List Value) :
    checkFrom depths env path number (v :: r) =
      (d.toList ++ ·) <$> checkFrom depths env path (number + 1) r := by
  rw [checkFrom, h]
  cases checkFrom depths env path (number + 1) r <;> rfl

theorem checkFrom_eq_error_iff {number : Nat} {vs : List Value} {fault : LoadFault} :
    checkFrom depths env path number vs = .error fault ↔ Stops depths env path number vs fault := by
  constructor
  · intro h
    induction vs generalizing number with
    | nil => exact nomatch h
    | cons v r ih =>
      cases hv : checkOne depths env path number v with
      | error f =>
        rw [checkFrom_cons_of_error hv] at h
        cases h
        exact .here (checkOne_eq_error_iff.1 hv)
      | ok d =>
        rw [checkFrom_cons_of_ok hv] at h
        cases hr : checkFrom depths env path (number + 1) r with
        | error f => rw [hr] at h; cases h; exact .later hv (ih hr)
        | ok ds => rw [hr] at h; exact nomatch h
  · intro h
    induction h with
    | here hrefused => exact checkFrom_cons_of_error (checkOne_eq_error_iff.2 hrefused) _
    | later hv _ ih => rw [checkFrom_cons_of_ok hv, ih]; rfl

/-- The documents that are accepted are those of values that are. -/
theorem exists_checkOne_of_mem {number : Nat} {vs : List Value} {ds : List LoadedDocument}
    (h : checkFrom depths env path number vs = .ok ds) {d : LoadedDocument} (hd : d ∈ ds) :
    ∃ n, ∃ v ∈ vs, checkOne depths env path n v = .ok (some d) := by
  induction vs generalizing number ds with
  | nil =>
    cases h
    exact nomatch hd
  | cons v r ih =>
    cases hv : checkOne depths env path number v with
    | error f => rw [checkFrom_cons_of_error hv] at h; exact nomatch h
    | ok d? =>
      rw [checkFrom_cons_of_ok hv] at h
      cases hrest : checkFrom depths env path (number + 1) r with
      | error f => rw [hrest] at h; exact nomatch h
      | ok ds' =>
        rw [hrest] at h
        cases h
        rcases List.mem_append.1 hd with hd | hd
        · obtain rfl : d? = some d := Option.mem_toList.1 hd
          exact ⟨number, v, List.mem_cons_self, hv⟩
        · obtain ⟨n, w, hmem, hw⟩ := ih hrest hd
          exact ⟨n, w, List.mem_cons_of_mem v hmem, hw⟩

/-- The documents that are accepted were checked. -/
theorem mem_checkFrom {number : Nat} {vs : List Value} {ds : List LoadedDocument}
    (h : checkFrom depths env path number vs = .ok ds) {d : LoadedDocument} (hd : d ∈ ds) :
    ∃ entries, .map entries ∈ vs ∧
      Check.document (env.substitute (.map entries)) = .good d.document := by
  obtain ⟨n, v, hmem, hv⟩ := exists_checkOne_of_mem h hd
  obtain ⟨entries, rfl, hchecked⟩ := document_of_checkOne hv
  exact ⟨entries, hmem, hchecked⟩

/-! ### Texts -/

/-- Why a text is not accepted. -/
inductive Rejects (depths : Depths) (env : Environment) (path : Path) (cs : List Char) :
    LoadFault → Prop
  | malformed : Yaml.readAll depths (Text.unifyLines cs) = .error .malformed →
      Rejects depths env path cs (.malformed path)
  | unbuildable {fault : Yaml.Fault} : Yaml.readAll depths (Text.unifyLines cs) = .error fault →
      fault ≠ .malformed → Rejects depths env path cs (.unbuildable fault)
  | document {vs : List Value} {fault : LoadFault} :
      Yaml.readAll depths (Text.unifyLines cs) = .ok vs → Stops depths env path 1 vs fault →
      Rejects depths env path cs fault
  | noDocuments {vs : List Value} : Yaml.readAll depths (Text.unifyLines cs) = .ok vs →
      checkFrom depths env path 1 vs = .ok [] → Rejects depths env path cs (.noDocuments path)

theorem ofValues_eq_ok_iff {vs : List Value} {ds : List LoadedDocument} :
    ofValues depths env path vs = .ok ds ↔ checkFrom depths env path 1 vs = .ok ds ∧ ds ≠ [] := by
  rw [ofValues]
  cases checkFrom depths env path 1 vs with
  | error f => exact ⟨fun h => (nomatch h), fun h => (nomatch h.1)⟩
  | ok ds' =>
    cases ds' with
    | nil => exact ⟨fun h => (nomatch h), fun h => by cases h.1; exact absurd rfl h.2⟩
    | cons d r => exact ⟨fun h => by cases h; exact ⟨rfl, List.cons_ne_nil d r⟩, fun h => h.1⟩

theorem ofValues_eq_error_iff {vs : List Value} {fault : LoadFault} :
    ofValues depths env path vs = .error fault ↔
      Stops depths env path 1 vs fault ∨
        checkFrom depths env path 1 vs = .ok [] ∧ fault = .noDocuments path := by
  rw [ofValues, ← checkFrom_eq_error_iff]
  cases checkFrom depths env path 1 vs with
  | error f => exact ⟨fun h => .inl h, fun h => h.resolve_right fun h => (nomatch h.1)⟩
  | ok ds =>
    cases ds with
    | nil =>
      constructor
      · rintro ⟨⟩
        exact .inr ⟨rfl, rfl⟩
      · rintro (h | ⟨-, rfl⟩)
        · exact nomatch h
        · rfl
    | cons d r =>
      exact ⟨fun h => (nomatch h), fun h => h.elim (fun h => (nomatch h)) fun h => (nomatch h.1)⟩

theorem ofText_of_unbuildable {cs : List Char} {fault : Yaml.Fault}
    (h : Yaml.readAll depths (Text.unifyLines cs) = .error fault) (hne : fault ≠ .malformed) :
    ofText depths env path cs = .error (.unbuildable fault) := by
  rw [ofText, h]
  cases fault with
  | malformed => exact absurd rfl hne
  | noSuchValue | emptyNumber | unknownWord | noDate | wrongShape | beyondBounds | tooDeep => rfl

theorem ofText_of_values {cs : List Char} {vs : List Value}
    (h : Yaml.readAll depths (Text.unifyLines cs) = .ok vs) :
    ofText depths env path cs = ofValues depths env path vs := by
  rw [ofText, h]

theorem ofText_eq_error_iff {cs : List Char} {fault : LoadFault} :
    ofText depths env path cs = .error fault ↔ Rejects depths env path cs fault := by
  constructor
  · intro h
    cases hread : Yaml.readAll depths (Text.unifyLines cs) with
    | error f =>
      by_cases hf : f = .malformed
      · subst hf
        rw [ofText, hread] at h
        cases h
        exact .malformed hread
      · rw [ofText_of_unbuildable hread hf] at h
        cases h
        exact .unbuildable hread hf
    | ok vs =>
      rw [ofText_of_values hread, ofValues_eq_error_iff] at h
      rcases h with h | ⟨h, rfl⟩
      · exact .document hread h
      · exact .noDocuments hread h
  · intro h
    cases h with
    | malformed hread => rw [ofText, hread]
    | unbuildable hread hne => exact ofText_of_unbuildable hread hne
    | document hread hstops =>
      rw [ofText_of_values hread]
      exact ofValues_eq_error_iff.2 (.inl hstops)
    | noDocuments hread hnone =>
      rw [ofText_of_values hread]
      exact ofValues_eq_error_iff.2 (.inr ⟨hnone, rfl⟩)

/-- A text that is accepted has documents, and all of them were checked. -/
theorem ofText_eq_ok {cs : List Char} {ds : List LoadedDocument}
    (h : ofText depths env path cs = .ok ds) :
    ds ≠ [] ∧ ∃ vs, Yaml.readAll depths (Text.unifyLines cs) = .ok vs ∧
      checkFrom depths env path 1 vs = .ok ds := by
  cases hread : Yaml.readAll depths (Text.unifyLines cs) with
  | error f =>
    by_cases hf : f = .malformed
    · rw [ofText, hread, hf] at h
      exact nomatch h
    · rw [ofText_of_unbuildable hread hf] at h
      exact nomatch h
  | ok vs =>
    rw [ofText_of_values hread, ofValues_eq_ok_iff] at h
    exact ⟨h.2, vs, rfl, h.1⟩

/-! ### Files -/

/-- Whether nothing is at a path. -/
def IsMissing (files : Files) (path : Path) : Prop :=
  ∃ why, files.node? path = .error why ∧ why ≠ .nameTooLong

/-- Why a file is not accepted. -/
inductive Fails (depths : Depths) (env : Environment) (files : Files) (path : Path) :
    LoadFault → Prop
  | missing : IsMissing files path → Fails depths env files path (.missing path)
  | nameTooLong : files.node? path = .error .nameTooLong →
      Fails depths env files path .nameTooLong
  | directory {entries : List (String × FileTree)} :
      files.node? path = .ok (.directory entries) → Fails depths env files path (.directory path)
  | undecodable {octets : List UInt8} {why : Text.BadOctets} :
      files.node? path = .ok (.file octets) → Text.decode octets = .error why →
      Fails depths env files path (.undecodable path why)
  | text {octets : List UInt8} {cs : List Char} {fault : LoadFault} :
      files.node? path = .ok (.file octets) → Text.decode octets = .ok cs →
      Rejects depths env path cs fault → Fails depths env files path fault

theorem load_of_missing (h : IsMissing files path) :
    load depths env files path = .error (.missing path) := by
  obtain ⟨why, hnode, hne⟩ := h
  rw [load, hnode]
  cases why with
  | nameTooLong => exact absurd rfl hne
  | missing | throughFile | badName => rfl

theorem load_of_decode {octets : List UInt8} {cs : List Char}
    (hnode : files.node? path = .ok (.file octets)) (h : Text.decode octets = .ok cs) :
    load depths env files path = ofText depths env path cs := by
  rw [load, hnode]
  dsimp only
  rw [h]

theorem load_of_undecodable {octets : List UInt8} {why : Text.BadOctets}
    (hnode : files.node? path = .ok (.file octets)) (h : Text.decode octets = .error why) :
    load depths env files path = .error (.undecodable path why) := by
  rw [load, hnode]
  dsimp only
  rw [h]

/-- When a query file is not accepted. -/
theorem load_eq_error_iff {fault : LoadFault} :
    load depths env files path = .error fault ↔ Fails depths env files path fault := by
  constructor
  · intro h
    match hnode : files.node? path with
    | .error why =>
      by_cases hlong : why = .nameTooLong
      · rw [load, hnode, hlong] at h
        cases h
        exact .nameTooLong (hlong ▸ hnode)
      · have hmissing : IsMissing files path := ⟨why, hnode, hlong⟩
        rw [load_of_missing hmissing] at h
        cases h
        exact .missing hmissing
    | .ok (.directory entries) =>
      rw [load, hnode] at h
      cases h
      exact .directory hnode
    | .ok (.file octets) =>
      cases hdecode : Text.decode octets with
      | error why =>
        rw [load_of_undecodable hnode hdecode] at h
        cases h
        exact .undecodable hnode hdecode
      | ok cs =>
        rw [load_of_decode hnode hdecode] at h
        exact .text hnode hdecode (ofText_eq_error_iff.1 h)
  · intro h
    cases h with
    | missing hmissing => exact load_of_missing hmissing
    | nameTooLong hnode => rw [load, hnode]
    | directory hnode => rw [load, hnode]
    | undecodable hnode hdecode => exact load_of_undecodable hnode hdecode
    | text hnode hdecode hrejects =>
      rw [load_of_decode hnode hdecode]
      exact ofText_eq_error_iff.2 hrejects

/-! ### Faults that are not reported -/

/-- The faults that no report foresees: a name that the file system refuses, a value that is written
but cannot be built, and a document in which lists and mappings are too deep in one another. -/
inductive Unforeseen (depths : Depths) (env : Environment) (files : Files) (path : Path) :
    LoadFault → Prop
  | nameTooLong : files.node? path = .error .nameTooLong →
      Unforeseen depths env files path .nameTooLong
  | unbuildable {octets : List UInt8} {cs : List Char} {fault : Yaml.Fault} :
      files.node? path = .ok (.file octets) → Text.decode octets = .ok cs →
      Yaml.readAll depths (Text.unifyLines cs) = .error fault → fault ≠ .malformed →
      Unforeseen depths env files path (.unbuildable fault)
  | tooDeep {octets : List UInt8} {cs : List Char} {vs : List Value} :
      files.node? path = .ok (.file octets) → Text.decode octets = .ok cs →
      Yaml.readAll depths (Text.unifyLines cs) = .ok vs → Stops depths env path 1 vs .tooDeep →
      Unforeseen depths env files path .tooDeep

/-- The faults of documents are these. -/
theorem Stops.cases {number : Nat} {vs : List Value} {fault : LoadFault}
    (h : Stops depths env path number vs fault) :
    fault = .tooDeep ∨ (∃ n, fault = .notMapping n path) ∨
      ∃ n problems, fault = .invalid path n problems := by
  induction h with
  | here hrefused =>
    cases hrefused with
    | notMapping _ _ => exact .inr (.inl ⟨_, rfl⟩)
    | tooDeep _ => exact .inl rfl
    | invalid _ _ => exact .inr (.inr ⟨_, _, rfl⟩)
  | later _ _ ih => exact ih

/-- A missing file is missing, and nothing else is. -/
theorem load_eq_missing_iff {p : Path} :
    load depths env files path = .error (.missing p) ↔ p = path ∧ IsMissing files path := by
  rw [load_eq_error_iff]
  constructor
  · intro h
    cases h with
    | missing hmissing => exact ⟨rfl, hmissing⟩
    | text _ _ hrejects =>
      cases hrejects with
      | document _ hstops => exact absurd hstops.cases (by simp)
  · rintro ⟨rfl, hmissing⟩
    exact .missing hmissing

/-- A fault is not reported exactly if it is unforeseen. -/
theorem load_unreported_iff {fault : LoadFault} :
    load depths env files path = .error fault ∧ fault.isReported = false ↔
      Unforeseen depths env files path fault := by
  rw [load_eq_error_iff]
  constructor
  · rintro ⟨h, hreported⟩
    cases h with
    | missing _ => exact nomatch hreported
    | nameTooLong hnode => exact .nameTooLong hnode
    | directory _ => exact nomatch hreported
    | undecodable _ _ => exact nomatch hreported
    | text hnode hdecode hrejects =>
      cases hrejects with
      | malformed _ => exact nomatch hreported
      | noDocuments _ _ => exact nomatch hreported
      | unbuildable hread hne => exact .unbuildable hnode hdecode hread hne
      | document hread hstops =>
        rcases hstops.cases with rfl | ⟨n, rfl⟩ | ⟨n, problems, rfl⟩
        · exact .tooDeep hnode hdecode hread hstops
        · exact nomatch hreported
        · exact nomatch hreported
  · intro h
    cases h with
    | nameTooLong hnode => exact ⟨.nameTooLong hnode, rfl⟩
    | unbuildable hnode hdecode hread hne =>
      exact ⟨.text hnode hdecode (.unbuildable hread hne), rfl⟩
    | tooDeep hnode hdecode hread hstops =>
      exact ⟨.text hnode hdecode (.document hread hstops), rfl⟩

/-- A query file that is accepted has documents, which are those of its values. -/
theorem checkFrom_of_load {ds : List LoadedDocument} (h : load depths env files path = .ok ds) :
    ds ≠ [] ∧ ∃ vs, checkFrom depths env path 1 vs = .ok ds := by
  match hnode : files.node? path with
  | .error why =>
    by_cases hlong : why = .nameTooLong
    · rw [load, hnode, hlong] at h
      exact nomatch h
    · rw [load_of_missing ⟨why, hnode, hlong⟩] at h
      exact nomatch h
  | .ok (.directory entries) =>
    rw [load, hnode] at h
    exact nomatch h
  | .ok (.file octets) =>
    cases hdecode : Text.decode octets with
    | error why =>
      rw [load_of_undecodable hnode hdecode] at h
      exact nomatch h
    | ok cs =>
      rw [load_of_decode hnode hdecode] at h
      obtain ⟨hne, vs, -, hvs⟩ := ofText_eq_ok h
      exact ⟨hne, vs, hvs⟩

/-- A query file that is accepted has documents, and all of them were checked. -/
theorem load_eq_ok {ds : List LoadedDocument} (h : load depths env files path = .ok ds) :
    ds ≠ [] ∧ ∀ d ∈ ds, ∃ entries,
      Check.document (env.substitute (.map entries)) = .good d.document := by
  obtain ⟨hne, vs, hvs⟩ := checkFrom_of_load h
  refine ⟨hne, fun d hd => ?_⟩
  obtain ⟨entries, -, hchecked⟩ := mem_checkFrom hvs hd
  exact ⟨entries, hchecked⟩

/-- What can become of a query file: it has documents that were checked, or it is missing, or it is
reported, unless its name, a value in it or a depth in it is one that no report foresees. -/
theorem load_outcome (depths : Depths) (env : Environment) (files : Files) (path : Path) :
    (∀ ds, load depths env files path = .ok ds → ds ≠ [] ∧ ∀ d ∈ ds, ∃ entries,
      Check.document (env.substitute (.map entries)) = .good d.document) ∧
    (∀ p, load depths env files path = .error (.missing p) ↔ p = path ∧ IsMissing files path) ∧
    ∀ fault, load depths env files path = .error fault ∧ fault.isReported = false ↔
      Unforeseen depths env files path fault :=
  ⟨fun _ => load_eq_ok, fun _ => load_eq_missing_iff, fun _ => load_unreported_iff⟩

/-- Names that a file can have lead where their steps lead. -/
theorem node?_of_names {f : Files} {p : Path} (h : ∀ s ∈ p.steps, s.contains '\x00' = false) :
    f.node? p = ((if Files.isTooLong p then .error .nameTooLong
        else (·.reverse) <$> Files.descend f.root (f.origin p) p.steps) >>= fun place =>
      match f.root.at? place with
      | some t => .ok t
      | none => .error .missing) := by
  have hnames : p.steps.any (·.contains '\x00') = false :=
    List.any_eq_false.2 fun s hs => by rw [h s hs]; exact Bool.false_ne_true
  rw [Files.node?, Files.place?, hnames]
  rfl

/-- A file whose text is tagged as a number and has no digit. -/
def digitlessFile : Files :=
  ⟨.directory [("queries.yaml", .file (Text.encode "queries: !!int x\n"))], ⟨.root, []⟩⟩

theorem digitlessFile_node? :
    digitlessFile.node? defaultPath = .ok (.file (Text.encode "queries: !!int x\n")) := by
  rw [node?_of_names (by simp [defaultPath])]
  rfl

theorem readAll_digitless :
    Yaml.readAll (.all 9) (Text.unifyLines "queries: !!int x\n".toList) =
      .error .noSuchValue := by
  have h : (match Yaml.readAll (.all 9) (Text.unifyLines "queries: !!int x\n".toList) with
      | .error fault => some fault
      | .ok _ => none) = some .noSuchValue := by decide +kernel
  split at h
  · rename_i hread
    rw [hread, Option.some.inj h]
  · exact nomatch h

/-- Such a file is not accepted, and not reported either: not every fault is. -/
theorem not_all_faults_reported :
    ¬ ∀ (depths : Depths) (env : Environment) (files : Files) (path : Path) (fault : LoadFault),
      load depths env files path = .error fault → fault.isReported = true := by
  intro h
  have hunforeseen : Unforeseen (.all 9) Environment.empty digitlessFile defaultPath
      (.unbuildable .noSuchValue) :=
    .unbuildable digitlessFile_node? rfl readAll_digitless nofun
  have hfault := load_unreported_iff.2 hunforeseen
  exact absurd (h _ _ _ _ _ hfault.1) (by decide)

end ElementLookup.QueryFile
