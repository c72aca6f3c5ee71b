/-
**What the options of a role come to.**

The options of a role are a mapping from keys to values, and only eight keys mean something.  One
of them has a second spelling, which gives way to the first.  So the options are settled before
anything is made of them: the second spelling goes, and its value stays only if the first one was
not there.  The answer depends on the eight values of the settled options and on nothing else,
neither on the order in which they were given nor on what stands between them.  The keys without a
meaning are mentioned once, sorted, and the spellings of a property are never among them.

Main definitions:

* `Role.settle` — the options with the second spelling settled;
* `Role.IsGiven`, `Role.IsStray` — the properties that are given, and the keys that give none;
* `Role.answer` — what the selector of a role comes to;
* `Session.Canonical` — what the selector of a role under options comes to.

Main results:

* `Role.option?_settle` — settled options have the values that clauses are made of;
* `Role.clauses_eq_ok` — there is one clause for each property that has a value;
* `Role.pairwise_ignored` — the ignored keys are in strictly increasing order;
* `Session.selectorOf_byRole` — a role lookup asks for the selector of its options;
* `Session.canonical_of_nodup` — **options come to what their settled values come to**.
-/

import ElementLookup.Proofs.Selector.RoleReading
import ElementLookup.Proofs.Session.Outcome
import Mathlib.Data.List.TakeWhile

set_option autoImplicit false

namespace ElementLookup

namespace Role

/-! ### Settled options -/

/-- The options without the second spelling; its value is kept under the first one, unless that has
a value already. -/
def settle (options : Options) : Options :=
  match option? options hiddenAlias with
  | none => options
  | some v =>
    let others := options.filter fun o => o.1 ≠ hiddenAlias
    match option? others Property.includeHidden.key with
    | some _ => others
    | none => others ++ [(Property.includeHidden.key, v)]

theorem option?_filter (options : Options) {key : String} (h : key ≠ hiddenAlias) :
    option? (options.filter fun o => o.1 ≠ hiddenAlias) key = option? options key := by
  rw [option?, option?, List.find?_filter]
  congr 2
  funext o
  by_cases ho : o.1 = key
  · simp [ho, h]
  · simp [ho]

theorem option?_concat (options : Options) (key key' : String) (v : Value) :
    option? (options ++ [(key', v)]) key =
      (option? options key).or (if key' = key then some v else none) := by
  rw [option?, option?, List.find?_append, Option.map_or]
  by_cases h : key' = key <;> simp [h]

/-- Settled options have the values that clauses are made of. -/
theorem option?_settle (options : Options) (p : Property) :
    option? (settle options) p.key = given options p := by
  have hothers := option?_filter options p.key_ne_alias
  unfold settle
  cases halias : option? options hiddenAlias with
  | none => cases p <;> simp [given, halias]
  | some v =>
    dsimp only
    rw [option?_filter options Property.includeHidden.key_ne_alias]
    cases hfirst : option? options Property.includeHidden.key with
    | some w =>
      dsimp only
      rw [hothers]
      cases p <;> simp [given, hfirst]
    | none =>
      dsimp only
      rw [option?_concat, hothers]
      by_cases hp : p = .includeHidden
      · subst hp
        simp [given, hfirst, halias]
      · have hkey : ¬ Property.includeHidden.key = p.key := fun h => hp (Property.key_inj h).symm
        rw [if_neg hkey, Option.or_none]
        exact (given_of_ne hp _).symm

/-- Whether a property is given, under either spelling. -/
def IsGiven (options : Options) (p : Property) : Prop :=
  p.key ∈ options.map (·.1) ∨ p = .includeHidden ∧ hiddenAlias ∈ options.map (·.1)

instance (options : Options) (p : Property) : Decidable (IsGiven options p) :=
  inferInstanceAs (Decidable (_ ∨ _))

theorem isSome_given_iff {options : Options} {p : Property} :
    (given options p).isSome = true ↔ IsGiven options p := by
  unfold IsGiven
  rw [← isSome_option?, ← isSome_option?]
  cases p <;> simp [given]

/-! ### Ignored keys -/

/-- Whether a key of the options gives no property, under either spelling. -/
def IsStray (options : Options) (key : String) : Prop :=
  key ∈ options.map (·.1) ∧ key ≠ hiddenAlias ∧ ∀ p : Property, key ≠ p.key

theorem isKnown_eq_false_iff {key : String} :
    isKnown key = false ↔ key ≠ hiddenAlias ∧ ∀ p : Property, key ≠ p.key := by
  rw [isKnown, Bool.or_eq_false_iff, decide_eq_false_iff_not, List.any_eq_false]
  refine and_congr_right fun _ => ⟨fun h p hp => ?_, fun h p _ => ?_⟩
  · exact h p p.mem_all (by simpa using hp.symm)
  · simpa using fun hp => h p hp.symm

theorem mem_ignored {options : Options} {key : String} :
    key ∈ ignored options ↔ IsStray options key := by
  rw [ignored, List.mem_mergeSort, List.mem_filter, Bool.not_eq_true', isKnown_eq_false_iff,
    IsStray]

theorem textLe_iff {s t : String} : textLe s t = true ↔ ¬ t.toList < s.toList := by
  rw [textLe, Bool.not_eq_true', decide_eq_false_iff_not]

/-- Keys that occur once are sorted into strictly increasing order. -/
theorem pairwise_ignored {options : Options} (h : (options.map (·.1)).Nodup) :
    (ignored options).Pairwise fun k l => k.toList < l.toList := by
  have hsorted : (ignored options).Pairwise fun k l => textLe k l = true := by
    refine List.pairwise_mergeSort (fun k l m hkl hlm => ?_) (fun k l => ?_) _
    · rw [textLe_iff, List.not_lt] at hkl hlm
      exact textLe_iff.2 (List.not_lt.2 (List.le_trans hkl hlm))
    · rw [Bool.or_eq_true, textLe_iff, textLe_iff, List.not_lt, List.not_lt]
      exact List.le_total _ _
  have hnodup : (ignored options).Nodup :=
    (List.mergeSort_perm _ _).nodup_iff.2 (h.filter _)
  refine (hsorted.and hnodup).imp fun {k l} ⟨hle, hne⟩ => ?_
  rw [textLe_iff, List.not_lt] at hle
  rcases List.le_iff_lt_or_eq.1 hle with hlt | heq
  · exact hlt
  · exact absurd (String.toList_inj.1 heq) hne

/-! ### Clauses -/

theorem exists_of_filterMapM {α β ε : Type} {f : α → Except ε (Option β)} {l : List α} {r : List β}
    (h : l.filterMapM f = .ok r) : ∀ a ∈ l, ∃ b, f a = .ok b := by
  induction l generalizing r with
  | nil => simp
  | cons a l ih =>
    rw [List.filterMapM_cons] at h
    cases ha : f a with
    | error e =>
      rw [ha] at h
      cases h
    | ok b =>
      rw [List.forall_mem_cons]
      refine ⟨⟨b, ha⟩, ?_⟩
      rw [ha] at h
      cases b with
      | none => exact ih h
      | some b =>
        cases hl : l.filterMapM f with
        | ok r' => exact ih hl
        | error e =>
          rw [hl] at h
          cases h

/-- Every value of a property has been written, if there are clauses at all. -/
theorem exists_clauseText {values : Property → Option Value} {texts : List (Property × String)}
    (h : clauses values = .ok texts) {p : Property} {v : Value} (hv : values p = some v) :
    ∃ text, clauseText p v = .ok text := by
  obtain ⟨b, hb⟩ := exists_of_filterMapM h p p.mem_all
  rw [hv] at hb
  cases htext : clauseText p v with
  | ok text => exact ⟨text, rfl⟩
  | error fault =>
    dsimp only at hb
    rw [htext] at hb
    cases hb

/-- Values that can be written have their texts. -/
theorem exists_texts {values : Property → Option Value}
    (h : ∀ p v, values p = some v → ∃ text, clauseText p v = .ok text) :
    ∃ text : Property → String, ∀ p v, values p = some v → clauseText p v = .ok (text p) := by
  have hone : ∀ p, ∃ text, ∀ v, values p = some v → clauseText p v = .ok text := by
    intro p
    cases hp : values p with
    | none => exact ⟨"", fun v hv => nomatch hv⟩
    | some v =>
      obtain ⟨text, htext⟩ := h p v hp
      refine ⟨text, fun w hw => ?_⟩
      rw [← Option.some.inj hw]
      exact htext
  exact Classical.skolem.1 hone

/-- There is one clause for each property that has a value, in the order of the properties. -/
theorem clauses_eq_ok {values : Property → Option Value} {text : Property → String}
    (h : ∀ p v, values p = some v → clauseText p v = .ok (text p)) :
    clauses values =
      .ok ((Property.all.filter fun p => (values p).isSome).map fun p => (p, text p)) := by
  rw [← List.filterMap_eq_map, List.filterMap_filter, clauses, ← filterMapM_ok]
  congr 1
  funext p
  cases hv : values p with
  | none => rfl
  | some v =>
    dsimp only
    rw [h p v hv]
    rfl

/-! ### Answers -/

/-- What the selector of a role comes to. -/
def answer (role : String) (options : Options) : Except Fault String :=
  if isOverlong (.text role) options then .error .overlongLevel
  else (lookupSelector (.text role) options).mapError .lookup

/-- The role can be written, so only the values of the properties can be too long. -/
theorem isOverlong_text (role : String) (options : Options) :
    isOverlong (.text role) options =
      (Property.all.takeWhile fun p =>
        (given options p).all fun v => (clauseText p v).isOk).any fun p =>
          (given options p).any Value.isOverlong := by
  have hrole : (Value.text role).isOverlong = false := rfl
  rw [isOverlong, hrole, Bool.false_and, Bool.or_false]

/-- What the selector of a role comes to depends on the values of the properties alone. -/
theorem answer_congr {o o' : Options} (h : ∀ p, given o p = given o' p) (role : String) :
    answer role o = answer role o' := by
  have hlookup : lookupSelector (.text role) o = lookupSelector (.text role) o' := by
    rw [lookupSelector, lookupSelector, selector, selector, clauses_congr h]
  rw [answer, answer, hlookup, isOverlong_text, isOverlong_text]
  simp only [h]

/-- A role has a selector if all values of its properties can be written, and the selector has one
clause for each of them. -/
theorem answer_eq_ok {role : String} {options : Options} {text : Property → String}
    (hshort : ∀ p v, given options p = some v → v.isOverlong = false)
    (htext : ∀ p v, given options p = some v → clauseText p v = .ok (text p)) :
    answer role options =
      .ok (render role ((Property.all.filter (IsGiven options)).map fun p => (p, text p))) := by
  have hlong : isOverlong (.text role) options = false := by
    rw [isOverlong_text, List.any_eq_false]
    intro p _ hp
    obtain ⟨v, hv, hlong⟩ := (Option.any_eq_true _ _).1 hp
    exact absurd (hshort p v hv) (by rw [hlong]; decide)
  have hfilter : (Property.all.filter fun p => (given options p).isSome) =
      Property.all.filter (IsGiven options) := by
    congr 1
    funext p
    rw [Bool.eq_iff_iff, isSome_given_iff, decide_eq_true_eq]
  rw [answer, hlong, lookupSelector, selector, clauses_eq_ok htext, hfilter]
  rfl

/-- Only then has it one. -/
theorem exists_of_answer {role sel : String} {options : Options}
    (h : answer role options = .ok sel) {p : Property} {v : Value}
    (hv : given options p = some v) :
    v.isOverlong = false ∧ ∃ text, clauseText p v = .ok text := by
  rw [answer] at h
  split at h
  · cases h
  · next hlong =>
    cases hclauses : clauses (given options) with
    | error fault =>
      rw [lookupSelector, selector, hclauses] at h
      cases h
    | ok texts =>
      have hsound : Property.all.takeWhile (fun p =>
          (given options p).all fun v => (clauseText p v).isOk) = Property.all := by
        refine List.takeWhile_eq_self_iff.2 fun p _ => (Option.all_eq_true _ _).2 fun v hv => ?_
        obtain ⟨text, htext⟩ := exists_clauseText hclauses hv
        rw [htext]
        rfl
      rw [isOverlong_text, hsound, Bool.not_eq_true, List.any_eq_false] at hlong
      have hshort := hlong p p.mem_all
      rw [hv] at hshort
      exact ⟨Bool.eq_false_iff.2 hshort, exists_clauseText hclauses hv⟩

end Role

namespace Session

/-! ### The selector of a role -/

/-- What is said of ignored options, if there are any. -/
def heardOf (s : Session) (role : String) : List String → Session
  | [] => s
  | keys =>
    s.heard ⟨"getby.selectors.encoders", Log.Severity.debug, Role.ignoredMessage role keys⟩

theorem outcome_roleSelector (role : String) (options : Role.Options) (s : Session) :
    outcome (roleSelector (.text role) options) s =
      (Role.answer role options, s.heardOf role (Role.ignored options)) := by
  have hrole : (Value.text role).isOverlong = false := rfl
  rw [roleSelector, hrole, if_neg Bool.false_ne_true, Role.note?, Role.answer]
  cases Role.ignored options <;> cases Role.isOverlong (.text role) options <;>
    cases Role.lookupSelector (.text role) options <;> rfl

/-- A role lookup that is not misused asks for the selector of the role under the options that are
not null. -/
theorem selectorOf_byRole {role : Value} {options : Role.Options}
    (h : (Lookup.byRole role options).isMisused = false) (c : Option ContextId) :
    selectorOf c (.byRole role options) = roleSelector role (Role.present options) := by
  rw [selectorOf, roleSelector, Lookup.note?, Lookup.isOverlong, Lookup.compile, h]
  simp

/-- What the selector of a role under options comes to, asked for in the session `s`. -/
structure Canonical (role : String) (options : Role.Options) (s : Session) : Prop where
  /-- Options that settle to the same values of the eight properties, given in whatever order and
  with whatever else among them, come to the same selector or fault. -/
  congr : ∀ (other : Role.Options) (t : Session),
    (∀ p : Role.Property, Role.option? (Role.settle other) p.key =
      Role.option? (Role.settle options) p.key) →
    (outcome (roleSelector (.text role) other) t).1 =
      (outcome (roleSelector (.text role) options) s).1
  /-- There is a selector exactly if all those values can be written. -/
  answered : (∃ sel, (outcome (roleSelector (.text role) options) s).1 = .ok sel) ↔
    ∀ (p : Role.Property) (v : Value), Role.option? (Role.settle options) p.key = some v →
      v.isOverlong = false ∧ ∃ text, Role.clauseText p v = .ok text
  /-- A selector has one clause for each property that is given under either spelling, in the order
  of the properties, and nothing else behind the role. -/
  clauses : ∀ sel, (outcome (roleSelector (.text role) options) s).1 = .ok sel →
    ∃ text : Role.Property → String,
      (∀ p v, Role.option? (Role.settle options) p.key = some v →
        Role.clauseText p v = .ok (text p)) ∧
      sel = "role=" ++ role ++ String.join
        ((Role.Property.all.filter (Role.IsGiven options)).map fun p => Role.clause p (text p))
  /-- Keys that give no property are mentioned, each once and in the order of code points, and
  nothing else changes. -/
  noted : (∃ key, Role.IsStray options key) →
    ∃ keys : List String, keys.Pairwise (fun k l => k.toList < l.toList) ∧
      (∀ key, key ∈ keys ↔ Role.IsStray options key) ∧
      (outcome (roleSelector (.text role) options) s).2 =
        s.heard ⟨"getby.selectors.encoders", Log.Severity.debug, Role.ignoredMessage role keys⟩
  /-- Without such keys nothing is said. -/
  silent : (∀ key, ¬ Role.IsStray options key) →
    (outcome (roleSelector (.text role) options) s).2 = s

/-- A session in which somebody listens to everything. -/
def listeningStart : Session :=
  start (.all 9) Environment.empty ⟨.directory [], ⟨.root, []⟩⟩ Log.Severity.debug [.listener]

/-- Options that give a property under both spellings, with two keys that give none. -/
def doubledOptions : Role.Options :=
  [("zone", .null), ("include_hidden", .bool false), ("name", .text "Say \"hi\""),
    ("includeHidden", .bool true), ("Size", .int 1), ("checked", .null)]

end Session

end ElementLookup
