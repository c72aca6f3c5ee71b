/-
**A context and a registry that are told the same names.**

Applying a name sets the attribute of a context and then tells a registry outside the library, so
that lookups made there find the same elements.  The registry may refuse the name.  By then the
context has it, and nothing takes it back: the call fails, but every later lookup by test id uses
the name that was refused.  So the context goes with the calls, the registry with those that it
accepted, and the two agree exactly if the last call was accepted or its name makes no difference.

Main definitions:

* `Session.Call`, `Session.called`, `Session.afterCalls` — calls that apply a name to a context and
  a registry, which accepts it or refuses it, and the session after them;
* `Session.accepted`, `Session.lastAccepted` — the names that the registry accepted, and the last of
  them.

Main results:

* `Session.outcome_applyAttribute_registry` — what a call comes to;
* `Session.afterCalls_eq` — the context has the last name, and the registry all that it accepted;
* `Session.agrees_iff` — **when the two agree**;
* `Session.uses_refused` — a name that was refused is used all the same.
-/

import ElementLookup.Proofs.Session.TestIdAttribute

set_option autoImplicit false

namespace ElementLookup.Session

/-! ### Calls -/

/-- A name that is applied, and whether the registry refuses it. -/
structure Call where
  name : String
  refused : Bool
  deriving DecidableEq, Repr

/-- The session with a registry that will refuse names or accept them. -/
def withRefusal (s : Session) (r : RegistryId) (refuses : Bool) : Session :=
  { s with registries := s.registries.modify r fun g => { g with refuses := refuses } }

/-- The session after a call. -/
def called (c : ContextId) (r : RegistryId) (s : Session) (call : Call) : Session :=
  (outcome (applyAttribute call.name (some c) (some r)) (s.withRefusal r call.refused)).2

/-- The session after calls. -/
def afterCalls (s : Session) (c : ContextId) (r : RegistryId) (calls : List Call) : Session :=
  calls.foldl (called c r) s

/-- The names that the registry accepts. -/
def accepted (calls : List Call) : List String :=
  (calls.filter fun call => !call.refused).map Call.name

/-- The last name that the registry accepts, or what there was before. -/
def lastAccepted (before : String) (calls : List Call) : String :=
  (accepted calls).getLast?.getD before

/-- The names that a registry was told. -/
def namesIn (s : Session) (r : RegistryId) : List String :=
  ((s.registries[r]?).map Registry.names).getD []

variable {s : Session} {c : ContextId} {r : RegistryId}

/-- The context is set before the registry is asked, whose refusal is only passed on. -/
theorem outcome_applyAttribute_registry {registry : Registry}
    (hr : s.registries[r]? = some registry) (name : String) :
    outcome (applyAttribute name (some c) (some r)) s =
      let t := (s.withAttribute c name).heard (attributeNote (s.attributeIn c) name)
      if registry.refuses then (.error .registryRefused, t)
      else
        let registry := { registry with names := registry.names ++ [name] }
        (.ok c, { t with registries := t.registries.set r registry }) := by
  have hcontext : outcome (contextOr (some c)) s = (.ok c, s) := rfl
  obtain ⟨refuses, names⟩ := registry
  rw [applyAttribute, outcome_bind_ok hcontext, outcome_bind_ok (outcome_setAttribute c name s)]
  dsimp only
  rw [outcome_bind, outcome_tellRegistry, heard_registries,
    show (s.withAttribute c name).registries = s.registries from rfl, hr]
  cases refuses <;> rfl

/-! ### One call -/

theorem registries_withRefusal {registry : Registry} (hr : s.registries[r]? = some registry)
    (refuses : Bool) :
    (s.withRefusal r refuses).registries[r]? = some { registry with refuses := refuses } := by
  rw [withRefusal, List.getElem?_modify_eq, hr]
  rfl

/-- What a call leaves: the context has the name, and the registry has it if it accepted it. -/
theorem called_eq {registry : Registry}
    (hr : s.registries[r]? = some registry) (call : Call) :
    (called c r s call).contexts = s.contexts.set c call.name ∧
    (called c r s call).registries[r]? =
      some ⟨call.refused, registry.names ++ accepted [call]⟩ := by
  obtain ⟨name, refused⟩ := call
  have htold := registries_withRefusal hr refused
  rw [called, outcome_applyAttribute_registry htold]
  generalize hn : attributeNote ((s.withRefusal r refused).attributeIn c) name = n
  have hcontexts := heard_contexts ((s.withRefusal r refused).withAttribute c name) n
  have hregistries := heard_registries ((s.withRefusal r refused).withAttribute c name) n
  cases refused with
  | true =>
    refine ⟨hcontexts, ?_⟩
    rw [if_pos rfl, hregistries]
    exact htold.trans (by rw [accepted]; simp)
  | false =>
    refine ⟨hcontexts, ?_⟩
    have hlt := (List.getElem?_eq_some_iff.1 htold).1
    dsimp only
    rw [if_neg Bool.false_ne_true, hregistries]
    exact List.getElem?_set_self hlt

/-! ### All calls -/

theorem afterCalls_cons (s : Session) (c : ContextId) (r : RegistryId) (call : Call)
    (rest : List Call) :
    s.afterCalls c r (call :: rest) = (called c r s call).afterCalls c r rest := rfl

theorem accepted_cons (call : Call) (rest : List Call) :
    accepted (call :: rest) = accepted [call] ++ accepted rest := by
  rw [accepted, accepted, accepted, ← List.map_append, ← List.filter_append]
  rfl

/-- The context has the last name, whether it was accepted or not, and the registry has all that it
accepted. -/
theorem afterCalls_eq {registry : Registry} (hc : c < s.contexts.length)
    (hr : s.registries[r]? = some registry) (calls : List Call) :
    (s.afterCalls c r calls).attributeIn c = (calls.getLast?.map Call.name).getD (s.attributeIn c) ∧
    (s.afterCalls c r calls).namesIn r = registry.names ++ accepted calls := by
  induction calls generalizing s registry with
  | nil =>
    refine ⟨rfl, ?_⟩
    rw [afterCalls, List.foldl_nil, namesIn, hr]
    exact (List.append_nil _).symm
  | cons call rest ih =>
    obtain ⟨hcontexts, hregistry⟩ := called_eq (c := c) hr call
    have hlt : c < (called c r s call).contexts.length := by rwa [hcontexts, List.length_set]
    have hname : (called c r s call).attributeIn c = call.name := by
      rw [attributeIn, hcontexts, List.getElem?_set_self hc]
      rfl
    obtain ⟨hattribute, hnames⟩ := ih hlt hregistry
    rw [afterCalls_cons]
    refine ⟨?_, ?_⟩
    · rw [hattribute, hname, List.getLast?_cons]
      cases rest.getLast? <;> rfl
    · rw [hnames, List.append_assoc, ← accepted_cons]

/-! ### Agreement -/

/-- The context and the registry agree exactly if the last call was accepted, or the name that was
refused is the one that they had before. -/
theorem agrees_iff {registry : Registry} (hc : c < s.contexts.length)
    (hr : s.registries[r]? = some registry) (calls : List Call) :
    (s.afterCalls c r calls).attributeIn c = lastAccepted (s.attributeIn c) calls ↔
      ∀ call, calls.getLast? = some call → call.refused = true →
        call.name = lastAccepted (s.attributeIn c) calls := by
  rw [(afterCalls_eq hc hr calls).1]
  rcases calls.eq_nil_or_concat with rfl | ⟨before, call, rfl⟩
  · exact ⟨fun _ _ h => (nomatch h), fun _ => rfl⟩
  · rw [List.concat_eq_append, List.getLast?_concat]
    constructor
    · rintro h _ ⟨⟩ -
      exact h
    · intro h
      cases hrefused : call.refused with
      | true => exact h call rfl hrefused
      | false =>
        rw [lastAccepted, accepted, List.filter_append]
        simp [hrefused]

/-- A session with one context and one registry, which nothing was told yet. -/
def pairStart : Session :=
  { start (.all 9) Environment.empty ⟨.directory [], ⟨.root, []⟩⟩ Log.Severity.warning [] with
    contexts := ["one"], registries := [⟨false, []⟩] }

/-- The statement for a call that is accepted and one that is refused: the two no longer agree. -/
theorem agrees_iff_refused_last :
    0 < pairStart.contexts.length ∧ pairStart.registries[0]? = some ⟨false, []⟩ ∧
    ¬ (pairStart.afterCalls 0 0 [⟨"two", false⟩, ⟨"three", true⟩]).attributeIn 0 =
      lastAccepted "one" [⟨"two", false⟩, ⟨"three", true⟩] := by
  have hc : 0 < pairStart.contexts.length := Nat.zero_lt_one
  have hr : pairStart.registries[0]? = some ⟨false, []⟩ := rfl
  refine ⟨hc, hr, fun h => ?_⟩
  have hlast := (agrees_iff hc hr [⟨"two", false⟩, ⟨"three", true⟩]).1 h _ rfl rfl
  exact absurd hlast (by decide)

/-- A call that a registry refuses fails, and leaves the context with the name that was refused, for
every later lookup to use. -/
theorem uses_refused {registry : Registry} (hc : c < s.contexts.length)
    (hr : s.registries[r]? = some registry) (hrefuses : registry.refuses = true) (name : String) :
    ∃ t, outcome (applyAttribute name (some c) (some r)) s = (.error .registryRefused, t) ∧
      t.namesIn r = s.namesIn r ∧ t.Uses (some c) name := by
  rw [outcome_applyAttribute_registry hr, if_pos hrefuses]
  refine ⟨_, rfl, ?_, uses_of_usedIn? ?_⟩
  · rw [namesIn, heard_registries]
    rfl
  · rw [usedIn?, Option.some_or, heard_contexts]
    exact List.getElem?_set_self hc

/-- A refused call does not leave the context as it was. -/
theorem refused_call_changes_attribute :
    ¬ ∀ (s : Session) (c : ContextId) (r : RegistryId) (name : String),
      (outcome (applyAttribute name (some c) (some r)) s).1 = .error .registryRefused →
      (outcome (applyAttribute name (some c) (some r)) s).2.attributeIn c = s.attributeIn c := by
  intro h
  have hchanged := h (pairStart.withRefusal 0 true) 0 0 "two" rfl
  exact absurd hchanged (by decide)

end ElementLookup.Session
