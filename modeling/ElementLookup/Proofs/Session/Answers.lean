/-
**Steps that come to a known answer.**

Many a step comes to the same answer in all sessions of a class, and leaves a session of that class
behind: whoever compiles queries may open the shared context on the way, but gets the same selectors
before and after.  Such a step is as good as its answer.  Steps put together from such steps are of
this kind again, so a document is compiled query by query, whatever has gone before.

Main definitions:

* `Session.Yields` — a step comes to an answer in all sessions of a class, and keeps the class;
* `Session.Settles` — a step comes to some answer, the same in all sessions of a class;
* `Query.compiled` — what a query comes to under an attribute for test ids.

Main results:

* `Session.Yields.bind`, `Session.Yields.mapM` — steps one after the other;
* `Session.Yields.compileUnder`, `Session.Yields.compileDocument` — **queries and documents come to
  their selectors**, unless a level cannot be written;
* `Session.yields_builderAttribute` — a given context has its attribute, and nothing changes.
-/

import ElementLookup.Proofs.Session.Outcome

set_option autoImplicit false

namespace ElementLookup

/-! ### What queries come to -/

/-- What a query comes to under an attribute for test ids: its selector, unless its level cannot be
written. -/
def Query.compiled (name : String) (q : Query) : Except Fault String :=
  if q.isOverlong then .error .overlongLevel else .ok (q.selector name)

theorem Query.compiled_of_short {q : Query} (h : q.isOverlong = false) (name : String) :
    q.compiled name = .ok (q.selector name) := by
  rw [compiled, h]
  rfl

theorem Query.compiled_of_overlong {q : Query} (h : q.isOverlong = true) (name : String) :
    q.compiled name = .error .overlongLevel := by
  rw [compiled, if_pos h]

/-- Queries whose levels can be written come to their selectors. -/
theorem Query.mapM_compiled_of_short {qs : List Query} (h : ∀ q ∈ qs, q.isOverlong = false)
    (name : String) : qs.mapM (Query.compiled name) = .ok (qs.map fun q => q.selector name) := by
  induction qs with
  | nil => rfl
  | cons q r ih =>
    rw [List.forall_mem_cons] at h
    rw [List.mapM_cons, compiled_of_short h.1, ih h.2]
    rfl

/-- If there is only one fault that steps can come to, and one of them does, so do all together. -/
theorem mapM_eq_error {α β ε : Type} {g : α → Except ε β} {e : ε} {l : List α}
    (h : ∀ a ∈ l, ∀ e', g a = .error e' → e' = e) (hex : ∃ a ∈ l, g a = .error e) :
    l.mapM g = .error e := by
  induction l with
  | nil => simp at hex
  | cons a r ih =>
    rw [List.forall_mem_cons] at h
    rw [List.mapM_cons]
    cases ha : g a with
    | error e' =>
      rw [h.1 e' ha]
      rfl
    | ok b =>
      have hr : ∃ a ∈ r, g a = .error e := by simpa [ha] using hex
      rw [ih h.2 hr]
      rfl

/-- One level that cannot be written is enough for queries to come to nothing. -/
theorem Query.mapM_compiled_of_overlong {qs : List Query} (h : ∃ q ∈ qs, q.isOverlong = true)
    (name : String) : qs.mapM (Query.compiled name) = .error .overlongLevel := by
  obtain ⟨q, hq, hlong⟩ := h
  refine mapM_eq_error (fun r _ e' he => ?_) ⟨q, hq, compiled_of_overlong hlong name⟩
  rw [compiled] at he
  split at he
  · exact (Except.error.inj he).symm
  · exact nomatch he

namespace Session

variable {α β : Type} {I : Session → Prop}

/-! ### Steps -/

/-- A step comes to a result in all sessions of a class, and leaves a session of that class. -/
def Yields (I : Session → Prop) (step : SessionM α) (result : Except Fault α) : Prop :=
  ∀ s, I s → ∃ t, outcome step s = (result, t) ∧ I t

theorem Yields.pure (a : α) : Yields I (pure a : SessionM α) (.ok a) := fun s hs => ⟨s, rfl, hs⟩

theorem Yields.throw (fault : Fault) : Yields I (throw fault : SessionM α) (.error fault) :=
  fun s hs => ⟨s, rfl, hs⟩

theorem Yields.bind {x : SessionM α} {f : α → SessionM β} {a : α} {result : Except Fault β}
    (hx : Yields I x (.ok a)) (hf : Yields I (f a) result) : Yields I (x >>= f) result := by
  intro s hs
  obtain ⟨t, ht, hI⟩ := hx s hs
  rw [outcome_bind_ok ht]
  exact hf t hI

theorem Yields.bind_error {x : SessionM α} {fault : Fault} (hx : Yields I x (.error fault))
    (f : α → SessionM β) : Yields I (x >>= f) (.error fault) := by
  intro s hs
  obtain ⟨t, ht, hI⟩ := hx s hs
  exact ⟨t, outcome_bind_error ht f, hI⟩

/-- Steps for the members of a list come to what they come to one by one, up to the first fault. -/
theorem Yields.mapM {f : α → SessionM β} {g : α → Except Fault β} {l : List α}
    (h : ∀ a ∈ l, Yields I (f a) (g a)) : Yields I (l.mapM f) (l.mapM g) := by
  induction l with
  | nil => exact .pure []
  | cons a r ih =>
    rw [List.forall_mem_cons] at h
    obtain ⟨ha, hr⟩ := h
    rw [List.mapM_cons, List.mapM_cons]
    cases hg : g a with
    | error fault =>
      rw [hg] at ha
      exact ha.bind_error _
    | ok b =>
      rw [hg] at ha
      refine ha.bind ?_
      have hrest := ih hr
      cases hgs : r.mapM g with
      | error fault =>
        rw [hgs] at hrest
        exact hrest.bind_error _
      | ok bs =>
        rw [hgs] at hrest
        exact hrest.bind (.pure (b :: bs))

/-! ### Some answer -/

/-- A step comes to one and the same answer in all sessions of a class. -/
def Settles (I : Session → Prop) (step : SessionM α) : Prop :=
  ∃ result, Yields I step result

theorem Settles.pure (a : α) : Settles I (pure a : SessionM α) := ⟨_, .pure a⟩

theorem Settles.throw (fault : Fault) : Settles I (throw fault : SessionM α) := ⟨_, .throw fault⟩

theorem Settles.bind {x : SessionM α} {f : α → SessionM β} (hx : Settles I x)
    (hf : ∀ a, Settles I (f a)) : Settles I (x >>= f) := by
  obtain ⟨result, hresult⟩ := hx
  cases result with
  | error fault => exact ⟨_, hresult.bind_error f⟩
  | ok a =>
    obtain ⟨answer, hanswer⟩ := hf a
    exact ⟨answer, hresult.bind hanswer⟩

theorem Settles.mapM {f : α → SessionM β} {l : List α} (h : ∀ a ∈ l, Settles I (f a)) :
    Settles I (l.mapM f) := by
  induction l with
  | nil => exact .pure []
  | cons a r ih =>
    rw [List.forall_mem_cons] at h
    rw [List.mapM_cons]
    exact h.1.bind fun b => (ih h.2).bind fun bs => .pure (b :: bs)

/-! ### Queries and documents -/

/-- A query is compiled under the name that a step comes to. -/
theorem Yields.compileUnder {step : SessionM String} {name : String}
    (h : Yields I step (.ok name)) (q : Query) :
    Yields I (compileUnder step q) (q.compiled name) := by
  rw [Session.compileUnder]
  cases hlong : q.isOverlong with
  | true =>
    rw [Query.compiled_of_overlong hlong]
    exact (Yields.throw .overlongLevel).bind_error _
  | false =>
    rw [Query.compiled_of_short hlong]
    change Yields I (q.compile step) _
    cases q with
    | role q => exact .pure _
    | text q =>
      rw [Query.selector, Query.compile, Query.compile]
      by_cases hkind : q.kind = .testId
      · rw [TextKind.attributeFor, TextKind.attributeFor, if_pos hkind, if_pos hkind]
        exact h.bind (.pure _)
      · rw [TextKind.attributeFor_of_ne hkind, TextKind.attributeFor_of_ne hkind]
        exact .pure _

/-- The attribute of a document is its own, or else the one that a step comes to. -/
theorem Yields.attributeOr {step : SessionM String} {name : String}
    (h : Yields I step (.ok name)) (d : QueryDocument) :
    Yields I (d.attributeOr step) (.ok (d.testIdAttribute.getD name)) := by
  rw [QueryDocument.attributeOr]
  cases d.testIdAttribute with
  | some own => exact .pure own
  | none => exact h

/-- A document comes to what its queries come to. -/
theorem Yields.compileDocument {c : Option ContextId} {name : String}
    (h : Yields I (builderAttribute c) (.ok name)) (d : QueryDocument) :
    Yields I (compileDocument c d)
      (d.queries.mapM (Query.compiled (d.testIdAttribute.getD name))) :=
  .mapM fun q _ => (h.attributeOr d).compileUnder q

/-! ### A given context -/

/-- Whoever is given a context uses its attribute, and nothing changes. -/
theorem yields_builderAttribute (s : Session) (c : ContextId) :
    Yields (· = s) (builderAttribute (some c)) (.ok (s.attributeIn c)) := by
  rintro _ rfl
  exact ⟨_, rfl, rfl⟩

/-- What a step comes to in one session, which it leaves as it is. -/
theorem Yields.outcome_eq {step : SessionM α} {result : Except Fault α} {s : Session}
    (h : Yields (· = s) step result) : outcome step s = (result, s) := by
  obtain ⟨t, ht, rfl⟩ := h s rfl
  exact ht

end Session

end ElementLookup
