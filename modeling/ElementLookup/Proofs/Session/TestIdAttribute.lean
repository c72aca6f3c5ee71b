/-
**The attribute that lookups by test id use.**

A lookup by test id asks for the attribute of its builder's context when it is answered, and so does
every query and every document that has no attribute of its own.  Whatever was done in a session
before, by whomever and in whatever order, they use the name that was written last to that very
context.  Who has no context uses the shared one, of which there is one only.

Main definitions:

* `Session.Supplies` — a step that gives a name, however often it is asked;
* `Session.Uses` — what the answers are if a context has a certain attribute;
* `Session.usedIn?` — the attribute of the given or the shared context;
* `Session.Remembers` — what can be said of a session from the history that led to it.

Main results:

* `Session.uses_of_usedIn?` — all answers use the attribute of the builder's context;
* `Session.uses_of_made`, `Session.attributeIn_of_unwritten` — a context that was just made, and one
  that is not written to;
* `Session.remembers_after` — **the attribute that is used is the one that was written last**.
-/

import ElementLookup.Proofs.Session.Answers
import ElementLookup.Proofs.Session.History

set_option autoImplicit false

namespace ElementLookup.Session

/-! ### Answers under an attribute -/

/-- A step that gives a name, and gives it again when it is asked again. -/
def Supplies (step : SessionM String) (name : String) (s : Session) : Prop :=
  ∃ t, outcome step s = (.ok name, t) ∧ outcome step t = (.ok name, t)

/-- What the answers by test id are to those who use a context that has a certain attribute. -/
structure Uses (s : Session) (c : Option ContextId) (name : String) : Prop where
  /-- A builder gives the selector with that attribute. -/
  selector : ∀ v t, v.toTextValue = .ok t →
    (outcome (lookup ⟨.answer, c⟩ (.byText .testId v none)) s).1 =
      .ok (.selector (Selector.byAttribute name t true))
  /-- A page is asked for that selector. -/
  located : ∀ p v t, v.toTextValue = .ok t →
    (outcome (lookup ⟨.page p, c⟩ (.byText .testId v none)) s).1 =
      .ok (.located p (Selector.byAttribute name t true))
  /-- A query is compiled with that attribute. -/
  query : ∀ q, q.isOverlong = false → (outcome (compileQuery c q) s).1 = .ok (q.selector name)
  /-- A page is asked for the selector of a query with that attribute. -/
  resolved : ∀ p q, q.isOverlong = false →
    (outcome (resolve p c q) s).1 = .ok (.located p (q.selector name))
  /-- A document is compiled with that attribute, unless it has one of its own. -/
  document : ∀ d, (∀ q ∈ d.queries, q.isOverlong = false) →
    (outcome (compileDocument c d) s).1 =
      .ok (d.queries.map fun q => q.selector (d.testIdAttribute.getD name))

variable {step : SessionM String} {name : String} {s : Session}

/-- A step that supplies a name comes to it in the sessions from which it leads to the same one. -/
theorem Supplies.exists_yields (h : Supplies step name s) :
    ∃ I : Session → Prop, I s ∧ Yields I step (.ok name) := by
  obtain ⟨t, hs, ht⟩ := h
  exact ⟨fun u => outcome step u = (.ok name, t), hs, fun u hu => ⟨t, hu, ht⟩⟩

/-- A query is compiled under the name that is supplied. -/
theorem Supplies.compileUnder (h : Supplies step name s) {q : Query} (hq : q.isOverlong = false) :
    ∃ t, outcome (compileUnder step q) s = (.ok (q.selector name), t) := by
  obtain ⟨I, hs, hyields⟩ := h.exists_yields
  obtain ⟨t, ht, -⟩ := hyields.compileUnder q s hs
  rw [Query.compiled_of_short hq] at ht
  exact ⟨t, ht⟩

/-- The selector of a lookup by test id has the attribute of the builder's context. -/
theorem Supplies.selectorOf {c : Option ContextId} (h : Supplies (builderAttribute c) name s)
    {v : Value} {t : TextValue} (hv : v.toTextValue = .ok t) :
    ∃ u, outcome (selectorOf c (.byText .testId v none)) s =
      (.ok (Selector.byAttribute name t true), u) := by
  obtain ⟨u, hu, -⟩ := h
  have hcompile : outcome ((Lookup.byText .testId v none).compile (builderAttribute c)) s =
      (.ok (.ok (Selector.byAttribute name t true)), u) := by
    refine (outcome_bind_ok hu _).trans ?_
    rw [hv]
    rfl
  exact ⟨u, outcome_bind_ok hcompile _⟩

/-- Whoever asks a builder for the attribute uses what it supplies. -/
theorem Supplies.uses {c : Option ContextId} (h : Supplies (builderAttribute c) name s) :
    s.Uses c name where
  selector v t hv := by
    obtain ⟨u, hu⟩ := h.selectorOf hv
    rw [lookup, outcome_bind_ok hu]
    rfl
  located p v t hv := by
    obtain ⟨u, hu⟩ := h.selectorOf hv
    rw [lookup, outcome_bind_ok hu]
    rfl
  query q hq := by
    obtain ⟨u, hu⟩ := h.compileUnder hq
    rw [compileQuery, hu]
  resolved p q hq := by
    obtain ⟨u, hu⟩ := h.compileUnder hq
    rw [resolve, compileQuery, outcome_bind_ok hu]
    rfl
  document d hd := by
    obtain ⟨I, hs, hyields⟩ := h.exists_yields
    obtain ⟨t, ht, -⟩ := hyields.compileDocument d s hs
    rw [ht]
    exact Query.mapM_compiled_of_short hd _

/-! ### The attribute of a context -/

/-- The attribute of the given or the shared context, or what the shared one would begin with. -/
def usedIn? (s : Session) (c : Option ContextId) : Option String :=
  match c.or s.shared with
  | some d => s.contexts[d]?
  | none => s.view.first?

theorem supplies_of_usedIn? {c : Option ContextId} (h : s.usedIn? c = some name) :
    Supplies (builderAttribute c) name s := by
  rw [usedIn?] at h
  have hfor : ∀ {t : Session} {d : ContextId}, c.or t.shared = some d →
      t.contexts[d]? = some name → outcome (builderAttribute c) t = (.ok name, t) := by
    intro t d hd hname
    rw [builderAttribute, outcome_bind_ok (outcome_contextOr_of_or hd), outcome_attributeOf,
      attributeIn, hname]
    rfl
  cases hd : c.or s.shared with
  | some d =>
    rw [hd] at h
    exact ⟨s, hfor hd h, hfor hd h⟩
  | none =>
    rw [hd] at h
    obtain ⟨rfl, hshared⟩ := Option.or_eq_none_iff.1 hd
    -- the shared context is opened by the first answer, and used by the second
    obtain ⟨t, houtcome, hview, hused⟩ := outcome_contextOr none s
    rw [if_pos rfl, Contexts.opened_of_first? (v := s.view) hshared h] at hview
    have hopened : (none : Option ContextId).or t.shared = some s.contexts.length :=
      congrArg Contexts.shared hview
    have hname : t.contexts[s.contexts.length]? = some name := by
      rw [show t.contexts = s.contexts ++ [name] from congrArg Contexts.attributes hview]
      exact List.getElem?_concat_length
    refine ⟨t, ?_, hfor hopened hname⟩
    cases hfault : s.contextFor none with
    | error fault =>
      rw [hopened, hfault] at hused
      exact (Option.some_ne_none _ hused).elim
    | ok d =>
      rw [hopened, hfault] at hused
      rw [hfault, ← Option.some.inj hused] at houtcome
      rw [builderAttribute, outcome_bind_ok houtcome, outcome_attributeOf, attributeIn, hname]
      rfl

theorem uses_of_usedIn? {c : Option ContextId} (h : s.usedIn? c = some name) : s.Uses c name :=
  (supplies_of_usedIn? h).uses

theorem getElem?_of_named? {c : ContextId} (hc : c < s.contexts.length)
    (h : s.view.named? c = some name) : s.contexts[c]? = some name := by
  rw [Contexts.named?_of_lt (v := s.view) hc] at h
  rw [List.getElem?_eq_getElem hc]
  exact h

theorem uses_of_named? {c : ContextId} (hc : c < s.contexts.length)
    (h : s.view.named? c = some name) : s.Uses (some c) name :=
  uses_of_usedIn? (getElem?_of_named? hc h)

/-- Whoever has no context uses the shared one. -/
theorem uses_none_of_named? {c : ContextId} (hshared : s.shared = some c)
    (hc : c < s.contexts.length) (h : s.view.named? c = some name) : s.Uses none name := by
  refine uses_of_usedIn? ?_
  rw [usedIn?, Option.none_or, hshared]
  exact getElem?_of_named? hc h

/-- Whoever has no context would use the shared one as it would begin. -/
theorem uses_none_of_first? (hshared : s.shared = none) (h : s.view.first? = some name) :
    s.Uses none name := by
  refine uses_of_usedIn? ?_
  rw [usedIn?, Option.none_or, hshared]
  exact h

theorem first?_of_available {settings : Settings} (h : s.available = .ok settings) :
    s.view.first? = some settings.testIdAttribute := by
  rw [view, h]
  rfl

/-! ### The shared context -/

/-- Whoever asks for the shared context makes it the one that is shared. -/
theorem shared_of_asked {c : ContextId} (h : (outcome defaultContext s).1 = .ok c) :
    (outcome defaultContext s).2.shared = some c := by
  obtain ⟨t, houtcome, -, hused⟩ := outcome_contextOr none s
  rw [show defaultContext = contextOr none from rfl, houtcome] at h ⊢
  rw [show s.contextFor none = .ok c from h] at hused
  exact hused

/-- Whoever applies a name without naming a context writes it to the shared one. -/
theorem attributeIn_of_applied {r : Option RegistryId} {c : ContextId} (hsound : s.view.Sound)
    (h : (outcome (applyAttribute name none r) s).1 = .ok c) :
    (outcome (applyAttribute name none r) s).2.shared = some c ∧
      (outcome (applyAttribute name none r) s).2.attributeIn c = name := by
  obtain ⟨answer, t, houtcome, hview, hused⟩ := outcome_applyAttribute name none r s
  rw [houtcome] at h ⊢
  rw [if_pos rfl] at hview
  have hshared : t.shared = some c := hused c h
  have hopened : s.view.opened.shared = some c := by
    rw [← Contexts.write_shared _ none name, ← hview]
    exact hshared
  have hlt := hsound.opened c hopened
  refine ⟨hshared, ?_⟩
  rw [attributeIn_eq, hview, Contexts.write, Option.none_or, hopened]
  exact congrArg (Option.getD · _) (List.getElem?_set_self hlt)

/-! ### The attribute that was written last -/

/-- What can be said of a session from the history that led to it. -/
structure Remembers (s₀ : Session) (ops : List Operation) (s : Session) : Prop where
  /-- A context from before the history is used with the name that was written to it last, or else
  with the attribute that it had. -/
  held : ∀ c < s₀.contexts.length,
    s.Uses (some c) ((latest? s.shared (some c) ops).getD (s₀.attributeIn c))
  /-- A context that was made in its course is used with the name that was written to it last since
  then, or else with the attribute that it was made with. -/
  made : ∀ before name later c, ops = before ++ .newContext name :: later →
    (outcome (newContext name) (s₀.after before)).1 = .ok c →
    s.Uses (some c) ((latest? s.shared (some c) later).getD name)
  /-- Whoever has no context uses the shared one, which is still the one that it was before the
  history. -/
  shared : ∀ c, s₀.shared = some c →
    s.shared = some c ∧ s.Uses none ((latest? s.shared none ops).getD (s₀.attributeIn c))
  /-- If there was none before, the shared one begins with the attribute that the settings name, and
  whoever holds it uses the same. -/
  opened : ∀ settings, s₀.shared = none → s₀.available = .ok settings →
    s.Uses none ((latest? s.shared none ops).getD settings.testIdAttribute) ∧
    ∀ c, s.shared = some c →
      s.Uses (some c) ((latest? s.shared none ops).getD settings.testIdAttribute)
  /-- There is one shared context: whenever there was one in the course of the history, it is what
  whoever asks for it is given. -/
  single : ∀ before later c, ops = before ++ later → (s₀.after before).shared = some c →
    outcome defaultContext s = (.ok c, s)
  /-- Whoever asks for the shared context makes it the one that is shared. -/
  asked : ∀ c, (outcome defaultContext s).1 = .ok c → (outcome defaultContext s).2.shared = some c
  /-- Whoever applies a name without naming a context writes it to the shared one. -/
  applied : ∀ name r c, (outcome (applyAttribute name none r) s).1 = .ok c →
    (outcome (applyAttribute name none r) s).2.shared = some c ∧
    (outcome (applyAttribute name none r) s).2.attributeIn c = name
  /-- An operation in its course changed no attribute but that of the context that it wrote to. -/
  unchanged : ∀ before op later c, ops = before ++ op :: later →
    c < (s₀.after before).contexts.length → op.written? s.shared (some c) = none →
    (op.after (s₀.after before)).attributeIn c = (s₀.after before).attributeIn c

variable {s₀ : Session} {ops : List Operation}

theorem named?_of_lt {c : ContextId} (hc : c < s.contexts.length) :
    s.view.named? c = some (s.attributeIn c) := by
  rw [Contexts.named?_of_lt (v := s.view) hc, attributeIn, List.getElem?_eq_getElem hc]
  rfl

/-- A context has the name that was written to it last, or else the attribute that it had. -/
theorem named?_after_of_lt {c : ContextId} (hsound : s₀.view.Sound) (hops : s₀.Admits ops)
    (hc : c < s₀.contexts.length) :
    (s₀.after ops).view.named? c =
      some ((latest? (s₀.after ops).shared (some c) ops).getD (s₀.attributeIn c)) := by
  rw [named?_after hsound hops (.inl hc), named?_of_lt hc, Option.or_some]

/-- The shared context has the name that was written to it last, or else the attribute that the
settings name. -/
theorem named?_after_of_opened {settings : Settings} {c : ContextId} (hsound : s₀.view.Sound)
    (hops : s₀.Admits ops) (hnone : s₀.shared = none) (hsettings : s₀.available = .ok settings)
    (hc : (s₀.after ops).shared = some c) :
    (s₀.after ops).view.named? c =
      some ((latest? (s₀.after ops).shared none ops).getD settings.testIdAttribute) := by
  have hle : s₀.contexts.length ≤ c :=
    ((Contexts.foretells_of_none (v := s₀.view) hnone _).1 (s₀.foretells_after ops) c hc).1
  rw [named?_after hsound hops (.inr hc), Contexts.named?_of_le (v := s₀.view) hle,
    first?_of_available hsettings, Option.or_some, hc]
  rfl

/-- A context that was just made is used with the name that is written to it last, or else with the
attribute that it was made with: from here on, what follows is a history of its own. -/
theorem uses_of_made (hsound : s.view.Sound) (hops : s.Admits (.newContext name :: ops)) :
    (s.after (.newContext name :: ops)).Uses (some s.contexts.length)
      ((latest? (s.after (.newContext name :: ops)).shared (some s.contexts.length) ops).getD
        name) := by
  have hmoves := (Operation.newContext name).moves_view s
  have hlt : s.contexts.length < ((Operation.newContext name).after s).contexts.length := by
    simp [Operation.after]
  have hname : ((Operation.newContext name).after s).attributeIn s.contexts.length = name := by
    simp [Operation.after, attributeIn]
  have h := named?_after_of_lt (hmoves.sound hsound) hops.2 hlt
  rw [hname] at h
  rw [after_cons]
  exact uses_of_named? (Nat.lt_of_lt_of_le hlt (length_le_after _ ops)) h

/-- An operation changes no attribute but that of the context that it writes to. -/
theorem attributeIn_of_unwritten {op : Operation} {c : ContextId} (hsound : s.view.Sound)
    (hops : s.Admits (op :: ops)) (hc : c < s.contexts.length)
    (hwritten : op.written? (s.after (op :: ops)).shared (some c) = none) :
    (op.after s).attributeIn c = s.attributeIn c := by
  have hmoves := op.moves_view s
  have h := hmoves.named?_eq hsound (foretells_after (op.after s) ops) hops.1 (.inl hc)
  rw [after_cons] at hwritten
  rw [hwritten, Option.none_or, named?_of_lt hc,
    named?_of_lt (Nat.lt_of_lt_of_le hc hmoves.length_le)] at h
  exact Option.some.inj h

/-- The attribute that is used is the one that was written last to the context in question. -/
theorem remembers_after (hsound : s₀.view.Sound) (hops : s₀.Admits ops) :
    s₀.Remembers ops (s₀.after ops) where
  held c hc := uses_of_named? (Nat.lt_of_lt_of_le hc (s₀.length_le_after ops))
    (named?_after_of_lt hsound hops hc)
  made before name later c hsplit hmade := by
    cases hmade
    subst hsplit
    rw [after_append]
    exact uses_of_made (sound_after hsound before) hops.of_append
  shared c hc := by
    have hlt := hsound c hc
    have hshared := shared_after hc ops
    have h := named?_after_of_lt hsound hops hlt
    rw [hshared] at h ⊢
    exact ⟨rfl, uses_none_of_named? hshared (Nat.lt_of_lt_of_le hlt (s₀.length_le_after ops)) h⟩
  opened settings hnone hsettings := by
    have hfirst := first?_of_available hsettings
    cases hshared : (s₀.after ops).shared with
    | some c =>
      have hlt := sound_after hsound ops c hshared
      have h := named?_after_of_opened hsound hops hnone hsettings hshared
      rw [hshared] at h
      exact ⟨uses_none_of_named? hshared hlt h, fun d hd => by cases hd; exact uses_of_named? hlt h⟩
    | none =>
      -- nobody wrote to the shared context, for that would have opened it
      refine ⟨uses_none_of_first? hshared ?_, fun c hc => (Option.some_ne_none c hc.symm).elim⟩
      rw [latest?_of_unshared hshared (by rw [hfirst]; exact Option.some_ne_none _)]
      exact (s₀.first?_after ops).trans hfirst
  single before later c hsplit hc := by
    subst hsplit
    rw [after_append]
    exact outcome_contextOr_of_or (c := none) (shared_after hc later)
  asked _ hc := shared_of_asked hc
  applied _ _ _ hc := attributeIn_of_applied (sound_after hsound ops) hc
  unchanged before op later c hsplit hc hwritten := by
    subst hsplit
    rw [after_append] at hwritten
    exact attributeIn_of_unwritten (sound_after hsound before) hops.of_append hc hwritten

/-- A session whose settings were loaded before anything else was done. -/
def settledStart : Session :=
  { start (.all 9) Environment.empty ⟨.directory [], ⟨.root, []⟩⟩ Log.Severity.warning [] with
    loaded := some ⟨"data-test", ⟨.root, ["queries"]⟩, .info, false, ⟨.root, ["log"]⟩, true⟩ }

/-- A history in which the shared context is opened in passing, by a lookup, and then written by one
who names none and by one who holds it, while another context and a document have attributes of
their own. -/
def mixedHistory : List Operation :=
  [.newContext "data-own", .lookup ⟨.answer, none⟩ (.byText .testId (.text "a") none),
    .applyAttribute "data-applied" none none, .setAttribute 0 "data-mine",
    .setAttribute 1 "data-late",
    .compileDocument none
      ⟨"1", none, some "data-document", [.text ⟨.testId, none, .literal "a", false⟩]⟩]

/-- The statement for these two. -/
theorem remembers_after_mixedHistory :
    settledStart.view.Sound ∧ settledStart.Admits mixedHistory ∧
    settledStart.Remembers mixedHistory (settledStart.after mixedHistory) ∧
    (settledStart.after mixedHistory).Uses none "data-late" ∧
    (settledStart.after mixedHistory).Uses (some 0) "data-mine" := by
  have hsound : settledStart.view.Sound := nofun
  have hadmits : settledStart.Admits mixedHistory := by
    refine ⟨nofun, nofun, nofun, ?_, ?_, nofun, trivial⟩
    · rintro c ⟨⟩
      exact Nat.zero_lt_two
    · rintro c ⟨⟩
      exact Nat.one_lt_two
  have h := remembers_after hsound hadmits
  refine ⟨hsound, hadmits, h, ?_, ?_⟩
  · exact (h.opened _ rfl rfl).1
  · exact h.made [] "data-own" _ 0 rfl rfl

end ElementLookup.Session
