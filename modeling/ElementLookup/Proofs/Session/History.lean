/-
**What a history of operations leaves of contexts.**

Contexts are written by several hands: whoever holds one may set its attribute, and so may whoever
applies a name without naming a context, which then means the shared one.  The shared context may be
opened in passing, by an operation that only reads.  All the same it can be said from the history
alone what attribute a context has: the name that was written to it last, and failing that the one
that it began with.  Whether an operation wrote to the shared context is judged in hindsight, for
which context is the shared one is settled once and for all.

Main definitions:

* `Session.Operation`, `Session.Operation.after` — operations, and the session after one;
* `Session.after`, `Session.Admits` — histories, and those that name only contexts that exist;
* `Session.Operation.written?`, `Session.latest?` — the name that an operation writes to a context,
  and the last one that a history does;
* `Contexts.named?` — the attribute of a context, or what it would begin with;
* `Contexts.Foretells` — which context may yet become the shared one.

Main results:

* `Session.Operation.view_after` — what one operation does to contexts;
* `Session.Operation.Moves.named?` — it changes the attribute of a context to what it writes there;
* `Session.shared_after` — the shared context stays the same;
* `Session.named?_after` — **a context has the attribute that was written to it last**.
-/

import ElementLookup.Proofs.Session.Contexts

set_option autoImplicit false

namespace ElementLookup

/-! ### Contexts that are or may yet be -/

namespace Contexts

/-- The shared context exists. -/
def Sound (v : Contexts) : Prop :=
  ∀ c, v.shared = some c → c < v.attributes.length

/-- The attribute of a context; one that does not exist yet may become the shared one. -/
def named? (v : Contexts) (c : ContextId) : Option String :=
  v.attributes[c]?.or v.first?

/-- Which context may be the shared one in the end: the one that is, or one that is yet to be opened
with an attribute from the settings. -/
def Foretells (v : Contexts) (shared : Option ContextId) : Prop :=
  match v.shared with
  | some c => shared = some c
  | none => ∀ c, shared = some c → v.attributes.length ≤ c ∧ v.first? ≠ none

theorem foretells_shared (v : Contexts) : v.Foretells v.shared := by
  rw [Foretells]
  cases v.shared with
  | some c => rfl
  | none => exact fun c hc => nomatch hc

theorem foretells_of_some {v : Contexts} {c : ContextId} (h : v.shared = some c)
    (shared : Option ContextId) : v.Foretells shared ↔ shared = some c := by
  rw [Foretells, h]

theorem foretells_of_none {v : Contexts} (h : v.shared = none) (shared : Option ContextId) :
    v.Foretells shared ↔ ∀ c, shared = some c → v.attributes.length ≤ c ∧ v.first? ≠ none := by
  rw [Foretells, h]

theorem named?_of_lt {v : Contexts} {c : ContextId} (h : c < v.attributes.length) :
    v.named? c = some v.attributes[c] := by
  rw [named?, List.getElem?_eq_getElem h]
  rfl

theorem named?_of_le {v : Contexts} {c : ContextId} (h : v.attributes.length ≤ c) :
    v.named? c = v.first? := by
  rw [named?, List.getElem?_eq_none h]
  rfl

/-! ### Changes of contexts -/

@[simp] theorem write_shared (v : Contexts) (c : Option ContextId) (name : String) :
    (v.write c name).shared = v.shared := by
  rw [write]
  split <;> rfl

@[simp] theorem write_first? (v : Contexts) (c : Option ContextId) (name : String) :
    (v.write c name).first? = v.first? := by
  rw [write]
  split <;> rfl

@[simp] theorem length_write (v : Contexts) (c : Option ContextId) (name : String) :
    (v.write c name).attributes.length = v.attributes.length := by
  rw [write]
  split <;> simp [set]

/-- A new context changes no other one. -/
theorem named?_add {v : Contexts} {c : ContextId} (h : c ≠ v.attributes.length) (name : String) :
    (v.add name).named? c = v.named? c := by
  rcases Nat.lt_or_gt_of_ne h with hlt | hgt
  · rw [named?, add, List.getElem?_append_left hlt, named?]
  · rw [named?_of_le (Nat.le_of_lt hgt), named?_of_le (by simpa [add] using Nat.succ_le_of_lt hgt)]
    rfl

theorem named?_set_self {v : Contexts} {c : ContextId} (h : c < v.attributes.length)
    (name : String) : (v.set c name).named? c = some name := by
  rw [named?, set, List.getElem?_set_self h]
  rfl

theorem named?_set_ne {v : Contexts} {c d : ContextId} (h : d ≠ c) (name : String) :
    (v.set d name).named? c = v.named? c := by
  rw [named?, set, List.getElem?_set_ne h, named?]

/-- The shared context begins with what it was said to begin with. -/
theorem named?_opened (v : Contexts) (c : ContextId) : v.opened.named? c = v.named? c := by
  rcases v.opened_cases with ⟨h, -⟩ | ⟨name, -, hfirst, h⟩
  · rw [h]
  · rw [h, share]
    by_cases hc : c = v.attributes.length
    · subst hc
      rw [named?_of_le (Nat.le_refl _), hfirst, named?_of_lt (by simp [add])]
      simp [add]
    · exact named?_add hc name

theorem Sound.opened {v : Contexts} (h : v.Sound) : v.opened.Sound := by
  rcases v.opened_cases with ⟨heq, -⟩ | ⟨name, -, -, heq⟩
  · rwa [heq]
  · rw [heq]
    rintro c ⟨⟩
    simp [share, add]

theorem length_le_opened (v : Contexts) :
    v.attributes.length ≤ v.opened.attributes.length := by
  rcases v.opened_cases with ⟨h, -⟩ | ⟨name, -, -, h⟩ <;> simp [h, share, add]

/-- A context that is, or may yet be the shared one, is not the one that comes next. -/
theorem ne_length_of_known {v : Contexts} {shared : Option ContextId} {c : ContextId}
    {name : String} (hsound : v.Sound) (hshared : (v.add name).Foretells shared)
    (hc : c < v.attributes.length ∨ shared = some c) : c ≠ v.attributes.length := by
  rcases hc with hlt | rfl
  · exact Nat.ne_of_lt hlt
  · cases hv : v.shared with
    | some d =>
      obtain rfl : c = d := Option.some.inj ((foretells_of_some (v := v.add name) hv _).1 hshared)
      exact Nat.ne_of_lt (hsound c hv)
    | none =>
      have hle := ((foretells_of_none (v := v.add name) hv _).1 hshared c rfl).1
      exact Nat.ne_of_gt (Nat.lt_of_succ_le (by simpa [add] using hle))

/-- A name goes to the context that is meant, and no other context changes.  If the shared context
is meant and cannot be opened, there will never be one. -/
theorem named?_write {v : Contexts} {shared c : Option ContextId} (hsound : v.Sound)
    (hshared : v.Foretells shared) (hc : ∀ d, c = some d → d < v.attributes.length)
    (hopen : c = none → v.shared = none → v.first? = none) (name : String) (d : ContextId) :
    (v.write c name).named? d =
      (if c.or shared = some d then some name else none).or (v.named? d) := by
  cases hmeant : c.or v.shared with
  | some e =>
    have hlt : e < v.attributes.length := by
      cases c with
      | some c => exact hc e hmeant
      | none => exact hsound e hmeant
    have hlater : c.or shared = some e := by
      cases c with
      | some c => exact hmeant
      | none => exact (foretells_of_some hmeant shared).1 hshared
    rw [write, hmeant, hlater]
    by_cases hd : e = d
    · subst hd
      rw [if_pos rfl]
      exact named?_set_self hlt name
    · rw [if_neg (by simpa using hd)]
      exact named?_set_ne hd name
  | none =>
    obtain ⟨rfl, hnone⟩ := Option.or_eq_none_iff.1 hmeant
    have hnever : (none : Option ContextId).or shared ≠ some d := fun h =>
      ((foretells_of_none hnone shared).1 hshared d h).2 (hopen rfl hnone)
    rw [write, hmeant, if_neg hnever]
    rfl

/-- What is foretold after the shared context was opened was so before. -/
theorem Foretells.of_opened {v : Contexts} {shared : Option ContextId}
    (h : v.opened.Foretells shared) : v.Foretells shared := by
  rcases v.opened_cases with ⟨heq, -⟩ | ⟨name, hshared, hfirst, heq⟩
  · rwa [heq] at h
  · rw [heq, foretells_of_some rfl] at h
    rw [foretells_of_none hshared, h]
    rintro c ⟨⟩
    exact ⟨Nat.le_refl _, by rw [hfirst]; exact Option.some_ne_none name⟩

end Contexts

namespace Session

/-! ### Operations -/

/-- What is done in a session that has to do with contexts. -/
inductive Operation where
  | newContext (name : String)
  | defaultContext
  | setAttribute (c : ContextId) (name : String)
  | applyAttribute (name : String) (c : Option ContextId) (r : Option RegistryId)
  | newRegistry (refuses : Bool)
  | newPage
  | lookup (b : Builder) (l : Lookup)
  | compileQuery (c : Option ContextId) (q : Query)
  | compileDocument (c : Option ContextId) (d : QueryDocument)
  | resolve (p : PageId) (c : Option ContextId) (q : Query)

namespace Operation

/-- The session after an operation, whether that gave an answer or a fault. -/
def after (s : Session) : Operation → Session
  | newContext name => (outcome (Session.newContext name) s).2
  | defaultContext => (outcome Session.defaultContext s).2
  | setAttribute c name => (outcome (Session.setAttribute c name) s).2
  | applyAttribute name c r => (outcome (Session.applyAttribute name c r) s).2
  | newRegistry refuses => (outcome (Session.newRegistry refuses) s).2
  | newPage => (outcome Session.newPage s).2
  | lookup b l => (outcome (Session.lookup b l) s).2
  | compileQuery c q => (outcome (Session.compileQuery c q) s).2
  | compileDocument c d => (outcome (Session.compileDocument c d) s).2
  | resolve p c q => (outcome (Session.resolve p c q) s).2

/-- The context that an operation names. -/
def context? : Operation → Option ContextId
  | setAttribute c _ => some c
  | applyAttribute _ c _ | compileQuery c _ | compileDocument c _ | resolve _ c _ => c
  | lookup b _ => b.context
  | _ => none

/-- The context that an operation writes to, and the name; no context means the shared one. -/
def writes? : Operation → Option (Option ContextId × String)
  | setAttribute c name => some (some c, name)
  | applyAttribute name c _ => some (c, name)
  | _ => none

/-- The name that an operation writes to a context, when it is known which one is shared. -/
def written? (shared c : Option ContextId) (op : Operation) : Option String :=
  op.writes?.bind fun w => if w.1.or shared = c.or shared then some w.2 else none

/-- As long as there is no shared context, only who names none means it. -/
theorem written?_none_eq_none {op : Operation} (h : ∀ name, op.writes? ≠ some (none, name)) :
    op.written? none none = none := by
  rw [written?]
  match hwrites : op.writes? with
  | none => rfl
  | some (none, name) => exact absurd hwrites (h name)
  | some (some c, name) => rfl

/-- What an operation does to contexts, apart from opening the shared one. -/
def effect (v : Contexts) : Operation → Contexts
  | newContext name => v.add name
  | setAttribute c name => v.write (some c) name
  | applyAttribute name c _ => v.write c name
  | _ => v

/-- What an operation may do to contexts: it may open the shared one first, and does so if it writes
to it. -/
def Moves (op : Operation) (v w : Contexts) : Prop :=
  w = op.effect v.opened ∨ w = op.effect v ∧ ∀ name, op.writes? ≠ some (none, name)

theorem moves_of_reads {op : Operation} {v w : Contexts} (h : w = v ∨ w = v.opened)
    (heffect : ∀ v, op.effect v = v) (hwrites : op.writes? = none) : op.Moves v w := by
  rcases h with h | h
  · exact .inr ⟨by rw [h, heffect], by simp [hwrites]⟩
  · exact .inl (by rw [h, heffect])

/-- An operation moves what a session knows of contexts. -/
theorem moves_view (op : Operation) (s : Session) : op.Moves s.view (op.after s).view := by
  cases op with
  | newContext name => exact .inr ⟨rfl, fun _ h => nomatch h⟩
  | setAttribute c name =>
    refine .inr ⟨?_, fun _ h => nomatch h⟩
    exact view_heard (s.withAttribute c name) (attributeNote (s.attributeIn c) name)
  | applyAttribute name c r =>
    have h : (after s (.applyAttribute name c r)).view = _ := view_applyAttribute name c r s
    cases c with
    | none => exact .inl h
    | some c => exact .inr ⟨h, fun _ h => nomatch h⟩
  | newRegistry refuses => exact .inr ⟨rfl, fun _ h => nomatch h⟩
  | newPage => exact .inr ⟨rfl, fun _ h => nomatch h⟩
  | defaultContext => exact moves_of_reads (reads_contextOr none s) (fun _ => rfl) rfl
  | lookup b l => exact moves_of_reads (reads_lookup b l s) (fun _ => rfl) rfl
  | compileQuery c q => exact moves_of_reads (reads_compileQuery c q s) (fun _ => rfl) rfl
  | compileDocument c d => exact moves_of_reads (reads_compileDocument c d s) (fun _ => rfl) rfl
  | resolve p c q => exact moves_of_reads (reads_resolve p c q s) (fun _ => rfl) rfl

/-! ### What operations keep and change -/

variable {op : Operation} {v w : Contexts} {shared : Option ContextId}

@[simp] theorem effect_shared (op : Operation) (v : Contexts) :
    (op.effect v).shared = v.shared := by
  cases op <;> simp [effect, Contexts.add]

@[simp] theorem effect_first? (op : Operation) (v : Contexts) :
    (op.effect v).first? = v.first? := by
  cases op <;> simp [effect, Contexts.add]

theorem length_le_effect (op : Operation) (v : Contexts) :
    v.attributes.length ≤ (op.effect v).attributes.length := by
  cases op <;> simp [effect, Contexts.add]

theorem effect_sound (op : Operation) (h : v.Sound) : (op.effect v).Sound := by
  intro c hc
  rw [effect_shared] at hc
  exact Nat.lt_of_lt_of_le (h c hc) (op.length_le_effect v)

theorem foretells_of_effect (h : (op.effect v).Foretells shared) : v.Foretells shared := by
  cases hv : v.shared with
  | some c =>
    rw [Contexts.foretells_of_some (by rw [effect_shared, hv])] at h
    exact (Contexts.foretells_of_some hv shared).2 h
  | none =>
    rw [Contexts.foretells_of_none (by rw [effect_shared, hv]), effect_first?] at h
    refine (Contexts.foretells_of_none hv shared).2 fun c hc => ?_
    exact ⟨Nat.le_trans (op.length_le_effect v) (h c hc).1, (h c hc).2⟩

theorem named?_effect {c : ContextId} (hsound : v.Sound) (hshared : (op.effect v).Foretells shared)
    (hop : ∀ d, op.context? = some d → d < v.attributes.length)
    (hopen : ∀ name, op.writes? = some (none, name) → v.shared = none → v.first? = none)
    (hc : c < v.attributes.length ∨ shared = some c) :
    (op.effect v).named? c = (op.written? shared (some c)).or (v.named? c) := by
  have hbefore := foretells_of_effect hshared
  cases op with
  | newContext name => exact Contexts.named?_add (Contexts.ne_length_of_known hsound hshared hc) name
  | setAttribute d name => exact Contexts.named?_write hsound hbefore hop nofun name c
  | applyAttribute name d r =>
    refine Contexts.named?_write (c := d) hsound hbefore hop (fun hd => hopen name ?_) name c
    rw [hd]
    rfl
  | _ => rfl

namespace Moves

theorem first?_eq (h : op.Moves v w) : w.first? = v.first? := by
  rcases h with rfl | ⟨rfl, -⟩ <;> simp

theorem length_le (h : op.Moves v w) : v.attributes.length ≤ w.attributes.length := by
  rcases h with rfl | ⟨rfl, -⟩
  · exact Nat.le_trans v.length_le_opened (op.length_le_effect _)
  · exact op.length_le_effect v

theorem sound (h : op.Moves v w) (hsound : v.Sound) : w.Sound := by
  rcases h with rfl | ⟨rfl, -⟩
  · exact op.effect_sound hsound.opened
  · exact op.effect_sound hsound

/-- Who writes to the shared context opens it. -/
theorem opened_of_writes {name : String} (h : op.Moves v w)
    (hwrites : op.writes? = some (none, name)) : w.shared = v.opened.shared := by
  rcases h with rfl | ⟨-, hno⟩
  · exact op.effect_shared _
  · exact absurd hwrites (hno name)

/-- What is foretold after an operation was so before. -/
theorem foretells (h : op.Moves v w) (hshared : w.Foretells shared) : v.Foretells shared := by
  rcases h with rfl | ⟨rfl, -⟩
  · exact (foretells_of_effect hshared).of_opened
  · exact foretells_of_effect hshared

/-- An operation changes the attribute of a context to the name that it writes there, and otherwise
not at all. -/
theorem named?_eq {c : ContextId} (h : op.Moves v w) (hsound : v.Sound)
    (hshared : w.Foretells shared)
    (hop : ∀ d, op.context? = some d → d < v.attributes.length)
    (hc : c < v.attributes.length ∨ shared = some c) :
    w.named? c = (op.written? shared (some c)).or (v.named? c) := by
  rcases h with rfl | ⟨rfl, hwrites⟩
  · rw [← v.named?_opened]
    have hle := v.length_le_opened
    refine named?_effect hsound.opened hshared (fun d hd => Nat.lt_of_lt_of_le (hop d hd) hle)
      (fun _ _ hnone => ?_) (hc.imp_left fun hlt => Nat.lt_of_lt_of_le hlt hle)
    rw [v.opened_first?]
    exact Contexts.first?_of_opened hnone
  · exact named?_effect hsound hshared hop (fun name hw => absurd hw (hwrites name)) hc

end Moves

end Operation

/-! ### Histories -/

/-- The session after a history of operations. -/
def after (s : Session) (ops : List Operation) : Session :=
  ops.foldl Operation.after s

/-- Histories in which operations name only contexts that exist by then. -/
def Admits (s : Session) : List Operation → Prop
  | [] => True
  | op :: r => (∀ c, op.context? = some c → c < s.contexts.length) ∧ (op.after s).Admits r

/-- The name that a history writes last to a context, when it is known which one is shared. -/
def latest? (shared c : Option ContextId) (ops : List Operation) : Option String :=
  (ops.filterMap (Operation.written? shared c)).getLast?

theorem after_cons (s : Session) (op : Operation) (r : List Operation) :
    s.after (op :: r) = (op.after s).after r := rfl

theorem after_append (s : Session) (before after : List Operation) :
    s.after (before ++ after) = (s.after before).after after :=
  List.foldl_append

theorem latest?_cons (shared c : Option ContextId) (op : Operation) (r : List Operation) :
    latest? shared c (op :: r) = (latest? shared c r).or (op.written? shared c) := by
  rw [latest?, latest?, List.filterMap_cons]
  cases op.written? shared c with
  | none => rw [Option.or_none]
  | some name => rw [List.getLast?_cons]; cases List.getLast? _ <;> rfl

variable {s : Session}

theorem Admits.of_append {before after : List Operation} (h : s.Admits (before ++ after)) :
    (s.after before).Admits after := by
  induction before generalizing s with
  | nil => exact h
  | cons op r ih => exact ih h.2

theorem first?_after (s : Session) (ops : List Operation) :
    (s.after ops).view.first? = s.view.first? := by
  induction ops generalizing s with
  | nil => rfl
  | cons op r ih => rw [after_cons, ih, (op.moves_view s).first?_eq]

theorem length_le_after (s : Session) (ops : List Operation) :
    s.contexts.length ≤ (s.after ops).contexts.length := by
  induction ops generalizing s with
  | nil => exact Nat.le_refl _
  | cons op r ih => exact Nat.le_trans (op.moves_view s).length_le (ih (op.after s))

theorem sound_after (h : s.view.Sound) (ops : List Operation) : (s.after ops).view.Sound := by
  induction ops generalizing s with
  | nil => exact h
  | cons op r ih => exact ih ((op.moves_view s).sound h)

theorem foretells_after (s : Session) (ops : List Operation) :
    s.view.Foretells (s.after ops).shared := by
  induction ops generalizing s with
  | nil => exact s.view.foretells_shared
  | cons op r ih => exact (op.moves_view s).foretells (ih (op.after s))

/-- The shared context stays the same. -/
theorem shared_after {c : ContextId} (h : s.shared = some c) (ops : List Operation) :
    (s.after ops).shared = some c :=
  (Contexts.foretells_of_some (v := s.view) h _).1 (s.foretells_after ops)

/-- A context has the name that was written to it last, or else what it began with.  In a history
the names are written to contexts that exist, or to the one that will prove to be the shared one. -/
theorem named?_after {ops : List Operation} {c : ContextId} (hsound : s.view.Sound)
    (hops : s.Admits ops) (hc : c < s.contexts.length ∨ (s.after ops).shared = some c) :
    (s.after ops).view.named? c =
      (latest? (s.after ops).shared (some c) ops).or (s.view.named? c) := by
  induction ops generalizing s with
  | nil => rfl
  | cons op r ih =>
    have hmoves := op.moves_view s
    have hlater : c < (op.after s).contexts.length ∨ ((op.after s).after r).shared = some c :=
      hc.imp_left fun hlt => Nat.lt_of_lt_of_le hlt hmoves.length_le
    have hstep : (op.after s).view.named? c = _ :=
      hmoves.named?_eq hsound ((op.after s).foretells_after r) hops.1 hc
    rw [after_cons, ih (hmoves.sound hsound) hops.2 hlater, hstep, latest?_cons, Option.or_assoc]

/-- If the shared context could be opened but is not there, nothing was written to it. -/
theorem latest?_of_unshared {ops : List Operation} (hshared : (s.after ops).shared = none)
    (hfirst : s.view.first? ≠ none) : latest? none none ops = none := by
  induction ops generalizing s with
  | nil => rfl
  | cons op r ih =>
    have hmoves := op.moves_view s
    rw [latest?_cons, ih hshared (by rwa [hmoves.first?_eq]), Option.none_or]
    refine Operation.written?_none_eq_none fun name hwrites => ?_
    have hopened := hmoves.opened_of_writes hwrites
    cases hshared' : s.view.opened.shared with
    | none => exact hfirst (Contexts.first?_of_opened hshared')
    | some c =>
      rw [after_cons, shared_after (hopened.trans hshared')] at hshared
      exact nomatch hshared

end Session

end ElementLookup
