/-
**What records carry.**

Members may be bound to all later records and removed again, and a logger that was obtained long ago
knows of it as well as one that was obtained since: what is bound belongs to the session and to no
logger.  So what a record carries can be said from the history alone.  It is whatever was bound and
not removed since, each key once and with the value that it was given last, and in the written form
of a record these values replace whatever else has their keys.

Main definitions:

* `Session.LogCall`, `Session.LogCall.after`, `Session.Logging.after` — what may be done to the
  records of a session, and what is left after it;
* `Session.binding?` — the value that a key was bound to last, from the history alone;
* `Log.Record.Carries` — a record carries certain members and no others;
* `Session.Marked`, `Session.Marks` — nothing is bound or removed on the way from one session to
  another, and all records on the way carry what is bound;
* `Session.AddsExactly` — what a call adds to the records.

Main results:

* `Json.lookup_merge`, `Json.lookup_without` — members after others were added or removed;
* `Session.Logging.lookup_bound_after` — what is bound is what was bound last and not removed since;
* `Session.adds_exactly` — **every record carries what was bound and not removed since**.
-/

import ElementLookup.Proofs.Session.Outcome
import Mathlib.Data.List.Nodup

set_option autoImplicit false

namespace ElementLookup

/-! ### Members -/

namespace Json

theorem lookup_cons_eq (m : String × Json) (members : List (String × Json)) (key : String) :
    (m :: members).lookup key = if key = m.1 then some m.2 else members.lookup key := by
  rw [List.lookup_cons]
  by_cases h : key = m.1
  · rw [if_pos h, beq_iff_eq.2 h]
  · rw [if_neg h, beq_eq_false_iff_ne.2 h]

theorem lookup_put (members : List (String × Json)) (key key' : String) (value : Json) :
    (put members key value).lookup key' =
      if key' = key then some value else members.lookup key' := by
  induction members with
  | nil => exact lookup_cons_eq _ _ _
  | cons m r ih =>
    obtain ⟨k, v⟩ := m
    rw [put_cons]
    by_cases hk : k = key
    · subst hk
      rw [if_pos rfl, lookup_cons_eq, lookup_cons_eq]
      by_cases h : key' = k <;> simp [h]
    · rw [if_neg hk, lookup_cons_eq, lookup_cons_eq, ih]
      by_cases h : key' = k
      · simp [h, hk]
      · simp [h]

/-- A member that was added last counts, and failing that, one that was there before. -/
theorem lookup_merge (members more : List (String × Json)) (key : String) :
    (merge members more).lookup key = (more.reverse.lookup key).or (members.lookup key) := by
  induction more generalizing members with
  | nil => rfl
  | cons m r ih =>
    rw [merge, List.foldl_cons, ← merge, ih, lookup_put, List.reverse_cons, List.lookup_append,
      Option.or_assoc, lookup_cons_eq]
    by_cases h : key = m.1 <;> simp [h]

theorem lookup_without (members : List (String × Json)) (keys : List String) (key : String) :
    (without members keys).lookup key = if key ∈ keys then none else members.lookup key := by
  induction members with
  | nil => simp [without]
  | cons m r ih =>
    rw [without] at ih
    rw [without, List.filter_cons, lookup_cons_eq]
    by_cases hm : m.1 ∈ keys
    · rw [if_neg (by simpa using hm), ih]
      by_cases h : key = m.1 <;> simp [h, hm]
    · rw [if_pos (by simpa using hm), lookup_cons_eq, ih]
      by_cases h : key = m.1 <;> simp [h, hm]

theorem keys_put (members : List (String × Json)) (key : String) (value : Json) :
    (put members key value).map (·.1) =
      if key ∈ members.map (·.1) then members.map (·.1) else members.map (·.1) ++ [key] := by
  induction members with
  | nil => rfl
  | cons m r ih =>
    obtain ⟨k, v⟩ := m
    rw [put_cons]
    by_cases hk : k = key
    · simp [hk]
    · rw [if_neg hk, List.map_cons, ih]
      have hk' : ¬ key = k := fun h => hk h.symm
      by_cases h : key ∈ r.map (·.1) <;> simp_all

theorem nodup_put {members : List (String × Json)} (h : (members.map (·.1)).Nodup) (key : String)
    (value : Json) : ((put members key value).map (·.1)).Nodup := by
  rw [keys_put]
  split
  · exact h
  · next hkey =>
    refine List.nodup_append.2 ⟨h, List.nodup_singleton key, fun k hk l hl heq => hkey ?_⟩
    rwa [← List.mem_singleton.1 hl, ← heq]

theorem nodup_merge {members : List (String × Json)} (h : (members.map (·.1)).Nodup)
    (more : List (String × Json)) : ((merge members more).map (·.1)).Nodup := by
  induction more generalizing members with
  | nil => exact h
  | cons m r ih => exact ih (nodup_put h m.1 m.2)

theorem nodup_without {members : List (String × Json)} (h : (members.map (·.1)).Nodup)
    (keys : List String) : ((without members keys).map (·.1)).Nodup :=
  h.sublist (List.filter_sublist.map _)

/-- With each key once, the members are those that are found under their keys. -/
theorem mem_iff_lookup {members : List (String × Json)} (h : (members.map (·.1)).Nodup)
    {key : String} {value : Json} :
    (key, value) ∈ members ↔ members.lookup key = some value := by
  rw [List.lookup_eq_some_iff]
  constructor
  · intro hm
    obtain ⟨before, later, rfl⟩ := List.append_of_mem hm
    rw [List.map_append, List.nodup_append] at h
    refine ⟨before, later, rfl, fun m hbefore => bne_iff_ne.2 fun hkey => ?_⟩
    exact h.2.2 m.1 (List.mem_map_of_mem hbefore) key (by simp) hkey.symm
  · rintro ⟨before, later, rfl, -⟩
    simp

/-- With each key once, it makes no difference from which end a key is looked for. -/
theorem lookup_reverse {members : List (String × Json)} (h : (members.map (·.1)).Nodup)
    (key : String) : members.reverse.lookup key = members.lookup key := by
  have hreverse : (members.reverse.map (·.1)).Nodup := by
    rwa [List.map_reverse, List.nodup_reverse]
  refine Option.ext fun value => ?_
  rw [← mem_iff_lookup hreverse, ← mem_iff_lookup h, List.mem_reverse]

end Json

/-! ### Records -/

/-- A record without what accompanies it. -/
def Log.Record.bare (r : Log.Record) : Log.Record := { r with extra := .null }

/-- A record carries the members that have a value under their keys, each key once, and no others;
in its written form they replace whatever else has their keys, and the rest is as it would be
without them. -/
structure Log.Record.Carries (r : Log.Record) (value? : String → Option Json) : Prop where
  /-- No key is carried twice. -/
  nodup : (r.context.map (·.1)).Nodup
  /-- What is carried are the keys that have a value, with that value. -/
  mem_iff : ∀ (key : String) (value : Json),
    (key, value) ∈ r.context ↔ value? key = some value
  /-- What is written under a key is the value that is carried, and failing that the record's
  own. -/
  written : ∀ (first : List (String × Json)) (key : String),
    (r.membersAfter first).lookup key =
      (value? key).or ((r.bare.membersAfter first).lookup key)

theorem Log.Record.carries_context {r : Log.Record} (h : (r.context.map (·.1)).Nodup) :
    r.Carries fun key => r.context.lookup key where
  nodup := h
  mem_iff _ _ := Json.mem_iff_lookup h
  written first key := by
    rw [membersAfter, membersNamed, Json.lookup_merge, Json.lookup_reverse h]
    rfl

namespace Session

variable {α β : Type}

/-! ### Steps that bind nothing -/

/-- From one session to a later one nothing was bound or removed, and the records that were
delivered in between carry what is bound. -/
structure Marked (s t : Session) : Prop where
  /-- The same is bound. -/
  bound : t.bound = s.bound
  /-- Records were added, and they carry it. -/
  records : ∃ ds, t.deliveries = s.deliveries ++ ds ∧ ∀ d ∈ ds, d.record.extra = .object s.bound

theorem Marked.of_eq {s t : Session} (hbound : t.bound = s.bound)
    (hdeliveries : t.deliveries = s.deliveries) : Marked s t :=
  ⟨hbound, [], by rw [hdeliveries, List.append_nil], fun _ hd => nomatch hd⟩

theorem Marked.refl (s : Session) : Marked s s := .of_eq rfl rfl

theorem Marked.trans {s t u : Session} (hst : Marked s t) (htu : Marked t u) : Marked s u := by
  obtain ⟨hbound, ds, hds, hmarked⟩ := hst
  obtain ⟨hbound', ds', hds', hmarked'⟩ := htu
  refine ⟨hbound'.trans hbound, ds ++ ds', by rw [hds', hds, List.append_assoc], fun d hd => ?_⟩
  rcases List.mem_append.1 hd with hd | hd
  · exact hmarked d hd
  · rw [hmarked' d hd, hbound]

theorem marked_heard (s : Session) (n : Log.Note) : Marked s (s.heard n) := by
  rw [heard]
  split
  · refine ⟨rfl, _, rfl, fun d hd => ?_⟩
    obtain ⟨handler, -, rfl⟩ := List.mem_map.1 hd
    rfl
  · exact .refl s

theorem marked_misheard (s : Session) (n : Log.Note) (fault : Log.Misfit) :
    Marked s (s.misheard n fault) := by
  refine ⟨rfl, _, rfl, fun d hd => ?_⟩
  obtain ⟨handler, -, rfl⟩ := List.mem_map.1 hd
  rfl

/-- A step binds and removes nothing, and its records carry what is bound. -/
def Marks (step : SessionM α) : Prop := ∀ s, Marked s (outcome step s).2

theorem Marks.pure (a : α) : Marks (pure a : SessionM α) := fun s => .refl s

theorem Marks.throw (fault : Fault) : Marks (throw fault : SessionM α) := fun s => .refl s

theorem Marks.get : Marks (get : SessionM Session) := fun s => .refl s

theorem Marks.emit (n : Log.Note) : Marks (emit n) := fun s => marked_heard s n

theorem Marks.bind {x : SessionM α} {f : α → SessionM β} (hx : Marks x) (hf : ∀ a, Marks (f a)) :
    Marks (x >>= f) := by
  intro s
  have hs := hx s
  rw [outcome_bind]
  rcases hxs : outcome x s with ⟨fault | a, t⟩
  · rw [hxs] at hs
    exact hs
  · rw [hxs] at hs
    exact hs.trans (hf a t)

theorem Marks.mapM {f : α → SessionM β} (hf : ∀ a, Marks (f a)) (l : List α) :
    Marks (l.mapM f) := by
  induction l with
  | nil => exact .pure []
  | cons a r ih =>
    rw [List.mapM_cons]
    exact (hf a).bind fun b => ih.bind fun bs => .pure (b :: bs)

theorem marks_log (logger : String) (severity : Log.Severity) (message : String)
    (values : List Value) : Marks (log logger severity message values) := by
  intro s
  rw [outcome_log]
  split
  · cases Log.fill message values with
    | ok text => exact marked_heard s _
    | error fault => exact marked_misheard s _ fault
  · exact .refl s

/-! ### Histories -/

/-- What may be done to the records of a session.  A logger is obtained by its name; later calls
name it by its number among those that were obtained. -/
inductive LogCall where
  | logger (name : String)
  | bind (members : Log.Context)
  | unbind (keys : List String)
  | log (logger : Nat) (severity : Log.Severity) (message : String) (values : List Value)

/-- A session, and the loggers that were obtained so far. -/
structure Logging where
  session : Session
  loggers : List String

/-- What is left after a call; a logger that was never obtained says nothing. -/
def LogCall.after (call : LogCall) (l : Logging) : Logging :=
  match call with
  | .logger name => { l with loggers := l.loggers ++ [name] }
  | .bind members => { l with session := (outcome (Session.bind members) l.session).2 }
  | .unbind keys => { l with session := (outcome (Session.unbind keys) l.session).2 }
  | .log i severity message values =>
    match l.loggers[i]? with
    | none => l
    | some name =>
      { l with session := (outcome (Session.log name severity message values) l.session).2 }

/-- What is left after several calls. -/
def Logging.after (l : Logging) (calls : List LogCall) : Logging :=
  calls.foldl (fun l call => call.after l) l

/-- What a call says of a key: the value that it is bound to, or that it is bound to none. -/
def LogCall.says? (key : String) : LogCall → Option (Option Json)
  | .bind members => (members.reverse.lookup key).map some
  | .unbind keys => if key ∈ keys then some none else none
  | .logger _ | .log .. => none

/-- The value of a key after calls: what the last call that says something of it says, or else what
was bound at the beginning. -/
def binding? (first : Log.Context) (calls : List LogCall) (key : String) : Option Json :=
  (calls.reverse.findSome? (LogCall.says? key)).getD (first.lookup key)

/-! ### What is bound -/

/-- A logger binds nothing, whether it was obtained or not. -/
theorem LogCall.marked_log (i : Nat) (severity : Log.Severity) (message : String)
    (values : List Value) (l : Logging) :
    Marked l.session ((LogCall.log i severity message values).after l).session := by
  rw [after]
  split
  · exact .refl l.session
  · exact marks_log _ severity message values l.session

/-- After one call a key has the value that the call says, and failing that its old one. -/
theorem LogCall.lookup_bound_after (call : LogCall) (l : Logging) (key : String) :
    (call.after l).session.bound.lookup key =
      (call.says? key).getD (l.session.bound.lookup key) := by
  cases call with
  | logger name => rfl
  | bind members =>
    refine (Json.lookup_merge l.session.bound members key).trans ?_
    rw [says?]
    cases members.reverse.lookup key <;> rfl
  | unbind keys =>
    refine (Json.lookup_without l.session.bound keys key).trans ?_
    rw [says?]
    split <;> rfl
  | log i severity message values =>
    rw [(marked_log i severity message values l).bound]
    rfl

theorem LogCall.nodup_bound_after (call : LogCall) {l : Logging}
    (h : (l.session.bound.map (·.1)).Nodup) : ((call.after l).session.bound.map (·.1)).Nodup := by
  cases call with
  | logger name => exact h
  | bind members => exact Json.nodup_merge h members
  | unbind keys => exact Json.nodup_without h keys
  | log i severity message values =>
    rw [(marked_log i severity message values l).bound]
    exact h

/-- What is bound after calls is what was bound last and not removed since. -/
theorem Logging.lookup_bound_after (l : Logging) (calls : List LogCall) (key : String) :
    (l.after calls).session.bound.lookup key = binding? l.session.bound calls key := by
  induction calls generalizing l with
  | nil => rfl
  | cons call r ih =>
    rw [after, List.foldl_cons, ← after, ih, binding?, binding?, call.lookup_bound_after,
      List.reverse_cons, List.findSome?_append, List.findSome?_singleton]
    cases r.reverse.findSome? (LogCall.says? key) <;> rfl

theorem Logging.nodup_bound_after {l : Logging} (h : (l.session.bound.map (·.1)).Nodup)
    (calls : List LogCall) : ((l.after calls).session.bound.map (·.1)).Nodup := by
  induction calls generalizing l with
  | nil => exact h
  | cons call r ih => exact ih (call.nodup_bound_after h)

/-! ### What records carry -/

/-- A call adds records only, and they carry what is bound. -/
theorem LogCall.records_after (call : LogCall) (l : Logging) :
    ∃ ds, (call.after l).session.deliveries = l.session.deliveries ++ ds ∧
      ∀ d ∈ ds, d.record.extra = .object l.session.bound := by
  cases call with
  | log i severity message values => exact (marked_log i severity message values l).records
  | _ => exact ⟨[], (List.append_nil _).symm, fun _ hd => nomatch hd⟩

/-- A message that fits its values is delivered to everybody who listens, if it is heard at all. -/
theorem deliveries_after_log {l : Logging} {i : Nat} {name message text : String}
    {severity : Log.Severity} {values : List Value} (hname : l.loggers[i]? = some name)
    (hhears : l.session.hears ⟨name, severity, message⟩ = true)
    (hfill : Log.fill message values = .ok text) :
    ((LogCall.log i severity message values).after l).session.deliveries =
      l.session.deliveries ++ l.session.delivering.handlers.map fun handler =>
        ⟨handler, ⟨⟨name, severity, text⟩, none, .object l.session.bound⟩, none⟩ := by
  have hafter : (LogCall.log i severity message values).after l =
      { l with session := (outcome (Session.log name severity message values) l.session).2 } := by
    rw [LogCall.after, hname]
  have hheard : l.session.hears ⟨name, severity, text⟩ = true := hhears
  have houtcome : outcome (Session.log name severity message values) l.session =
      (.ok ⟨⟩, l.session.heard ⟨name, severity, text⟩) := by
    rw [outcome_log, if_pos hhears, hfill]
  rw [hafter, houtcome, heard, if_pos hheard]

/-- What a call after others adds to the records. -/
structure AddsExactly (l : Logging) (before : List LogCall) (call : LogCall) : Prop where
  /-- Each record carries what was bound and not removed since, with the value given last. -/
  carries : ∃ ds, (call.after (l.after before)).session.deliveries =
      (l.after before).session.deliveries ++ ds ∧
    ∀ d ∈ ds, d.record.Carries (binding? l.session.bound before)
  /-- A logger adds a record for everybody who listens, if it is heard and its message fits. -/
  delivered : ∀ (i : Nat) (name message text : String) (severity : Log.Severity)
      (values : List Value), call = .log i severity message values →
    (l.after before).loggers[i]? = some name →
    (l.after before).session.hears ⟨name, severity, message⟩ = true →
    Log.fill message values = .ok text →
    (call.after (l.after before)).session.deliveries = (l.after before).session.deliveries ++
      (l.after before).session.delivering.handlers.map fun handler =>
        ⟨handler, ⟨⟨name, severity, text⟩, none, .object (l.after before).session.bound⟩, none⟩

/-- **Every record carries what was bound and not removed since**, whichever logger it was given to
and whenever that was obtained. -/
theorem adds_exactly {l : Logging} (h : (l.session.bound.map (·.1)).Nodup)
    (before : List LogCall) (call : LogCall) : AddsExactly l before call where
  carries := by
    obtain ⟨ds, hds, hextra⟩ := call.records_after (l.after before)
    refine ⟨ds, hds, fun d hd => ?_⟩
    have hcontext : d.record.context = (l.after before).session.bound := by
      rw [Log.Record.context, hextra d hd]
    have hcarries := Log.Record.carries_context (hcontext ▸ l.nodup_bound_after h before)
    rw [hcontext] at hcarries
    rwa [funext (l.lookup_bound_after before)] at hcarries
  delivered := by
    rintro i name message text severity values rfl hname hhears hfill
    exact deliveries_after_log hname hhears hfill

end Session

end ElementLookup
