/-
**What the variables of an environment file depend on.**

A value of an environment file may refer to other variables, of the file or of the environment, and
these to others in turn.  What a variable of the file comes to depends on those that it refers to,
at once or through others, and on nothing else.  So let some names be closed under references: what
the values of these names refer to is among them.  Two files with the same bindings of these names,
read in environments that agree on them, give these names the same values.

Main definitions:

* `EnvFile.references`, `EnvFile.Binding.references` — the names that a value refers to;
* `EnvFile.valuesOf` — the variables that bindings give;
* `EnvFile.AgreeOn`, `EnvFile.ClosedUnder` — variables that are the same for some names, and names
  that are closed under references.

Main results:

* `EnvFile.fill_congr` — a value depends only on what it refers to;
* `EnvFile.agreeOn_valuesOf` — **variables depend only on what they refer to**;
* `EnvFile.nodup_names_valuesOf`, `EnvFile.mem_keys_of_mem_names` — a file gives each name that it
  binds one value, and no other name.
-/

import ElementLookup.Settings

set_option autoImplicit false

namespace ElementLookup

namespace EnvFile

/-! ### References of a value -/

/-- The names of the references in a text, looking at no more than `fuel` characters. -/
def referencesWithin : Nat → List Char → List (List Char)
  | 0, _ => []
  | _ + 1, [] => []
  | fuel + 1, c :: r =>
    match reference? (c :: r) with
    | some (name, _, rest) => name :: referencesWithin fuel rest
    | none => referencesWithin fuel r

/-- The names of the references in a text. -/
def references (cs : List Char) : List (List Char) :=
  referencesWithin cs.length cs

/-- The names that the value of a binding refers to. -/
def Binding.references (b : Binding) : List String :=
  match b.value with
  | some s => (EnvFile.references s.toList).map String.ofList
  | none => []

theorem fillWithin_congr {f g : List Char → Option (List Char)} (fuel : Nat) (cs : List Char)
    (h : ∀ name ∈ referencesWithin fuel cs, f name = g name) :
    fillWithin f fuel cs = fillWithin g fuel cs := by
  induction fuel generalizing cs with
  | zero => rfl
  | succ fuel ih =>
    cases cs with
    | nil => rfl
    | cons c r =>
      rw [referencesWithin] at h
      rw [fillWithin, fillWithin]
      cases hreference : reference? (c :: r) with
      | none =>
        rw [hreference] at h
        exact congrArg (c :: ·) (ih r h)
      | some found =>
        obtain ⟨name, default, rest⟩ := found
        rw [hreference] at h
        obtain ⟨hname, hrest⟩ := List.forall_mem_cons.1 h
        dsimp only
        rw [hname, ih rest hrest]

/-- A value depends only on what it refers to. -/
theorem fill_congr {f g : List Char → Option (List Char)} {cs : List Char}
    (h : ∀ name ∈ references cs, f name = g name) : fill f cs = fill g cs :=
  fillWithin_congr cs.length cs h

/-! ### Variables that are set -/

theorem find?_overwrite (vs : Variables) (name other : String) (value : Option String) :
    (vs.map fun v => if v.1 = name then (name, value) else v).find? (fun v => v.1 = other) =
      if other = name then (vs.find? fun v => v.1 = name).map fun _ => (name, value)
      else vs.find? fun v => v.1 = other := by
  induction vs with
  | nil => simp
  | cons v r ih =>
    rw [List.map_cons, List.find?_cons, ih, List.find?_cons, List.find?_cons]
    by_cases hv : v.1 = name
    · by_cases ho : other = name
      · simp [hv, ho]
      · have hne : ¬ name = other := fun h => ho h.symm
        simp [hv, ho, hne]
    · by_cases ho : other = name
      · simp [hv, ho]
      · simp only [if_neg hv, if_neg ho]

/-- A variable that is set has its new value, and the others keep theirs. -/
theorem find?_set (vs : Variables) (name other : String) (value : Option String) :
    (vs.set name value).find? (fun v => v.1 = other) =
      if other = name then some (name, value) else vs.find? fun v => v.1 = other := by
  rw [Variables.set]
  cases hany : vs.any (·.1 = name) with
  | true =>
    rw [if_pos rfl, find?_overwrite]
    obtain ⟨v, hv⟩ := Option.isSome_iff_exists.1 (List.find?_isSome.2 (List.any_eq_true.1 hany))
    rw [hv, Option.map_some]
  | false =>
    rw [if_neg Bool.false_ne_true, List.find?_append, List.find?_singleton]
    by_cases ho : other = name
    · rw [ho, List.find?_eq_none.2 (List.any_eq_false.1 hany)]
      simp
    · have hne : ¬ name = other := fun h => ho h.symm
      simp [ho, hne]

/-! ### Variables that agree -/

variable {env env' : Environment} {vs vs' : Variables} {relevant : String → Bool}

/-- Variables that are the same for the names that matter. -/
def AgreeOn (relevant : String → Bool) (vs vs' : Variables) : Prop :=
  ∀ n, relevant n = true →
    vs.find? (fun v => v.1 = n) = vs'.find? fun v => v.1 = n

/-- What the values of names that matter refer to matters as well. -/
def ClosedUnder (relevant : String → Bool) (bs : List Binding) : Prop :=
  ∀ b ∈ bs, relevant b.key = true → ∀ n ∈ b.references, relevant n = true

/-- What a reference stands for is the same if it matters. -/
theorem meaning_congr {n : List Char} (henv : env.value? (String.ofList n) =
      env'.value? (String.ofList n))
    (hvs : vs.find? (fun v => v.1 = String.ofList n) =
      vs'.find? fun v => v.1 = String.ofList n) : meaning env vs n = meaning env' vs' n := by
  rw [meaning, meaning, hvs, henv]

/-- A binding that matters sets the same value on both sides. -/
theorem agreeOn_add (h : AgreeOn relevant vs vs')
    (henv : ∀ n, relevant n = true → env.value? n = env'.value? n) {b : Binding}
    (hb : ∀ n ∈ b.references, relevant n = true) :
    AgreeOn relevant (add env vs b) (add env' vs' b) := by
  have hvalue : b.value.map (fun s => String.ofList (fill (meaning env vs) s.toList)) =
      b.value.map fun s => String.ofList (fill (meaning env' vs') s.toList) := by
    cases hv : b.value with
    | none => rfl
    | some s =>
      rw [Binding.references, hv] at hb
      refine congrArg (fun cs => some (String.ofList cs)) (fill_congr fun name hname => ?_)
      have hrelevant := hb _ (List.mem_map_of_mem hname)
      exact meaning_congr (henv _ hrelevant) (h _ hrelevant)
  intro n hn
  rw [add, add, find?_set, find?_set, hvalue, h n hn]

/-- A binding that does not matter changes nothing that does. -/
theorem agreeOn_add_left (h : AgreeOn relevant vs vs') {b : Binding}
    (hb : relevant b.key = false) : AgreeOn relevant (add env vs b) vs' := by
  intro n hn
  have hne : n ≠ b.key := by
    rintro rfl
    rw [hb] at hn
    exact nomatch hn
  rw [add, find?_set, if_neg hne, h n hn]

/-- The variables of bindings agree with those of the bindings that matter. -/
theorem agreeOn_foldl_filter (h : AgreeOn relevant vs vs')
    (henv : ∀ n, relevant n = true → env.value? n = env'.value? n) {bs : List Binding}
    (hclosed : ClosedUnder relevant bs) :
    AgreeOn relevant (bs.foldl (add env) vs)
      ((bs.filter fun b => relevant b.key).foldl (add env') vs') := by
  induction bs generalizing vs vs' with
  | nil => exact h
  | cons b r ih =>
    have hrest : ClosedUnder relevant r := fun c hc => hclosed c (List.mem_cons_of_mem _ hc)
    cases hb : relevant b.key with
    | true =>
      rw [List.filter_cons, if_pos hb]
      exact ih (agreeOn_add h henv (hclosed b List.mem_cons_self hb)) hrest
    | false =>
      rw [List.filter_cons, hb, if_neg Bool.false_ne_true]
      exact ih (agreeOn_add_left h hb) hrest

/-- The variables that bindings give, one after the other. -/
def valuesOf (env : Environment) (bs : List Binding) : Variables :=
  bs.foldl (add env) []

/-- Variables depend only on what they refer to: with the same bindings of names that are closed
under references, and environments that agree on these, they agree on them. -/
theorem agreeOn_valuesOf (henv : ∀ n, relevant n = true → env.value? n = env'.value? n)
    {bs bs' : List Binding} (hclosed : ClosedUnder relevant bs)
    (hsame : bs.filter (fun b => relevant b.key) = bs'.filter fun b => relevant b.key) :
    AgreeOn relevant (valuesOf env bs) (valuesOf env' bs') := by
  have hclosed' : ClosedUnder relevant bs' := fun b hb hkey =>
    have hmem : b ∈ bs.filter fun b => relevant b.key := hsame ▸ List.mem_filter.2 ⟨hb, hkey⟩
    hclosed b (List.mem_filter.1 hmem).1 hkey
  have hleft := agreeOn_foldl_filter (fun _ _ => rfl : AgreeOn relevant [] []) henv hclosed
  have hright := agreeOn_foldl_filter (fun _ _ => rfl : AgreeOn relevant [] [])
    (fun _ _ => rfl : ∀ n, relevant n = true → env'.value? n = env'.value? n) hclosed'
  intro n hn
  rw [valuesOf, valuesOf, hleft n hn, hright n hn, hsame]

/-! ### Names -/

/-- Setting a variable adds no name but its own. -/
theorem names_set (vs : Variables) (name : String) (value : Option String) :
    (vs.set name value).map (·.1) =
      if vs.any (·.1 = name) then vs.map (·.1) else vs.map (·.1) ++ [name] := by
  rw [Variables.set]
  split
  · rw [List.map_map]
    refine List.map_congr_left fun v _ => ?_
    by_cases hv : v.1 = name
    · simp [hv]
    · simp [hv]
  · rw [List.map_append]
    rfl

theorem nodup_names_set {vs : Variables} (h : (vs.map (·.1)).Nodup) (name : String)
    (value : Option String) : ((vs.set name value).map (·.1)).Nodup := by
  rw [names_set]
  cases hany : vs.any (·.1 = name) with
  | true => exact h
  | false =>
    have hnew : name ∉ vs.map (·.1) := by
      intro hmem
      obtain ⟨v, hv, rfl⟩ := List.mem_map.1 hmem
      exact List.any_eq_false.1 hany v hv (decide_eq_true rfl)
    rw [if_neg Bool.false_ne_true]
    refine List.nodup_append.2 ⟨h, List.nodup_cons.2 ⟨List.not_mem_nil, List.nodup_nil⟩, ?_⟩
    rintro n hn m hm rfl
    exact hnew (List.mem_singleton.1 hm ▸ hn)

theorem nodup_names_foldl (env : Environment) (bs : List Binding) {vs : Variables}
    (h : (vs.map (·.1)).Nodup) : ((bs.foldl (add env) vs).map (·.1)).Nodup := by
  induction bs generalizing vs with
  | nil => exact h
  | cons b r ih => exact ih (nodup_names_set h _ _)

theorem mem_names_foldl {bs : List Binding} {n : String}
    (h : n ∈ (bs.foldl (add env) vs).map (·.1)) : n ∈ vs.map (·.1) ∨ n ∈ bs.map Binding.key := by
  induction bs generalizing vs with
  | nil => exact .inl h
  | cons b r ih =>
    rw [List.map_cons, List.mem_cons]
    rcases ih h with hset | hrest
    · rw [add, names_set] at hset
      split at hset
      · exact .inl hset
      · rcases List.mem_append.1 hset with hold | hnew
        · exact .inl hold
        · exact .inr (.inl (List.mem_singleton.1 hnew))
    · exact .inr (.inr hrest)

/-- A file gives each name one value. -/
theorem nodup_names_valuesOf (env : Environment) (bs : List Binding) :
    ((valuesOf env bs).map (·.1)).Nodup :=
  nodup_names_foldl env bs List.nodup_nil

/-- A file gives no value to a name that it does not bind. -/
theorem mem_keys_of_mem_names {bs : List Binding} {n : String}
    (h : n ∈ (valuesOf env bs).map (·.1)) : n ∈ bs.map Binding.key :=
  (mem_names_foldl h).resolve_left List.not_mem_nil

end EnvFile

end ElementLookup
