/-
**Different role queries have different selectors.**

A pattern stands in a selector as it was written, slashes and brackets included, and the backslashes
of a literal name are not escaped.  So a selector cannot always be read from left to right.  It
still determines the query.  The clauses before the name hold no bracket within their values, so
they can be taken off one by one from the left; whether the last clause is there, and what it says,
shows at the right end, because no name ends like a truth value; and what remains is the name alone.

Main definitions:

* `Role.written` — the clauses of some properties, one after the other;
* `RoleQuery.state?` — the truth values of a query by property;
* `RoleQuery.beforeName` — the properties whose clauses come before the name.

Main results:

* `Role.written_cons_inj`, `Role.written_append_inj` — clauses without a bracket in their values are
  taken off from the left;
* `Role.role_inj` — and before them the role;
* `Role.pressed_inj` — the clause after the name is taken off from the right;
* `RoleQuery.selector_injective` — **a role query is determined by its selector**, apart from its
  description.
-/

import ElementLookup.Proofs.Selector.RoleReading
import ElementLookup.Proofs.Selector.WrittenForm

set_option autoImplicit false

namespace ElementLookup

namespace Role

/-! ### Clauses from the left -/

/-- The clauses of those properties that have a text, one after the other. -/
def written (text? : Property → Option String) (ps : List Property) : List Char :=
  ps.flatMap fun p => (text? p).elim [] fun text => (clause p text).toList

section Written

variable {f g : Property → Option String} {p : Property} {ps : List Property}

@[simp] theorem written_nil : written f [] = [] := rfl

theorem written_cons_none (h : f p = none) : written f (p :: ps) = written f ps := by
  simp [written, h]

theorem written_cons_some {text : String} (h : f p = some text) :
    written f (p :: ps) =
      '[' :: (p.clauseKey.toList ++ '=' :: (text.toList ++ ']' :: written f ps)) := by
  simp [written, h, clause]

/-- Clauses start with a bracket, if there are any. -/
theorem head?_written (f : Property → Option String) (ps : List Property) :
    ∀ c, (written f ps).head? = some c → c = '[' := by
  refine head?_flatMap (fun p c hc => ?_) ps
  cases hp : f p with
  | none =>
      rw [hp] at hc
      cases hc
  | some text =>
      rw [hp] at hc
      simpa [clause] using hc.symm

theorem Property.clauseKey_inj {p q : Property} (h : p.clauseKey = q.clauseKey) : p = q := by
  cases p <;> cases q <;> simp_all [Property.clauseKey, Property.key]

theorem Property.eq_notMem_clauseKey (p : Property) : '=' ∉ p.clauseKey.toList := by
  cases p <;> decide

/-- Two clauses have the same property if they stand in front of the same text. -/
theorem property_eq_of_clause_eq {q : Property} {r s : List Char}
    (h : '[' :: (p.clauseKey.toList ++ '=' :: r) = '[' :: (q.clauseKey.toList ++ '=' :: s)) :
    p = q ∧ r = s := by
  obtain ⟨hkey, hrest⟩ := Text.append_cons_inj_left p.eq_notMem_clauseKey q.eq_notMem_clauseKey
    (List.cons.inj h).2
  exact ⟨Property.clauseKey_inj (String.toList_inj.1 hkey), hrest⟩

/-- Clauses of other properties do not start like a clause of this one. -/
theorem written_ne_clause (hp : p ∉ ps) (r : List Char) :
    written f ps ≠ '[' :: (p.clauseKey.toList ++ '=' :: r) := by
  induction ps with
  | nil => simp
  | cons q qs ih =>
      rw [List.mem_cons, not_or] at hp
      cases hq : f q with
      | none =>
          rw [written_cons_none hq]
          exact ih hp.2
      | some text =>
          rw [written_cons_some hq]
          intro h
          exact hp.1 (property_eq_of_clause_eq h).1.symm

/-- Equal clauses agree on whether the first property is there, and start alike if it is. -/
theorem written_cons_eq (hp : p ∉ ps) (h : written f (p :: ps) = written g (p :: ps)) :
    (f p = none ∧ g p = none ∧ written f ps = written g ps) ∨
    ∃ s t, f p = some s ∧ g p = some t ∧
      s.toList ++ ']' :: written f ps = t.toList ++ ']' :: written g ps := by
  cases hf : f p with
  | none =>
      rw [written_cons_none hf] at h
      cases hg : g p with
      | none => exact .inl ⟨rfl, rfl, by rw [h, written_cons_none hg]⟩
      | some t =>
          rw [written_cons_some hg] at h
          exact absurd h (written_ne_clause hp _)
  | some s =>
      rw [written_cons_some hf] at h
      cases hg : g p with
      | none =>
          rw [written_cons_none hg] at h
          exact absurd h.symm (written_ne_clause hp _)
      | some t =>
          rw [written_cons_some hg] at h
          exact .inr ⟨s, t, rfl, rfl, (property_eq_of_clause_eq h).2⟩

/-- Whether the text of a property, if it has one, is free of closing brackets. -/
def Bracketless (text? : Property → Option String) (p : Property) : Prop :=
  ∀ text, text? p = some text → ']' ∉ text.toList

/-- A clause without a bracket in its value is taken off from the left. -/
theorem written_cons_inj (hf : Bracketless f p) (hg : Bracketless g p) (hp : p ∉ ps)
    (h : written f (p :: ps) = written g (p :: ps)) : f p = g p ∧ written f ps = written g ps := by
  obtain ⟨hfp, hgp, hrest⟩ | ⟨s, t, hfp, hgp, hrest⟩ := written_cons_eq hp h
  · exact ⟨hfp.trans hgp.symm, hrest⟩
  · obtain ⟨htext, htail⟩ := Text.append_cons_inj_left (hf s hfp) (hg t hgp) hrest
    rw [hfp, hgp, String.toList_inj.1 htext]
    exact ⟨rfl, htail⟩

/-- Several such clauses are taken off one by one. -/
theorem written_append_inj {front back : List Property} (hnodup : (front ++ back).Nodup)
    (hf : ∀ p ∈ front, Bracketless f p) (hg : ∀ p ∈ front, Bracketless g p)
    (h : written f (front ++ back) = written g (front ++ back)) :
    (∀ p ∈ front, f p = g p) ∧ written f back = written g back := by
  induction front with
  | nil => exact ⟨by simp, h⟩
  | cons p r ih =>
      rw [List.forall_mem_cons] at hf hg
      rw [List.cons_append, List.nodup_cons] at hnodup
      obtain ⟨hp, hrest⟩ := written_cons_inj hf.1 hg.1 hnodup.1 h
      obtain ⟨hr, hback⟩ := ih hnodup.2 hf.2 hg.2 hrest
      exact ⟨List.forall_mem_cons.2 ⟨hp, hr⟩, hback⟩

end Written

/-- A role without a bracket is taken off before all clauses. -/
theorem role_inj {f g : Property → Option String} {ps : List Property} {a b : List Char}
    (ha : '[' ∉ a) (hb : '[' ∉ b) (h : a ++ written f ps = b ++ written g ps) :
    a = b ∧ written f ps = written g ps := by
  obtain ⟨htakeA, hdropA⟩ := takeWhile_role ha (head?_written f ps)
  obtain ⟨htakeB, hdropB⟩ := takeWhile_role hb (head?_written g ps)
  rw [h] at htakeA hdropA
  exact ⟨htakeA.symm.trans htakeB, hdropA.symm.trans hdropB⟩

/-! ### Clauses from the right -/

/-- A name does not end like a truth value: an inexact text ends with its mark, and a pattern with a
flag or a slash. -/
theorem getLast?_attributeBody (value : TextValue) :
    (Selector.attributeBody value false).toList.getLast? ≠ some 'e' := by
  cases value with
  | literal text =>
      rw [Selector.attributeBody, Selector.getLast?_attributeText]
      decide
  | pattern p =>
      intro h
      have hlast : ('/' :: p.flags.toList).getLast? = some 'e' := by
        simpa [Selector.attributeBody, Selector.toList_literal, List.getLast?_cons] using h
      rcases List.mem_cons.1 (List.mem_of_getLast? hlast) with he | he
      · cases he
      · exact absurd (p.accepted.1 'e' he) (by decide)

/-- A truth value as a word of a clause. -/
def word (b : Bool) : List Char := (stateText (.bool b)).toList

theorem getLast?_word (b : Bool) : (word b).getLast? = some 'e' := by
  cases b <;> decide

theorem equals_notMem_word (b : Bool) : '=' ∉ word b := by
  cases b <;> decide

theorem word_inj {a b : Bool} (h : word a = word b) : a = b := by
  revert a b
  decide

section Pressed

variable {f g : Property → Option String} {s t : List Char}

/-- The clause of a truth value, cut at its last `=`. -/
theorem append_written_word {p : Property} {b : Bool}
    (h : f p = some (stateText (.bool b))) (s : List Char) :
    s ++ ']' :: written f [p] =
      ((s ++ ']' :: '[' :: p.clauseKey.toList) ++ '=' :: word b) ++ [']'] := by
  simp [written_cons_some h, word]

/-- What ends like a truth value is not what ends with a name. -/
theorem ne_append_written_word {p : Property} {b : Bool}
    (h : f p = some (stateText (.bool b))) (hs : s.getLast? ≠ some 'e') :
    s ++ [']'] ≠ t ++ ']' :: written f [p] := by
  rw [append_written_word h]
  intro he
  rw [List.append_cancel_right he, List.getLast?_append] at hs
  simp [List.getLast?_cons, getLast?_word] at hs

/-- A clause of a truth value after a name is taken off from the right. -/
theorem pressed_inj {p : Property} (hs : s.getLast? ≠ some 'e') (ht : t.getLast? ≠ some 'e')
    {a b : Option Bool} (hf : f p = a.map fun b => stateText (.bool b))
    (hg : g p = b.map fun b => stateText (.bool b))
    (h : s ++ ']' :: written f [p] = t ++ ']' :: written g [p]) : s = t ∧ a = b := by
  cases a with
  | none =>
      rw [written_cons_none hf] at h
      cases b with
      | none =>
          rw [written_cons_none hg] at h
          exact ⟨List.append_cancel_right h, rfl⟩
      | some b => exact absurd h (ne_append_written_word hg hs)
  | some a =>
      cases b with
      | none =>
          rw [written_cons_none hg] at h
          exact absurd h.symm (ne_append_written_word hf ht)
      | some b =>
          rw [append_written_word hf, append_written_word hg] at h
          obtain ⟨hleft, hword⟩ := Text.append_cons_inj_right (equals_notMem_word a)
            (equals_notMem_word b) (List.append_cancel_right h)
          exact ⟨List.append_cancel_right hleft, by rw [word_inj hword]⟩

end Pressed

end Role

/-! ### Queries -/

namespace RoleQuery

/-- The truth value that a query gives to a property. -/
def state? (q : RoleQuery) : Role.Property → Option Bool
  | .checked => q.checked
  | .disabled => q.disabled
  | .selected => q.selected
  | .expanded => q.expanded
  | .includeHidden => q.includeHidden
  | .pressed => q.pressed
  | .level | .name => none

theorem clauseText?_state (q : RoleQuery) {p : Role.Property} (hlevel : p ≠ .level)
    (hname : p ≠ .name) :
    q.clauseText? p = (q.state? p).map fun b => Role.stateText (.bool b) := by
  obtain ⟨_, _, checked, disabled, selected, expanded, hidden, _, _, pressed⟩ := q
  cases p
  case checked => cases checked <;> rfl
  case disabled => cases disabled <;> rfl
  case selected => cases selected <;> rfl
  case expanded => cases expanded <;> rfl
  case includeHidden => cases hidden <;> rfl
  case level => exact absurd rfl hlevel
  case name => exact absurd rfl hname
  case pressed => cases pressed <;> rfl

/-- The properties whose clauses come before the name. -/
def beforeName : List Role.Property :=
  [.checked, .disabled, .selected, .expanded, .includeHidden, .level]

theorem all_eq : Role.Property.all = beforeName ++ [.name, .pressed] := rfl

theorem ne_name_of_mem {p : Role.Property} (h : p ∈ beforeName) : p ≠ .name := by
  rintro rfl
  exact absurd h (by decide)

/-- A clause other than that of the name is a number or a word. -/
theorem mem_clauseText? {q : RoleQuery} {p : Role.Property} (hname : p ≠ .name) {text : String}
    (htext : q.clauseText? p = some text) {c : Char} (hc : c ∈ text.toList) :
    c = '-' ∨ c.isAlphanum = true := by
  by_cases hlevel : p = .level
  · subst hlevel
    obtain ⟨n, -, rfl⟩ := Option.map_eq_some_iff.1 htext
    exact (Number.mem_toString hc).imp_right fun h => by rw [Char.isAlphanum, h, Bool.or_true]
  · rw [q.clauseText?_state hlevel hname] at htext
    obtain ⟨b, -, rfl⟩ := Option.map_eq_some_iff.1 htext
    have hletters : (Role.stateText (.bool b)).toList.all Char.isAlphanum = true := by
      cases b <;> decide
    exact .inr (List.all_eq_true.1 hletters c hc)

/-- Only a name can hold a bracket. -/
theorem bracketless_clauseText? (q : RoleQuery) {p : Role.Property} (hname : p ≠ .name) :
    Role.Bracketless q.clauseText? p := by
  intro text htext hc
  rcases mem_clauseText? hname htext hc with h | h
  · exact absurd h (by decide)
  · exact absurd h (by decide)

/-- The truth values of a query are determined by the texts of its clauses. -/
theorem state?_eq_of_clauseText?_eq {q r : RoleQuery} {p : Role.Property} (hlevel : p ≠ .level)
    (hname : p ≠ .name) (h : q.clauseText? p = r.clauseText? p) : q.state? p = r.state? p := by
  rw [q.clauseText?_state hlevel hname, r.clauseText?_state hlevel hname] at h
  exact Option.map_injective (fun a b hab => Role.word_inj (congrArg String.toList hab)) h

/-- A selector is written clause by clause. -/
theorem toList_selector (q : RoleQuery) :
    q.selector.toList =
      "role=".toList ++ (q.role.toList ++ Role.written q.clauseText? Role.Property.all) := by
  rw [RoleQuery.selector, Role.toList_render, Role.flatMap_filterMap, Role.written]
  congr 3
  funext p
  cases q.clauseText? p <;> rfl

/-- Names are determined by their clause and the one after it. -/
theorem name_and_pressed_eq {q r : RoleQuery}
    (h : Role.written q.clauseText? [.name, .pressed] =
      Role.written r.clauseText? [.name, .pressed]) :
    q.name = r.name ∧ q.pressed = r.pressed := by
  have hstate : ∀ u : RoleQuery, u.clauseText? .pressed =
      u.pressed.map fun b => Role.stateText (.bool b) := fun u =>
    u.clauseText?_state (by decide) (by decide)
  obtain ⟨hq, hr, hrest⟩ | ⟨s, t, hq, hr, hrest⟩ := Role.written_cons_eq (by decide) h
  · have hpressed : q.state? .pressed = r.state? .pressed :=
      state?_eq_of_clauseText?_eq (by decide) (by decide)
        (Role.written_cons_inj (q.bracketless_clauseText? (by decide))
          (r.bracketless_clauseText? (by decide)) (by decide) hrest).1
    rw [Option.map_eq_none_iff.1 hq, Option.map_eq_none_iff.1 hr]
    exact ⟨rfl, hpressed⟩
  · obtain ⟨v, hv, rfl⟩ := Option.map_eq_some_iff.1 hq
    obtain ⟨w, hw, rfl⟩ := Option.map_eq_some_iff.1 hr
    obtain ⟨hbody, hpressed⟩ := Role.pressed_inj (Role.getLast?_attributeBody v)
      (Role.getLast?_attributeBody w) (hstate q) (hstate r) hrest
    rw [hv, hw, (Selector.attributeBody_eq_iff.1 (String.toList_inj.1 hbody)).1]
    exact ⟨rfl, hpressed⟩

/-- **A role query is determined by its selector**, whatever its name holds and under whatever
attributes for test ids, apart from its description, which is not part of the selector. -/
theorem selector_injective {q r : RoleQuery} (hq : '[' ∉ q.role.toList) (hr : '[' ∉ r.role.toList)
    {a b : String} (h : (Query.role q).selector a = (Query.role r).selector b) :
    q = { r with description := q.description } := by
  have hchars : q.role.toList ++ Role.written q.clauseText? Role.Property.all =
      r.role.toList ++ Role.written r.clauseText? Role.Property.all := by
    have hlist := congrArg String.toList (show q.selector = r.selector from h)
    rw [toList_selector, toList_selector] at hlist
    exact List.append_cancel_left hlist
  obtain ⟨hrole, hclauses⟩ := Role.role_inj hq hr hchars
  rw [all_eq] at hclauses
  obtain ⟨hfront, hback⟩ := Role.written_append_inj (by decide)
    (fun p hp => q.bracketless_clauseText? (ne_name_of_mem hp))
    (fun p hp => r.bracketless_clauseText? (ne_name_of_mem hp)) hclauses
  obtain ⟨hname, hpressed⟩ := name_and_pressed_eq hback
  have hlevel : q.level = r.level :=
    Option.map_injective (fun _ _ => Number.toString_injective) (hfront .level (by decide))
  have hstate : ∀ p ∈ beforeName, p ≠ .level → q.state? p = r.state? p := fun p hp hne =>
    state?_eq_of_clauseText?_eq hne (ne_name_of_mem hp) (hfront p hp)
  exact RoleQuery.ext rfl (String.toList_inj.1 hrole) (hstate .checked (by decide) (by decide))
    (hstate .disabled (by decide) (by decide)) (hstate .selected (by decide) (by decide))
    (hstate .expanded (by decide) (by decide)) (hstate .includeHidden (by decide) (by decide))
    hlevel hname hpressed

theorem acceptedFlags_ignoreCase : TextPattern.AcceptedFlags "i" := by decide

/-- A query whose name is a pattern that reads like the end of its clause and another clause. -/
def bracketedQuery (description : String) : RoleQuery where
  description := some description
  role := "button"
  checked := none
  disabled := none
  selected := none
  expanded := none
  includeHidden := some false
  level := some 2
  name := some (.pattern ⟨"a/i][pressed=true]", "i", acceptedFlags_ignoreCase⟩)
  pressed := none

/-- The statement for two queries that differ in their descriptions. -/
theorem selector_injective_bracketed_pattern :
    '[' ∉ "button".toList ∧
    (Query.role (bracketedQuery "left")).selector "data-testid" =
      "role=button[include-hidden=false][level=2][name=/a/i][pressed=true]/i]" ∧
    bracketedQuery "left" = { bracketedQuery "right" with description := some "left" } :=
  ⟨by decide, by decide +kernel,
    selector_injective (q := bracketedQuery "left") (r := bracketedQuery "right") (by decide)
      (by decide) (a := "data-testid") (b := "data-test") rfl⟩

end RoleQuery

end ElementLookup
