/-
**Levels that can be written.**

A role selector shows the level in decimal, and a number with too many digits is not written.  So a
role has a selector for options that suit their properties exactly if the level among them, if there
is one, can be written.  Where it can be, what was shown of selectors as they are put together holds
of those that a session gives: the engine reads them back clause by clause, and takes each of them
for one part of a chain.

Main definitions:

* `Role.LevelFits`, `Lookup.LevelFits` — the level among options can be written.

Main results:

* `Role.isOverlong_iff_of_suits` — only a level can have too many digits;
* `Session.outcome_selectorOf_of_short`, `Session.outcome_selectorOf_of_overlong` — a lookup gives
  the selector that it is compiled to, unless its level cannot be written;
* `Session.roleSelector_read_back` — **a role selector is read as the role and the options it was
  made of**;
* `Session.selectorOf_one_part` — **a lookup for literal text gives one part of a chain**.
-/

import ElementLookup.Proofs.Selector.SinglePart
import ElementLookup.Proofs.Session.Indifference
import ElementLookup.Proofs.Session.RoleOptions

set_option autoImplicit false

namespace ElementLookup

/-! ### Levels among options -/

namespace Role

variable {options : Options}

/-- The level among options can be written, if there is one. -/
def LevelFits (options : Options) : Prop :=
  ∀ n : Int, given options .level = some (.int n) → Number.isOverlong n = false

/-- Of the values that suit a property, only a level can have too many digits. -/
theorem isOverlong_value_of_suits {p : Property} {v : Value} (h : p.Suits v) :
    v.isOverlong = true ↔ p = .level ∧ ∃ n, v = .int n ∧ Number.isOverlong n = true := by
  cases p with
  | level =>
    obtain ⟨n, -, rfl⟩ := h
    refine ⟨fun hn => ⟨rfl, n, rfl, hn⟩, ?_⟩
    rintro ⟨-, m, hm, hlong⟩
    obtain rfl := Value.int.inj hm
    exact hlong
  | name =>
    obtain ⟨s, -, rfl | rfl⟩ := h
    all_goals exact ⟨fun hlong => absurd hlong Bool.false_ne_true, fun hp => nomatch hp.1⟩
  | checked | disabled | selected | expanded | includeHidden | pressed =>
    obtain ⟨b, rfl⟩ := h
    exact ⟨fun hlong => absurd hlong Bool.false_ne_true, fun hp => nomatch hp.1⟩

/-- Options that suit their properties need too many digits exactly if their level does. -/
theorem isOverlong_iff_of_suits (role : String)
    (h : ∀ p v, given options p = some v → p.Suits v) :
    isOverlong (.text role) options = true ↔ ¬ LevelFits options := by
  have hsound : Property.all.takeWhile (fun p =>
      (given options p).all fun v => (clauseText p v).isOk) = Property.all := by
    refine List.takeWhile_eq_self_iff.2 fun p _ => (Option.all_eq_true _ _).2 fun v hv => ?_
    obtain ⟨value, -, -, htext⟩ := clauseText_of_suits (h p v hv)
    rw [htext]
    rfl
  rw [isOverlong_text, hsound, List.any_eq_true]
  constructor
  · rintro ⟨p, -, hp⟩ hfits
    obtain ⟨v, hv, hlong⟩ := (Option.any_eq_true _ _).1 hp
    obtain ⟨rfl, n, rfl, hn⟩ := (isOverlong_value_of_suits (h p v hv)).1 hlong
    rw [hfits n hv] at hn
    cases hn
  · intro hfits
    obtain ⟨n, hn, hlong⟩ : ∃ n : Int, given options .level = some (.int n) ∧
        Number.isOverlong n = true := by
      simpa [LevelFits] using hfits
    exact ⟨.level, Property.level.mem_all, (Option.any_eq_true _ _).2 ⟨_, hn, hlong⟩⟩

/-- Options for properties have no ignored keys. -/
theorem ignored_eq_nil (h : ∀ o ∈ options, ∃ p : Property, o.1 = p.key) :
    ignored options = [] := by
  refine List.eq_nil_iff_forall_not_mem.2 fun key hkey => ?_
  obtain ⟨hmem, -, hstray⟩ := mem_ignored.1 hkey
  obtain ⟨o, ho, rfl⟩ := List.mem_map.1 hmem
  obtain ⟨p, hp⟩ := h o ho
  exact hstray p hp

/-- What suits the property of its key suits the property that it is given to. -/
theorem suits_of_given_key (h : ∀ o ∈ options, ∃ p : Property, o.1 = p.key ∧ p.Suits o.2)
    {p : Property} {v : Value} (hv : given options p = some v) : p.Suits v := by
  refine suits_of_option? h ?_
  rwa [given_eq_option? fun o ho => ?_] at hv
  obtain ⟨q, hq, -⟩ := h o ho
  rw [hq]
  exact q.key_ne_alias

end Role

/-- The level among the options of a lookup can be written, if there is one. -/
def Lookup.LevelFits : Lookup → Prop
  | .byText .. => True
  | .byRole _ options => Role.LevelFits (Role.present options)

/-- A lookup for literal text needs too many digits exactly if its level does. -/
theorem Lookup.IsLiteral.isOverlong_iff {idAttribute : String} {l : Lookup}
    (h : l.IsLiteral idAttribute) : l.isOverlong = true ↔ ¬ l.LevelFits := by
  cases h with
  | byText => exact ⟨fun hlong => absurd hlong Bool.false_ne_true, fun hfits => absurd ⟨⟩ hfits⟩
  | @byRole role options hrole hoptions =>
    have hused : (Lookup.byRole (.text role) options).isMisused = false := by
      simpa [isMisused] using fun key v ho => (hoptions (key, v) ho).1
    rw [isOverlong, hused]
    exact Role.isOverlong_iff_of_suits role fun p v hv =>
      Role.suits_of_given (fun o ho => (hoptions o ho).2) hv

namespace Session

variable {s : Session} {c : Option ContextId} {idAttribute : String} {l : Lookup}

/-! ### Lookups and what they are compiled to -/

/-- A lookup is compiled under the attribute that its context uses; only a lookup by test id asks
for it. -/
theorem exists_outcome_compile (hid : l.kind = .text .testId → s.usedIn? c = some idAttribute) :
    ∃ t, outcome (l.compile (builderAttribute c)) s =
      (.ok (Id.run (l.compile (pure idAttribute))), t) := by
  cases l with
  | byRole role options =>
    rw [Lookup.compile, Lookup.compile]
    split <;> exact ⟨s, rfl⟩
  | byText kind v exact =>
    rw [Lookup.compile, Lookup.compile]
    split
    · exact ⟨s, rfl⟩
    · by_cases hkind : kind = .testId
      · obtain ⟨t, ht, -⟩ := supplies_of_usedIn? (hid (congrArg Kind.text hkind))
        rw [TextKind.attributeFor, TextKind.attributeFor, if_pos hkind, if_pos hkind]
        exact ⟨t, (outcome_bind_ok ht _).trans rfl⟩
      · rw [TextKind.attributeFor_of_ne hkind, TextKind.attributeFor_of_ne hkind]
        refine ⟨s, ?_⟩
        cases kind with
        | testId => exact absurd rfl hkind
        | altText | label | placeholder | text | title => rfl

/-- A lookup gives the selector that it is compiled to. -/
theorem outcome_selectorOf_of_short
    (hid : l.kind = .text .testId → s.usedIn? c = some idAttribute) (hshort : l.isOverlong = false)
    {sel : String} (hsel : Id.run (l.compile (pure idAttribute)) = .ok sel) :
    ∃ t, outcome (selectorOf c l) s = (.ok sel, t) := by
  have hcompile : ∀ s' : Session, (l.kind = .text .testId → s'.usedIn? c = some idAttribute) →
      ∃ t, outcome (l.compile (builderAttribute c)) s' = (.ok (.ok sel), t) := by
    intro s' hid'
    rw [← hsel]
    exact exists_outcome_compile hid'
  rw [selectorOf, hshort]
  cases hnote : l.note? with
  | none =>
    obtain ⟨t, ht⟩ := hcompile s hid
    exact ⟨t, outcome_bind_ok ht _⟩
  | some n =>
    -- only a lookup by role has something to say, and that asks for no attribute
    have hid' : l.kind = .text .testId → (s.heard n).usedIn? c = some idAttribute := by
      cases l with
      | byText => cases hnote
      | byRole => exact fun hkind => by cases hkind
    obtain ⟨t, ht⟩ := hcompile (s.heard n) hid'
    exact ⟨t, outcome_bind_ok ht _⟩

/-- A level with too many digits leaves a lookup without a selector. -/
theorem outcome_selectorOf_of_overlong (hlong : l.isOverlong = true) :
    ∃ t, outcome (selectorOf c l) s = (.error .overlongLevel, t) := by
  rw [selectorOf, hlong]
  cases l.note? with
  | none => exact ⟨s, rfl⟩
  | some n => exact ⟨s.heard n, rfl⟩

/-! ### Selectors that are read -/

/-- **A role selector is read as the role and the options it was made of.**  If the role has no
bracket, and the options have different keys and suit their properties, then there is a selector as
long as the level can be written, and the engine reads it in full: as that role, and as one clause
for each option, in the order of the properties.  A name may hold anything but a backslash: quotes,
brackets, whole clauses. -/
theorem roleSelector_read_back {role : String} {options : Role.Options} (hrole : '[' ∉ role.toList)
    (hkeys : (options.map (·.1)).Nodup)
    (hsuits : ∀ o ∈ options, ∃ p : Role.Property, o.1 = p.key ∧ p.Suits o.2) (s : Session) :
    (Role.LevelFits options →
      ∃ sel, outcome (roleSelector (.text role) options) s = (.ok sel, s) ∧
        Role.read? sel.toList = some (role.toList, Role.said options) ∧
        (Role.said options).length = options.length) ∧
    (¬ Role.LevelFits options →
      outcome (roleSelector (.text role) options) s = (.error .overlongLevel, s)) := by
  have hlong := Role.isOverlong_iff_of_suits role fun p v hv =>
    Role.suits_of_given_key hsuits hv
  have hignored : Role.ignored options = [] := by
    refine Role.ignored_eq_nil fun o ho => ?_
    obtain ⟨p, hp, -⟩ := hsuits o ho
    exact ⟨p, hp⟩
  rw [outcome_roleSelector, hignored, Role.answer]
  constructor
  · intro hfits
    obtain ⟨sel, hsel, hread, hlength⟩ := Role.exists_read_selector hrole hkeys hsuits
    have hlookup : Role.lookupSelector (.text role) options = .ok sel := by
      rw [Role.lookupSelector, show (Value.text role).display = role from rfl, hsel]
    refine ⟨sel, ?_, hread, hlength⟩
    rw [if_neg fun h => hlong.1 h hfits, hlookup]
    rfl
  · intro hfits
    rw [if_pos (hlong.2 hfits)]
    rfl

/-- A name that holds quotes, brackets and a clause, among options that are not given in the order
of the properties. -/
def hostileName : Role.Options :=
  [("name", .text "x\"i][checked=true] >> \"["), ("level", .int 12), ("includeHidden", .bool false)]

theorem suits_hostileName :
    ∀ o ∈ hostileName, ∃ p : Role.Property, o.1 = p.key ∧ p.Suits o.2 := by
  intro o ho
  simp only [hostileName, List.mem_cons, List.not_mem_nil, or_false] at ho
  rcases ho with rfl | rfl | rfl
  · exact ⟨.name, rfl, _, by decide, .inl rfl⟩
  · exact ⟨.level, rfl, 12, by decide, rfl⟩
  · exact ⟨.includeHidden, rfl, false, rfl⟩

/-- The statement for these options. -/
theorem roleSelector_read_back_hostile_name :
    '[' ∉ "button".toList ∧ (hostileName.map (·.1)).Nodup ∧ Role.LevelFits hostileName ∧
    ∃ sel, outcome (roleSelector (.text "button") hostileName) listeningStart =
        (.ok sel, listeningStart) ∧
      Role.read? sel.toList = some ("button".toList, [
        ⟨"include-hidden".toList, .word "false".toList⟩, ⟨"level".toList, .word "12".toList⟩,
        ⟨"name".toList, .quoted "x\"i][checked=true] >> \"[".toList true⟩]) := by
  have hrole : '[' ∉ "button".toList := by decide
  have hkeys : (hostileName.map (·.1)).Nodup := by decide
  have hfits : Role.LevelFits hostileName := by
    intro n hn
    obtain rfl : 12 = n := Value.int.inj (Option.some.inj hn)
    decide +kernel
  obtain ⟨sel, hsel, hread, -⟩ :=
    (roleSelector_read_back hrole hkeys suits_hostileName listeningStart).1 hfits
  exact ⟨hrole, hkeys, hfits, sel, hsel, hread⟩

/-- A level that has one digit more than may be written. -/
def overlongLevel : Role.Options := [("level", .int (Nat.pow 10 Number.digitLimit))]

theorem suits_overlongLevel :
    ∀ o ∈ overlongLevel, ∃ p : Role.Property, o.1 = p.key ∧ p.Suits o.2 := by
  intro o ho
  obtain rfl := List.mem_singleton.1 ho
  exact ⟨.level, rfl, _, by decide +kernel, rfl⟩

theorem not_levelFits_overlongLevel : ¬ Role.LevelFits overlongLevel := by
  intro hfits
  have hshort := hfits (Nat.pow 10 Number.digitLimit) rfl
  have hlong : Number.isOverlong (Nat.pow 10 Number.digitLimit) = true := by decide +kernel
  rw [hshort] at hlong
  cases hlong

/-- There are a role and options that suit their properties and have no selector. -/
theorem overlong_role_unread :
    '[' ∉ "a".toList ∧ (overlongLevel.map (·.1)).Nodup ∧
    (∀ o ∈ overlongLevel, ∃ p : Role.Property, o.1 = p.key ∧ p.Suits o.2) ∧
    ∀ (s : Session) (sel : String),
      (outcome (roleSelector (.text "a") overlongLevel) s).1 ≠ .ok sel := by
  refine ⟨by decide, by decide, suits_overlongLevel, fun s sel h => ?_⟩
  have hlong := Role.isOverlong_iff_of_suits "a" fun p v hv =>
    Role.suits_of_given_key suits_overlongLevel hv
  rw [outcome_roleSelector, Role.answer, if_pos (hlong.2 not_levelFits_overlongLevel)] at h
  cases h

/-- **A lookup for literal text gives one part of a chain.**  As long as its level can be written it
has a selector, and the engine's splitter finds one part in it; inexact text is even written without
any separator. -/
theorem selectorOf_one_part (h : l.IsLiteral idAttribute)
    (hid : l.kind = .text .testId → s.usedIn? c = some idAttribute) :
    (l.LevelFits → ∃ sel t, outcome (selectorOf c l) s = (.ok sel, t) ∧
      Selector.chainParts sel = [sel] ∧
      (l.isUnquoted = true → ¬ ['>', '>'] <:+: sel.toList)) ∧
    (¬ l.LevelFits → ∃ t, outcome (selectorOf c l) s = (.error .overlongLevel, t)) := by
  refine ⟨fun hfits => ?_, fun hfits => outcome_selectorOf_of_overlong (h.isOverlong_iff.2 hfits)⟩
  obtain ⟨sel, hsel, hone, hplain⟩ := Lookup.chainParts_compile h
  have hshort : l.isOverlong = false :=
    Bool.eq_false_iff.2 fun hlong => h.isOverlong_iff.1 hlong hfits
  obtain ⟨t, ht⟩ := outcome_selectorOf_of_short hid hshort hsel
  exact ⟨sel, t, ht, hone, hplain⟩

/-- Inexact text in which a separator stands between a backslash and quotes. -/
def hostileText : Lookup := .byText .text (.text "/a\\>>\x27b\">>>\x60") none

/-- A role between angle brackets whose name ends its clause and begins another part, with options
that are null, unknown or given under the second spelling. -/
def hostileRole : Lookup :=
  .byRole (.text ">x>") [("name", .text "\"i] >> role=b[name=\x27"), ("include_hidden", .bool true),
    ("level", .null), ("unknown", .text ">>")]

/-- A test id with a separator between quotes. -/
def hostileTestId : Lookup := .byText .testId (.text "a\" >> b") none

/-- A session with one context. -/
def oneContext : Session := { listeningStart with contexts := ["data-qa"] }

/-- The statement for these three, in a session with one context. -/
theorem selectorOf_one_part_hostile :
    (∃ sel t, outcome (selectorOf none hostileText) oneContext = (.ok sel, t) ∧
      Selector.chainParts sel = [sel] ∧ ¬ ['>', '>'] <:+: sel.toList) ∧
    (∃ sel t, outcome (selectorOf none hostileRole) oneContext = (.ok sel, t) ∧
      Selector.chainParts sel = [sel]) ∧
    ∃ sel t, outcome (selectorOf (some 0) hostileTestId) oneContext = (.ok sel, t) ∧
      Selector.chainParts sel = [sel] := by
  have htext : hostileText.IsLiteral "data-qa" :=
    @Lookup.IsLiteral.byText "data-qa" .text _ _ none rfl (fun h => by cases h)
      (fun h => by cases h)
  have hrole : hostileRole.IsLiteral "data-qa" := by
    refine .byRole (by decide) fun o ho => ?_
    simp only [List.mem_cons, List.not_mem_nil, or_false] at ho
    rcases ho with rfl | rfl | rfl | rfl
    · refine ⟨by decide, .inr fun p hp => ?_⟩
      obtain rfl : p = .name := by revert hp; cases p <;> decide
      exact ⟨_, by decide, .inl rfl⟩
    · refine ⟨by decide, .inr fun p hp => ?_⟩
      obtain rfl : p = .includeHidden := by revert hp; cases p <;> decide
      exact ⟨true, rfl⟩
    · exact ⟨by decide, .inl rfl⟩
    · exact ⟨by decide, .inr fun p hp => absurd hp (by cases p <;> decide)⟩
  have htestId : hostileTestId.IsLiteral "data-qa" :=
    @Lookup.IsLiteral.byText "data-qa" .testId _ _ none rfl (fun _ => ⟨rfl, by decide⟩)
      (fun _ => by decide)
  have hfits : hostileRole.LevelFits := by
    intro n hn
    cases hn
  refine ⟨?_, ?_, ?_⟩
  · obtain ⟨sel, t, hsel, hone, hplain⟩ :=
      (selectorOf_one_part (s := oneContext) (c := none) htext fun h => by cases h).1 ⟨⟩
    exact ⟨sel, t, hsel, hone, hplain rfl⟩
  · obtain ⟨sel, t, hsel, hone, -⟩ :=
      (selectorOf_one_part (s := oneContext) (c := none) hrole fun h => by cases h).1 hfits
    exact ⟨sel, t, hsel, hone⟩
  · obtain ⟨sel, t, hsel, hone, -⟩ :=
      (selectorOf_one_part (s := oneContext) (c := some 0) htestId fun _ => rfl).1 ⟨⟩
    exact ⟨sel, t, hsel, hone⟩

/-- There is a lookup for literal text that has no selector to be split. -/
theorem overlong_lookup_unsplit :
    (Lookup.byRole (.text "a") overlongLevel).IsLiteral "data-testid" ∧
    ∀ (s : Session) (c : Option ContextId) (sel : String),
      (outcome (selectorOf c (.byRole (.text "a") overlongLevel)) s).1 ≠ .ok sel := by
  have hliteral : (Lookup.byRole (.text "a") overlongLevel).IsLiteral "data-testid" := by
    refine .byRole (by decide) fun o ho => ?_
    obtain ⟨p, hp, hsuits⟩ := suits_overlongLevel o ho
    obtain rfl := List.mem_singleton.1 ho
    refine ⟨by decide, .inr fun q hq => ?_⟩
    rcases hq with hq | ⟨-, hq⟩
    · rwa [← Role.Property.key_inj (hp.symm.trans hq)]
    · exact absurd hq (by decide)
  refine ⟨hliteral, fun s c sel h => ?_⟩
  have hlong : (Lookup.byRole (.text "a") overlongLevel).isOverlong = true :=
    hliteral.isOverlong_iff.2 not_levelFits_overlongLevel
  obtain ⟨t, ht⟩ := outcome_selectorOf_of_overlong (s := s) (c := c) hlong
  rw [ht] at h
  cases h

end Session

end ElementLookup
