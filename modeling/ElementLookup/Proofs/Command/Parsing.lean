/-
**Arguments for what is to be asked.**

Whatever a command has options for can be asked of it, in any combination and with any text as its
argument, also with one that looks like an option: each option is spelled in full, and two strokes
go before the argument.  So nothing that is shown of all readings is shown of too few.

Main definitions:

* `Command.Parses` — arguments are read as a command with options and positional arguments;
* `Command.Name.Spells` — an option can be spelled for a command;
* `Command.Reading.flags`, `Command.Reading.isPattern`, `Command.Reading.isExact`,
  `Command.Reading.attribute?` — what a reading says of a lookup for a text.

Main results:

* `Command.exists_parses` — **options that can be spelled can be given together**, before any text;
* `Command.exists_parses_text`, `Command.exists_parses_role` — every combination of what the
  commands for single lookups take can be asked for.
-/

import ElementLookup.Proofs.Command.Runs

set_option autoImplicit false

namespace ElementLookup.Command

/-! ### Arguments that are read -/

/-- Arguments name a command, and have a reading by its signature that asks for no notice. -/
structure Parses (args : List String) (n : Name) (r : Reading Choice) : Prop where
  /-- There may be options before the command; what follows it is read by its signature. -/
  opening : ∃ level rest, Opening.read args = .ok (.proceed level (n.text :: rest)) ∧
    n.signature.read rest = .ok r
  /-- No help is asked for. -/
  quiet : notice? r = none

/-- The flags that are given. -/
def Reading.flags (r : Reading Choice) : String := (r.text? .flags).getD ""

/-- Whether the text is meant to be a pattern. -/
def Reading.isPattern (r : Reading Choice) : Bool := (r.state? .regex).getD false

/-- Whether the text is to be compared exactly. -/
def Reading.isExact (r : Reading Choice) : Bool := (r.state? .exact).getD false

/-- The attribute for test ids that is given, unless it is empty. -/
def Reading.attribute? (r : Reading Choice) : Option String :=
  (r.text? .idAttribute).filter (· ≠ "")

/-! ### Options that can be spelled -/

/-- An option can be spelled for a command, with what is to be given for it. -/
inductive Name.Spells (n : Name) : Choice × Given → Prop
  | text (word : String) {c : Choice} (s : String) (hword : word ≠ "--")
      (hlook : looksLikeOption word = true) (hplain : splitValue word = (word, none))
      (hlong : n.signature.long? word = some ⟨word, c, .takes⟩) : n.Spells (c, .text s)
  | state (word : String) {c : Choice} {b : Bool} (hword : word ≠ "--")
      (hlook : looksLikeOption word = true) (hplain : splitValue word = (word, none))
      (hlong : n.signature.long? word = some ⟨word, c, .states b⟩) : n.Spells (c, .state b)

variable {n : Name} {options : List (Choice × Given)}

/-- Options that can be spelled can be given together, and before any text. -/
theorem Name.exists_reads (h : ∀ o ∈ options, n.Spells o) (value : String) :
    ∃ rest, n.signature.Reads rest ⟨options, [value]⟩ := by
  induction options with
  | nil => exact ⟨["--", value], .strokes [value]⟩
  | cons o r ih =>
    rw [List.forall_mem_cons] at h
    obtain ⟨rest, hrest⟩ := ih h.2
    cases h.1 with
    | @text word c s hword hlook hplain hlong =>
      have hspelling : n.signature.long? (splitValue word).1 = some ⟨word, c, .takes⟩ := by
        rw [hplain]
        exact hlong
      exact ⟨_, .following hword hlook hspelling rfl (congrArg Prod.snd hplain) hrest⟩
    | @state word c b hword hlook hplain hlong =>
      have hspelling : n.signature.long? (splitValue word).1 = some ⟨word, c, .states b⟩ := by
        rw [hplain]
        exact hlong
      exact ⟨_, .state hword hlook hspelling rfl (congrArg Prod.snd hplain) hrest⟩

theorem exists_parses (h : ∀ o ∈ options, n.Spells o) (hquiet : notice? ⟨options, []⟩ = none)
    (value : String) : ∃ args, Parses args n ⟨options, [value]⟩ := by
  obtain ⟨rest, hrest⟩ := n.exists_reads h value
  exact ⟨n.text :: rest, ⟨none, rest, opening_read n rest, Signature.read_of_reads hrest⟩, hquiet⟩

/-! ### Lookups for texts -/

theorem spells_flags (kind : TextKind) (s : String) :
    (Name.byText kind).Spells (.flags, .text s) :=
  .text "--flags" s (by decide) (by decide) rfl (by cases kind <;> rfl)

theorem spells_regex (kind : TextKind) : (Name.byText kind).Spells (.regex, .state true) :=
  .state "--regex" (by decide) (by decide) rfl (by cases kind <;> rfl)

theorem spells_exact {kind : TextKind} (h : kind ≠ .testId) (b : Bool) :
    (Name.byText kind).Spells (.exact, .state b) := by
  cases kind with
  | testId => exact absurd rfl h
  | text | label | altText | title | placeholder =>
    cases b with
    | true => exact .state "--exact" (by decide) (by decide) rfl rfl
    | false => exact .state "--no-exact" (by decide) (by decide) rfl rfl

theorem spells_idAttribute (s : String) :
    (Name.byText .testId).Spells (.idAttribute, .text s) :=
  .text "--attribute" s (by decide) (by decide) rfl rfl

/-- Every value can be asked for with every combination of what a lookup for a text takes. -/
theorem exists_parses_text {kind : TextKind} (hkind : kind ≠ .testId) (value flags : String)
    (exact regex : Bool) : ∃ args r, Parses args (.byText kind) r ∧ r.positional = [value] ∧
      r.flags = flags ∧ r.isPattern = regex ∧ r.isExact = exact := by
  have hspells : ∀ o ∈ (if regex then [(Choice.regex, Given.state true)] else []) ++
      [(.exact, .state exact), (.flags, .text flags)], (Name.byText kind).Spells o := by
    cases regex <;> simp [spells_flags, spells_regex, spells_exact hkind]
  obtain ⟨args, hargs⟩ := exists_parses hspells (by cases regex <;> rfl) value
  refine ⟨args, _, hargs, rfl, ?_⟩
  cases regex <;> exact ⟨rfl, rfl, rfl⟩

/-- Every value can be asked for with every combination of what a lookup by test id takes. -/
theorem exists_parses_testId (value flags : String) (regex : Bool) (own : Option String) :
    ∃ args r, Parses args (.byText .testId) r ∧ r.positional = [value] ∧
      r.flags = flags ∧ r.isPattern = regex ∧ r.attribute? = own.filter (· ≠ "") := by
  have hspells : ∀ o ∈ (if regex then [(Choice.regex, Given.state true)] else []) ++
      ((own.map fun name => (.idAttribute, .text name)).toList ++ [(.flags, .text flags)]),
      (Name.byText .testId).Spells o := by
    cases regex <;> cases own <;> simp [spells_flags, spells_regex, spells_idAttribute]
  have hquiet : notice? ⟨(if regex then [(Choice.regex, Given.state true)] else []) ++
      ((own.map fun name => (.idAttribute, .text name)).toList ++ [(.flags, .text flags)]), []⟩ =
      none := by
    cases regex <;> cases own <;> rfl
  obtain ⟨args, hargs⟩ := exists_parses hspells hquiet value
  refine ⟨args, _, hargs, rfl, ?_⟩
  cases regex <;> cases own <;> exact ⟨rfl, rfl, rfl⟩

/-! ### Lookups for roles -/

/-- Whether something can be given for a property: a text for a name or a level, and a state for
anything else. -/
def suitsProperty (p : Role.Property) (g : Given) : Bool :=
  match p, g with
  | .name, .text _ | .level, .text _ => true
  | .name, .state _ | .level, .state _ => false
  | _, .state _ => true
  | _, .text _ => false

/-- The option that gives a state to a property. -/
def stateWord (p : Role.Property) (b : Bool) : String :=
  (if b then "--" else "--no-") ++ p.clauseKey

theorem stateWord_ne (p : Role.Property) (b : Bool) : stateWord p b ≠ "--" := by
  cases b <;> cases p <;> decide

theorem looksLikeOption_stateWord (p : Role.Property) (b : Bool) :
    looksLikeOption (stateWord p b) = true := by
  cases b <;> cases p <;> decide

theorem splitValue_stateWord (p : Role.Property) (b : Bool) :
    splitValue (stateWord p b) = (stateWord p b, none) := by
  cases b <;> cases p <;> rfl

theorem long?_stateWord {p : Role.Property} {b : Bool} (h : suitsProperty p (.state b) = true) :
    Name.role.signature.long? (stateWord p b) = some ⟨stateWord p b, .property p, .states b⟩ := by
  cases p with
  | name | level => cases h
  | checked | disabled | selected | expanded | includeHidden | pressed => cases b <;> rfl

theorem spells_property {p : Role.Property} {g : Given} (h : suitsProperty p g = true) :
    Name.role.Spells (.property p, g) := by
  cases g with
  | text s =>
    cases p with
    | name => exact .text "--name" s (by decide) (by decide) rfl rfl
    | level => exact .text "--level" s (by decide) (by decide) rfl rfl
    | checked | disabled | selected | expanded | includeHidden | pressed => cases h
  | state b =>
    exact .state (stateWord p b) (stateWord_ne p b) (looksLikeOption_stateWord p b)
      (splitValue_stateWord p b) (long?_stateWord h)

/-- The options that give values to properties. -/
def propertyGivens (f : Role.Property → Option Given) : List (Choice × Given) :=
  Role.Property.all.filterMap fun p => (f p).map fun g => (.property p, g)

/-- Each property is given its own value and no other. -/
theorem value?_propertyGivens (f : Role.Property → Option Given) (positional : List String)
    (p : Role.Property) : Reading.value? ⟨propertyGivens f, positional⟩ (.property p) = f p := by
  rw [Reading.value?, propertyGivens, ← List.filterMap_reverse, List.find?_filterMap]
  cases hfind : Role.Property.all.reverse.find? fun q =>
      ((f q).map fun g => (Choice.property q, g)).any fun o => o.1 = .property p with
  | none =>
    have hp := List.find?_eq_none.1 hfind p (List.mem_reverse.2 p.mem_all)
    cases hg : f p with
    | none => rfl
    | some g => simp [hg] at hp
  | some q =>
    have hq := List.find?_some hfind
    cases hg : f q with
    | none => simp [hg] at hq
    | some g =>
      obtain rfl : q = p := by simpa [hg] using hq
      simp [hg]

/-- Every role can be asked for with every combination of values for its properties. -/
theorem exists_parses_role {f : Role.Property → Option Given}
    (hf : ∀ p g, f p = some g → suitsProperty p g = true) (role : String) :
    ∃ args r, Parses args .role r ∧ r.positional = [role] ∧
      ∀ p, r.value? (.property p) = f p := by
  have hspells : ∀ o ∈ propertyGivens f, Name.role.Spells o := by
    intro o ho
    obtain ⟨p, -, hp⟩ := List.mem_filterMap.1 ho
    obtain ⟨g, hg, rfl⟩ := Option.map_eq_some_iff.1 hp
    exact spells_property (hf p g hg)
  have hquiet : notice? ⟨propertyGivens f, []⟩ = none := by
    refine List.findSome?_eq_none_iff.2 fun o ho => ?_
    obtain ⟨p, -, hp⟩ := List.mem_filterMap.1 ho
    obtain ⟨g, -, rfl⟩ := Option.map_eq_some_iff.1 hp
    rfl
  obtain ⟨args, hargs⟩ := exists_parses hspells hquiet role
  exact ⟨args, _, hargs, rfl, value?_propertyGivens f [role]⟩

end ElementLookup.Command
