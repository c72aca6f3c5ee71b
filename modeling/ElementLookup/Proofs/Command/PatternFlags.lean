/-
**Flags of patterns, wherever they are given.**

A pattern can be made in three places: by a program, by a mapping in a document and by a command
that is told that its text is a pattern.  All three ask the same question of its flags, so what is
refused in one place is refused in the others, whatever the source of the pattern.

The engine asks a little more.  It has two modes for Unicode, `u` and `v`, and will not read a
pattern that asks for both; here nothing stops such a pattern from being made.  These are the only
flags on which the two differ.

Main definitions:

* `TextPattern.EngineAccepts` — the flags that the engine accepts;
* `TextPattern.BothModes` — both modes for Unicode are asked for;
* `TextPattern.AcceptedEverywhere` — flags are accepted in all three places under the same
  condition.

Main results:

* `TextPattern.acceptedFlags_iff_engine` — what is accepted here, in terms of the engine;
* `TextPattern.acceptedEverywhere` — **the three places accept the same flags**;
* `TextPattern.accepted_iff_engine_or_bothModes` — these are the engine's, and those that ask for
  both modes;
* `TextPattern.bothModes_not_refused` — the engine's condition is not the one that is checked.
-/

import ElementLookup.Proofs.Command.SingleLookup

set_option autoImplicit false

namespace ElementLookup

open Command

namespace TextPattern

/-! ### The engine -/

/-- Both modes for Unicode are asked for. -/
def BothModes (flags : String) : Prop :=
  'u' ∈ flags.toList ∧ 'v' ∈ flags.toList

/-- The engine accepts flags: each is one of its letters, none comes twice, and not both modes for
Unicode are asked for. -/
structure EngineAccepts (flags : String) : Prop where
  known : ∀ c ∈ flags.toList, c ∈ ['d', 'g', 'i', 'm', 's', 'u', 'v', 'y']
  once : flags.toList.Nodup
  oneMode : ¬ BothModes flags

/-- The flags that are accepted here are those of the engine, and those that would be if the two
modes for Unicode went together. -/
theorem acceptedFlags_iff_engine (flags : String) :
    AcceptedFlags flags ↔ EngineAccepts flags ∨ BothModes flags ∧ AcceptedFlags flags := by
  constructor
  · intro h
    by_cases hmodes : BothModes flags
    · exact .inr ⟨hmodes, h⟩
    · exact .inl ⟨h.1, h.2, hmodes⟩
  · rintro (h | ⟨-, h⟩)
    · exact ⟨h.known, h.once⟩
    · exact h

/-! ### Three places -/

/-- Flags are accepted in every place where a pattern can be made, exactly under one condition. -/
structure AcceptedEverywhere (flags : String) (condition : Prop) : Prop where
  /-- A program makes a pattern of them, with any source. -/
  made : ∀ source, (∃ p, make source flags = .ok p) ↔ condition
  /-- A mapping that gives them beside an acceptable source is accepted as a pattern. -/
  checked : ∀ (entries : List (Value × Value)) (source : String),
    Check.required entries "pattern" Check.text = .good source →
    (∀ signs, Value.entry? entries "flags" ≠ some (.halved signs)) →
    Check.withDefault entries "flags" "" Check.text = .good flags →
    ((∃ p, Check.pattern (.map entries) = .good p) ↔ condition)
  /-- A command that is told that its text is a pattern takes them. -/
  asked : ∀ (kind : TextKind) (files : Files) (args : List String) (r : Reading Choice)
    (value : String), (Name.byText kind).signature.read args = .ok r → notice? r = none →
    r.positional = [value] → r.isPattern = true → r.flags = flags →
    ((∃ request, Request.read files (.byText kind) args = .ok request) ↔ condition)
  /-- A run of such a command ends well if they are accepted, and as a fault of usage if not. -/
  run : ∀ (kind : TextKind) (s : Session) (settings : Settings) (args : List String)
    (r : Reading Choice) (value : String), s.available = .ok settings → s.view.Sound →
    Parses args (.byText kind) r → r.positional = [value] → r.isPattern = true →
    r.flags = flags →
    ((outcome s args).exitCode = 0 ↔ condition) ∧ ((outcome s args).exitCode = 2 ↔ ¬ condition)

variable {flags source : String} {entries : List (Value × Value)}

/-- A field for flags is accepted if what it says as a text is. -/
theorem flagsField_eq_good (hwhole : ∀ signs, Value.entry? entries "flags" ≠ some (.halved signs))
    (htext : Check.withDefault entries "flags" "" Check.text = .good flags) :
    (∃ given, Check.withDefault entries "flags" "" Check.flagsValue = .good given) ↔
      AcceptedFlags flags := by
  rcases Check.withDefault_eq_good.1 htext with ⟨hnone, rfl⟩ | ⟨v, hv, hread⟩
  · have hempty : AcceptedFlags "" := by decide
    exact iff_of_true ⟨"", Check.withDefault_eq_good.2 (.inl ⟨hnone, rfl⟩)⟩ hempty
  · have hflags : Check.flagsValue v = Check.flags flags := by
      cases v with
      | halved signs => exact absurd hv (hwhole signs)
      | _ => exact (congrArg (·.andThen Check.flags) hread).trans rfl
    simp only [Check.withDefault_eq_good, hv, reduceCtorEq, false_and, false_or,
      Option.some.injEq, exists_eq_left', hflags, Check.flags_eq_good, exists_eq_left']

/-- A mapping is accepted as a pattern exactly if its flags are, once its source is. -/
theorem exists_pattern_iff (hsource : Check.required entries "pattern" Check.text = .good source)
    (hwhole : ∀ signs, Value.entry? entries "flags" ≠ some (.halved signs))
    (htext : Check.withDefault entries "flags" "" Check.text = .good flags) :
    (∃ p, Check.pattern (.map entries) = .good p) ↔ AcceptedFlags flags := by
  rw [← flagsField_eq_good hwhole htext]
  constructor
  · rintro ⟨p, hp⟩
    obtain ⟨_, ⟨⟩, -, hgiven⟩ := Check.pattern_eq_good.1 hp
    exact ⟨p.flags, hgiven⟩
  · rintro ⟨given, hgiven⟩
    obtain ⟨p, hp, -, -⟩ := Check.exists_pattern_eq_good hsource hgiven
    exact ⟨p, hp⟩

/-- Flags with half a surrogate pair are refused, as no letter of the engine is one. -/
theorem pattern_ne_good_of_halved {signs : List Text.Sign}
    (h : Value.entry? entries "flags" = some (.halved signs)) (p : TextPattern) :
    Check.pattern (.map entries) ≠ .good p := by
  intro hp
  obtain ⟨_, ⟨⟩, -, hgiven⟩ := Check.pattern_eq_good.1 hp
  rcases Check.withDefault_eq_good.1 hgiven with ⟨hnone, -⟩ | ⟨v, hv, hread⟩
  · rw [h] at hnone
    exact nomatch hnone
  · obtain rfl : Value.halved signs = v := Option.some.inj (h.symm.trans hv)
    exact nomatch hread

/-- A command takes the flags of a pattern exactly if they are accepted. -/
theorem exists_request_iff {kind : TextKind} {files : Files} {args : List String}
    {r : Reading Choice} {value : String} (hread : (Name.byText kind).signature.read args = .ok r)
    (hquiet : notice? r = none) (hvalue : r.positional = [value]) (hpattern : r.isPattern = true) :
    (∃ request, Request.read files (.byText kind) args = .ok request) ↔
      AcceptedFlags r.flags := by
  rw [read_of_reading hread hquiet, ofReading_byText kind hvalue, hpattern, textValue, if_pos rfl,
    ← make_eq_ok_iff value]
  cases make value r.flags with
  | ok p => exact iff_of_true ⟨_, rfl⟩ ⟨p, rfl⟩
  | error fault =>
    refine iff_of_false ?_ ?_
    · rintro ⟨request, h⟩
      cases h
    · rintro ⟨p, h⟩
      cases h

/-- A run ends well or as a fault of usage, as the flags of its pattern are accepted or not. -/
theorem exitCode_iff {kind : TextKind} {s : Session} {settings : Settings} {args : List String}
    {r : Reading Choice} {value : String} (havailable : s.available = .ok settings)
    (hsound : s.view.Sound) (hparses : Parses args (.byText kind) r)
    (hvalue : r.positional = [value]) (hpattern : r.isPattern = true) :
    ((outcome s args).exitCode = 0 ↔ AcceptedFlags r.flags) ∧
      ((outcome s args).exitCode = 2 ↔ ¬ AcceptedFlags r.flags) := by
  have hagrees := agrees_of_text havailable hsound hparses hvalue
  have hwanted : AcceptsFlags value r ↔ AcceptedFlags r.flags := by
    rw [← make_eq_ok_iff value]
    constructor
    · rintro (hnone | ⟨-, p, hp⟩)
      · exact (make_eq_ok_iff value _).2 (hnone ▸ by decide)
      · exact ⟨p, pattern_patternData.1 hp⟩
    · rintro ⟨p, hp⟩
      exact .inr ⟨hpattern, p, pattern_patternData.2 hp⟩
  by_cases haccepted : AcceptedFlags r.flags
  · obtain ⟨q, sel, -, -, hprints⟩ := hagrees.printed (hwanted.2 haccepted)
    rw [hprints.exitCode]
    exact ⟨iff_of_true rfl haccepted, iff_of_false (by decide) (not_not_intro haccepted)⟩
  · have hrefuses := hagrees.refused fun h => haccepted (hwanted.1 h)
    rw [hrefuses.exitCode]
    exact ⟨iff_of_false (by decide) haccepted, iff_of_true rfl haccepted⟩

/-- **The three places accept the same flags.** -/
theorem acceptedEverywhere (flags : String) :
    AcceptedEverywhere flags (AcceptedFlags flags) where
  made source := make_eq_ok_iff source flags
  checked _ _ hsource hwhole htext := exists_pattern_iff hsource hwhole htext
  asked := by
    rintro kind files args r value hread hquiet hvalue hpattern rfl
    exact exists_request_iff hread hquiet hvalue hpattern
  run := by
    rintro kind s settings args r value havailable hsound hparses hvalue hpattern rfl
    exact exitCode_iff havailable hsound hparses hvalue hpattern

/-- The three places accept the same flags: those that the engine accepts, and besides them only
such as ask for both modes for Unicode. -/
theorem accepted_iff_engine_or_bothModes (flags : String) :
    AcceptedEverywhere flags (EngineAccepts flags ∨ BothModes flags ∧ AcceptedFlags flags) ∧
    ∀ entries signs p, Value.entry? entries "flags" = some (.halved signs) →
      Check.pattern (.map entries) ≠ .good p := by
  rw [← acceptedFlags_iff_engine]
  exact ⟨acceptedEverywhere flags, fun _ _ p h => pattern_ne_good_of_halved h p⟩

/-- Flags that ask for both modes for Unicode are accepted, although the engine refuses them. -/
theorem bothModes_not_refused :
    ¬ ∀ flags, AcceptedEverywhere flags (EngineAccepts flags) := by
  intro h
  have hmade : ∃ p, make "a" "uv" = .ok p := (make_eq_ok_iff "a" "uv").2 (by decide)
  have hmode := (((h "uv").made "a").1 hmade).oneMode
  exact hmode ⟨by decide, by decide⟩

end TextPattern

end ElementLookup
