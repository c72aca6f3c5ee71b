/-
**Patterns of element text.**

A lookup takes either literal text or a pattern.  A pattern is a regular expression in the words of
the query engine: a source, used as it stands, and flag letters.  Letters outside the engine's
alphabet and repeated letters are refused when the pattern is made, so every pattern that exists has
acceptable flags.  A pattern that was compiled elsewhere is taken over if its options have letters;
some of them may stand at the beginning of its source.

Main definitions:

* `TextPattern.AcceptedFlags` — the condition on the flag letters;
* `TextPattern`, `TextPattern.make` — a pattern, and its checked construction;
* `TextValue` — literal text or a pattern;
* `CompiledPattern`, `CompiledPattern.ofSource` — a pattern compiled elsewhere, with its options;
* `TextPattern.ofCompiled` — such a pattern taken over;
* `TextPattern.literal` — the form `/source/flags`;
* `PatternFault.message` — why a pattern is refused, in words.

Main results:

* `TextPattern.make_eq_ok_iff` — a pattern can be made exactly of accepted flags;
* `CompiledPattern.openingLetters_of_ne` — a source without a group in front begins with no options.
-/

import ElementLookup.Text.Quoted

set_option autoImplicit false

namespace ElementLookup

/-! ### Flags -/

/-- The flag letters of the query engine. -/
def TextPattern.letters : List Char :=
  ['d', 'g', 'i', 'm', 's', 'u', 'v', 'y']

/-- Every flag is a letter of the engine and none occurs twice. -/
def TextPattern.AcceptedFlags (flags : String) : Prop :=
  (∀ c ∈ flags.toList, c ∈ TextPattern.letters) ∧ flags.toList.Nodup

/-- Whether every flag is a letter of the engine and none comes again later. -/
def TextPattern.acceptsFlags : List Char → Bool
  | [] => true
  | c :: r => TextPattern.letters.contains c && !r.contains c && acceptsFlags r

theorem TextPattern.acceptsFlags_iff (cs : List Char) :
    TextPattern.acceptsFlags cs = true ↔ (∀ c ∈ cs, c ∈ TextPattern.letters) ∧ cs.Nodup := by
  induction cs with
  | nil => simp [TextPattern.acceptsFlags]
  | cons c r ih =>
    simp only [TextPattern.acceptsFlags, Bool.and_eq_true, ih, List.contains_eq_mem,
      decide_eq_true_eq, Bool.not_eq_true', decide_eq_false_iff_not, List.mem_cons,
      forall_eq_or_imp, List.nodup_cons]
    constructor
    · rintro ⟨⟨hc, hr⟩, hall, hn⟩
      exact ⟨⟨hc, hall⟩, hr, hn⟩
    · rintro ⟨⟨hc, hall⟩, hr, hn⟩
      exact ⟨⟨hc, hr⟩, hall, hn⟩

instance (flags : String) : Decidable (TextPattern.AcceptedFlags flags) :=
  decidable_of_iff _ (TextPattern.acceptsFlags_iff flags.toList)

/-- The flags that are no letters of the engine, in order. -/
def TextPattern.unknownFlags (flags : String) : List Char :=
  flags.toList.filter (· ∉ TextPattern.letters)

/-! ### Faults -/

/-- An option of a compiled pattern for which the engine has no letter. -/
inductive CompiledPattern.Inexpressible where
  | ascii
  | verbose
  | debug
  deriving DecidableEq, Repr

/-- Why a pattern is refused. -/
inductive PatternFault where
  | unknownFlags (flags : String)
  | repeatedFlag (flags : String)
  | octetSource
  | inexpressible (options : List CompiledPattern.Inexpressible)
  deriving DecidableEq, Repr

/-- The name of an option without a letter. -/
def CompiledPattern.Inexpressible.name : CompiledPattern.Inexpressible → String
  | .ascii => "re.ASCII"
  | .verbose => "re.VERBOSE"
  | .debug => "re.DEBUG"

/-- What is said of unknown letters among flags, both in quotes. -/
def TextPattern.unknownFlagsMessage (unknown flags : String) : String :=
  "unknown regex flag(s) " ++ unknown ++ " in " ++ flags

/-- The fault in words. -/
def PatternFault.message : PatternFault → String
  | .unknownFlags flags =>
    TextPattern.unknownFlagsMessage
      (Text.quoted (String.ofList (TextPattern.unknownFlags flags))) (Text.quoted flags)
  | .repeatedFlag flags => "duplicate regex flag in " ++ Text.quoted flags
  | .octetSource => "bytes patterns cannot be used as selector text"
  | .inexpressible options =>
    "|".intercalate (options.map (·.name)) ++ " has no regex-literal equivalent; "
      ++ "only IGNORECASE, MULTILINE and DOTALL are supported"

/-! ### Patterns -/

/-- A pattern in the words of the query engine. -/
@[ext] structure TextPattern where
  source : String
  flags : String
  accepted : TextPattern.AcceptedFlags flags
  deriving DecidableEq

/-- The fault of flags that are not accepted; unknown letters are named before repeated ones. -/
def TextPattern.flagFault (flags : String) : PatternFault :=
  if TextPattern.unknownFlags flags = [] then .repeatedFlag flags else .unknownFlags flags

/-- The pattern with a source and flags, if the flags are accepted. -/
def TextPattern.make (source flags : String) : Except PatternFault TextPattern :=
  if h : TextPattern.AcceptedFlags flags then .ok ⟨source, flags, h⟩
  else .error (TextPattern.flagFault flags)

theorem TextPattern.make_eq_ok_iff (source flags : String) :
    (∃ p, TextPattern.make source flags = .ok p) ↔ TextPattern.AcceptedFlags flags := by
  unfold TextPattern.make
  split <;> simp_all

/-- A made pattern has the source and the flags it was made of. -/
theorem TextPattern.eq_of_make {source flags : String} {p : TextPattern}
    (h : TextPattern.make source flags = .ok p) : p.source = source ∧ p.flags = flags := by
  unfold TextPattern.make at h
  split at h
  · cases h; exact ⟨rfl, rfl⟩
  · cases h

/-- The form in which the engine reads a pattern. -/
def TextPattern.literal (p : TextPattern) : String :=
  "/" ++ p.source ++ "/" ++ p.flags

/-- What a lookup compares an element's text with. -/
inductive TextValue where
  | literal (text : String)
  | pattern (p : TextPattern)
  deriving DecidableEq

/-! ### Compiled patterns -/

/-- The source of a compiled pattern: text, or raw octets. -/
inductive CompiledPattern.Source where
  | text (s : String)
  | octets (bs : List UInt8)
  deriving DecidableEq, Repr

/-- A pattern compiled by the host program, with its options. -/
structure CompiledPattern where
  source : CompiledPattern.Source
  ignoreCase : Bool := false
  multiLine : Bool := false
  dotAll : Bool := false
  ascii : Bool := false
  verbose : Bool := false
  debug : Bool := false
  deriving DecidableEq, Repr

/-- The pattern with one more option, known by its letter; other letters change nothing. -/
def CompiledPattern.withOption (c : CompiledPattern) (letter : Char) : CompiledPattern :=
  match letter with
  | 'i' => { c with ignoreCase := true }
  | 'm' => { c with multiLine := true }
  | 's' => { c with dotAll := true }
  | 'a' => { c with ascii := true }
  | 'x' => { c with verbose := true }
  | 'd' => { c with debug := true }
  | _ => c

/-- The letters that may stand at the beginning of a source. -/
def CompiledPattern.sourceLetters : List Char := ['a', 'i', 'm', 's', 'u', 'x']

/-- The options that a source begins with, as in `(?im)`; there may be several groups of them. -/
def CompiledPattern.openingLetters (cs : List Char) : List Char :=
  match cs with
  | '(' :: '?' :: r =>
    let letters := r.takeWhile (· ∈ sourceLetters)
    match _h : r.drop letters.length with
    | ')' :: rest => letters ++ openingLetters rest
    | _ => []
  | _ => []
termination_by cs.length
decreasing_by
  have := congrArg List.length _h
  simp only [List.length_drop, List.length_cons] at this ⊢
  omega

theorem CompiledPattern.openingLetters_of_ne {c : Char} (h : c ≠ '(') (cs : List Char) :
    openingLetters (c :: cs) = [] := by
  unfold openingLetters
  split <;> simp_all

/-- The options that a source begins with. -/
def CompiledPattern.Source.opening : CompiledPattern.Source → List Char
  | .text s => openingLetters s.toList
  | .octets bs => openingLetters (bs.map fun b => Char.ofNat b.toNat)

/-- The pattern of a source, with the options that are given and those that it begins with. -/
def CompiledPattern.ofSource (source : CompiledPattern.Source) (letters : List Char) :
    CompiledPattern :=
  (letters ++ source.opening).foldl withOption { source := source }

/-- The options for which the engine has no letter. -/
def CompiledPattern.inexpressible (c : CompiledPattern) : List CompiledPattern.Inexpressible :=
  (if c.ascii then [.ascii] else []) ++ (if c.verbose then [.verbose] else [])
    ++ (if c.debug then [.debug] else [])

/-- The letters of the options that have one, in the engine's order. -/
def TextPattern.optionLetters (ignoreCase multiLine dotAll : Bool) : String :=
  String.ofList ((if ignoreCase then ['i'] else []) ++ (if multiLine then ['m'] else [])
    ++ (if dotAll then ['s'] else []))

/-- The letters of options are accepted flags. -/
theorem TextPattern.acceptedFlags_optionLetters :
    ∀ i m s : Bool, TextPattern.AcceptedFlags (TextPattern.optionLetters i m s) := by
  intro i m s
  cases i <;> cases m <;> cases s <;> decide

/-- Takes over a compiled pattern. -/
def TextPattern.ofCompiled (c : CompiledPattern) : Except PatternFault TextPattern :=
  match c.source with
  | .octets _ => .error .octetSource
  | .text s =>
    match c.inexpressible with
    | [] =>
      .ok ⟨s, TextPattern.optionLetters c.ignoreCase c.multiLine c.dotAll,
        TextPattern.acceptedFlags_optionLetters _ _ _⟩
    | options => .error (.inexpressible options)

end ElementLookup
