/-
**Arguments.**

A command is given a list of texts.  Some of them are options, which begin with a stroke and are
known by their spelling; the others are positional.  An option either takes a value, which follows
it or is joined to it by an equals sign, or it stands for a state itself.  Options of one letter
stand for states and can be written together.  After two strokes alone everything is positional.

Main definitions:

* `Spelling`, `Signature` — the options of a command;
* `Reading` — options and positional arguments as they were given;
* `Signature.read` — the reading of a list of texts;
* `Reading.value?` — what was given for an option, the last time if it was given twice.

Main results:

* `Signature.read_positional` — texts without options are positional as they stand.
-/

import ElementLookup.Text.Split

set_option autoImplicit false

namespace ElementLookup.Command

/-! ### Options -/

/-- What an option does: it takes a value, or stands for a state. -/
inductive Effect where
  | takes
  | states (b : Bool)
  deriving DecidableEq, Repr

/-- One spelling of an option; several spellings may belong to the same option. -/
structure Spelling (κ : Type) where
  word : String
  option : κ
  effect : Effect

/-- Whether a spelling is a stroke and one letter. -/
def Spelling.isShort {κ : Type} (s : Spelling κ) : Bool := s.word.length = 2

/-- The options of a command, and whether they may follow positional arguments. -/
structure Signature (κ : Type) where
  spellings : List (Spelling κ)
  mixed : Bool

/-- What was given for an option. -/
inductive Given where
  | text (s : String)
  | state (b : Bool)
  deriving DecidableEq, Repr

/-- Options and positional arguments in the order in which they were given. -/
structure Reading (κ : Type) where
  options : List (κ × Given)
  positional : List String

/-- Why arguments have no reading. -/
inductive Misread where
  | unknownOption (word : String)
  | valueMissing (word : String)
  | valueUnwanted (word : String)
  deriving DecidableEq, Repr

/-! ### Reading -/

variable {κ : Type}

/-- Whether a text is an option, by its look. -/
def looksLikeOption (s : String) : Bool :=
  match s.toList with
  | '-' :: _ :: _ => true
  | _ => false

/-- The word of an option and the value that is joined to it. -/
def splitValue (s : String) : String × Option String :=
  let cs := s.toList
  let word := String.ofList (cs.takeWhile (· ≠ '='))
  match cs.dropWhile (· ≠ '=') with
  | [] => (word, none)
  | _ :: value => (word, some (String.ofList value))

/-- The spelling of an option that is a whole word. -/
def Signature.long? (sig : Signature κ) (word : String) : Option (Spelling κ) :=
  sig.spellings.find? fun s => !s.isShort && s.word = word

/-- The state that a letter stands for. -/
def Signature.letter (sig : Signature κ) (c : Char) : Except Misread (κ × Given) :=
  let word := String.ofList ['-', c]
  match sig.spellings.find? fun s => s.isShort && s.word = word with
  | some ⟨_, option, .states b⟩ => .ok (option, .state b)
  | some ⟨_, _, .takes⟩ => .error (.valueMissing word)
  | none => .error (.unknownOption word)

/-- Letters that are written together after one stroke. -/
def Signature.letters (sig : Signature κ) (s : String) : Except Misread (List (κ × Given)) :=
  match s.toList with
  | '-' :: '-' :: _ => .error (.unknownOption (splitValue s).1)
  | _ :: cs => cs.mapM sig.letter
  | [] => .ok []

/-- A reading with options added in front. -/
def Reading.withOptions (options : List (κ × Given)) (r : Reading κ) : Reading κ :=
  { r with options := options ++ r.options }

/-- A reading with a positional argument added in front. -/
def Reading.withPositional (s : String) (r : Reading κ) : Reading κ :=
  { r with positional := s :: r.positional }

/-- The reading of a list of texts. -/
def Signature.read (sig : Signature κ) : List String → Except Misread (Reading κ)
  | [] => .ok ⟨[], []⟩
  | s :: r =>
    if s = "--" then .ok ⟨[], r⟩
    else if looksLikeOption s then
      let (word, joined) := splitValue s
      match sig.long? word, joined with
      | some ⟨_, option, .takes⟩, some value =>
        Reading.withOptions [(option, .text value)] <$> sig.read r
      | some ⟨_, option, .takes⟩, none =>
        match r with
        | [] => .error (.valueMissing word)
        | value :: r => Reading.withOptions [(option, .text value)] <$> sig.read r
      | some ⟨_, _, .states _⟩, some _ => .error (.valueUnwanted word)
      | some ⟨_, option, .states b⟩, none =>
        Reading.withOptions [(option, .state b)] <$> sig.read r
      -- no option is spelled like this, so these are letters written together
      | none, _ => do
        let options ← sig.letters s
        Reading.withOptions options <$> sig.read r
    -- unless options may come later, the first argument ends them
    else if sig.mixed then Reading.withPositional s <$> sig.read r
    else .ok ⟨[], s :: r⟩

/-- Texts of which none looks like an option are positional as they stand. -/
theorem Signature.read_positional (sig : Signature κ) (args : List String)
    (h : ∀ s ∈ args, looksLikeOption s = false) : sig.read args = .ok ⟨[], args⟩ := by
  induction args with
  | nil => rfl
  | cons s r ih =>
    have hs := h s (by simp)
    -- two strokes alone look like an option themselves
    have hd : s ≠ "--" := by
      rintro rfl
      exact absurd hs (by decide)
    have hr := ih fun t ht => h t (List.mem_cons_of_mem _ ht)
    unfold Signature.read
    rw [if_neg hd, if_neg (by simp [hs])]
    split
    · rw [hr]; rfl
    · rfl

/-! ### What was given -/

variable [DecidableEq κ]

/-- What was given for an option the last time. -/
def Reading.value? (r : Reading κ) (option : κ) : Option Given :=
  (r.options.reverse.find? fun o => o.1 = option).map (·.2)

/-- The text that was given for an option. -/
def Reading.text? (r : Reading κ) (option : κ) : Option String :=
  match r.value? option with
  | some (.text s) => some s
  | _ => none

/-- The state that was given for an option. -/
def Reading.state? (r : Reading κ) (option : κ) : Option Bool :=
  match r.value? option with
  | some (.state b) => some b
  | _ => none

end ElementLookup.Command
