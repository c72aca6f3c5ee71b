/-
**Readings by richer signatures.**

A command that knows more options than another one reads whatever the other one reads, and reads it
alike.  The command that compiles query files knows all options of the one that checks them, and one
more that asks for a report; so the same arguments ask both commands for the same files.

Main definitions:

* `Command.Signature.Reads` — the ways in which arguments have a reading;
* `Command.Signature.Extends` — a signature that knows more options than another one;
* `Command.Signature.Knows` — an option is one of a signature;
* `Command.scope?` — where a run is asked to find its files.

Main results:

* `Command.Signature.read_of_reads`, `Command.Signature.reads_of_read` — these are all the ways;
* `Command.Signature.Extends.read_eq_ok` — **what is read by a signature is read alike by a richer
  one**;
* `Command.Signature.knows_of_read` — readings hold no options but those of the signature;
* `Command.requests_of_read` — **the same arguments ask for the same files**, to check them, to
  print their selectors or to report them.
-/

import ElementLookup.Command.Request

set_option autoImplicit false

namespace ElementLookup.Command

variable {κ : Type}

/-! ### Ways to read arguments -/

theorem exists_of_map_eq_ok {α β ε : Type} {f : α → β} {x : Except ε α} {b : β}
    (h : f <$> x = .ok b) : ∃ a, x = .ok a ∧ f a = b := by
  cases x with
  | error e => exact nomatch h
  | ok a => exact ⟨a, rfl, Except.ok.inj h⟩

theorem exists_of_bind_eq_ok {α β ε : Type} {f : α → Except ε β} {x : Except ε α} {b : β}
    (h : x >>= f = .ok b) : ∃ a, x = .ok a ∧ f a = .ok b := by
  cases x with
  | error e => exact nomatch h
  | ok a => exact ⟨a, rfl, h⟩

/-- The ways in which arguments have a reading. -/
inductive Signature.Reads (sig : Signature κ) : List String → Reading κ → Prop
  /-- Nothing is left. -/
  | nil : sig.Reads [] ⟨[], []⟩
  /-- Two strokes make everything after them positional. -/
  | strokes (rest : List String) : sig.Reads ("--" :: rest) ⟨[], rest⟩
  /-- An option with its value joined to it. -/
  | joined {s value : String} {rest : List String} {spelling : Spelling κ} {r : Reading κ}
    (hs : s ≠ "--") (hlook : looksLikeOption s = true)
    (hlong : sig.long? (splitValue s).1 = some spelling) (htakes : spelling.effect = .takes)
    (hvalue : (splitValue s).2 = some value) (hrest : sig.Reads rest r) :
    sig.Reads (s :: rest) (r.withOptions [(spelling.option, .text value)])
  /-- An option with its value after it. -/
  | following {s value : String} {rest : List String} {spelling : Spelling κ} {r : Reading κ}
    (hs : s ≠ "--") (hlook : looksLikeOption s = true)
    (hlong : sig.long? (splitValue s).1 = some spelling) (htakes : spelling.effect = .takes)
    (hvalue : (splitValue s).2 = none) (hrest : sig.Reads rest r) :
    sig.Reads (s :: value :: rest) (r.withOptions [(spelling.option, .text value)])
  /-- An option that stands for a state. -/
  | state {s : String} {rest : List String} {spelling : Spelling κ} {b : Bool} {r : Reading κ}
    (hs : s ≠ "--") (hlook : looksLikeOption s = true)
    (hlong : sig.long? (splitValue s).1 = some spelling) (hstates : spelling.effect = .states b)
    (hvalue : (splitValue s).2 = none) (hrest : sig.Reads rest r) :
    sig.Reads (s :: rest) (r.withOptions [(spelling.option, .state b)])
  /-- Letters that are written together. -/
  | letters {s : String} {rest : List String} {options : List (κ × Given)} {r : Reading κ}
    (hs : s ≠ "--") (hlook : looksLikeOption s = true)
    (hlong : sig.long? (splitValue s).1 = none) (hoptions : sig.letters s = .ok options)
    (hrest : sig.Reads rest r) : sig.Reads (s :: rest) (r.withOptions options)
  /-- A positional argument among others. -/
  | mixed {s : String} {rest : List String} {r : Reading κ} (hs : s ≠ "--")
    (hlook : looksLikeOption s = false) (hmixed : sig.mixed = true) (hrest : sig.Reads rest r) :
    sig.Reads (s :: rest) (r.withPositional s)
  /-- The first positional argument where none may stand before an option. -/
  | unmixed {s : String} {rest : List String} (hs : s ≠ "--")
    (hlook : looksLikeOption s = false) (hmixed : sig.mixed = false) :
    sig.Reads (s :: rest) ⟨[], s :: rest⟩

theorem Signature.read_of_reads {sig : Signature κ} {args : List String} {r : Reading κ}
    (h : sig.Reads args r) : sig.read args = .ok r := by
  induction h with
  | nil => rfl
  | strokes rest => rw [Signature.read, if_pos rfl]
  | @joined s value rest spelling r hs hlook hlong htakes hvalue _ ih =>
    obtain ⟨word, option, effect⟩ := spelling
    cases htakes
    rw [Signature.read, if_neg hs, if_pos hlook]
    simp only [hlong, hvalue, ih]
    rfl
  | @following s value rest spelling r hs hlook hlong htakes hvalue _ ih =>
    obtain ⟨word, option, effect⟩ := spelling
    cases htakes
    rw [Signature.read, if_neg hs, if_pos hlook]
    simp only [hlong, hvalue, ih]
    rfl
  | @state s rest spelling b r hs hlook hlong hstates hvalue _ ih =>
    obtain ⟨word, option, effect⟩ := spelling
    cases hstates
    rw [Signature.read, if_neg hs, if_pos hlook]
    simp only [hlong, hvalue, ih]
    rfl
  | letters hs hlook hlong hoptions _ ih =>
    rw [Signature.read, if_neg hs, if_pos hlook]
    simp only [hlong, hoptions, ih]
    rfl
  | mixed hs hlook hmixed _ ih =>
    rw [Signature.read, if_neg hs, hlook, hmixed, ih]
    rfl
  | unmixed hs hlook hmixed =>
    rw [Signature.read, if_neg hs, hlook, hmixed]
    rfl

theorem Signature.reads_of_read {sig : Signature κ} {args : List String} {r : Reading κ}
    (h : sig.read args = .ok r) : sig.Reads args r := by
  induction args using Signature.read.induct sig generalizing r with
  | case1 =>
    cases h
    exact .nil
  | case2 rest =>
    rw [Signature.read, if_pos rfl] at h
    cases h
    exact .strokes rest
  | case3 s rest hs hlook word name option value hlong hsplit ih =>
    rw [Signature.read, if_neg hs, if_pos hlook, hsplit] at h
    simp only [hlong] at h
    obtain ⟨r', hr', rfl⟩ := exists_of_map_eq_ok h
    exact .joined hs hlook (by rw [hsplit]; exact hlong) rfl (by rw [hsplit]) (ih hr')
  | case4 s hs hlook word name option hlong hsplit =>
    rw [Signature.read, if_neg hs, if_pos hlook, hsplit] at h
    simp [hlong] at h
  | case5 s hs hlook word name option hlong value rest hsplit ih =>
    rw [Signature.read, if_neg hs, if_pos hlook, hsplit] at h
    simp only [hlong] at h
    obtain ⟨r', hr', rfl⟩ := exists_of_map_eq_ok h
    exact .following hs hlook (by rw [hsplit]; exact hlong) rfl (by rw [hsplit]) (ih hr')
  | case6 s rest hs hlook word name option b value hlong hsplit =>
    rw [Signature.read, if_neg hs, if_pos hlook, hsplit] at h
    simp [hlong] at h
  | case7 s rest hs hlook word name option b hlong hsplit ih =>
    rw [Signature.read, if_neg hs, if_pos hlook, hsplit] at h
    simp only [hlong] at h
    obtain ⟨r', hr', rfl⟩ := exists_of_map_eq_ok h
    exact .state hs hlook (by rw [hsplit]; exact hlong) rfl (by rw [hsplit]) (ih hr')
  | case8 s rest hs hlook word joined hsplit hlong ih =>
    rw [Signature.read, if_neg hs, if_pos hlook, hsplit] at h
    simp only [hlong] at h
    obtain ⟨options, hoptions, hrest⟩ := exists_of_bind_eq_ok h
    obtain ⟨r', hr', rfl⟩ := exists_of_map_eq_ok hrest
    exact .letters hs hlook (by rw [hsplit]; exact hlong) hoptions (ih hr')
  | case9 s rest hs hlook hmixed ih =>
    rw [Signature.read, if_neg hs, if_neg hlook, if_pos hmixed] at h
    obtain ⟨r', hr', rfl⟩ := exists_of_map_eq_ok h
    exact .mixed hs (Bool.eq_false_iff.2 hlook) hmixed (ih hr')
  | case10 s rest hs hlook hmixed =>
    rw [Signature.read, if_neg hs, if_neg hlook, if_neg hmixed] at h
    cases h
    exact .unmixed hs (Bool.eq_false_iff.2 hlook) (Bool.eq_false_iff.2 hmixed)

/-! ### Richer signatures -/

/-- A signature that knows more options than another one. -/
structure Signature.Extends (rich sig : Signature κ) : Prop where
  mixed : rich.mixed = sig.mixed
  long? : ∀ {word : String} {spelling : Spelling κ},
    sig.long? word = some spelling → rich.long? word = some spelling
  letters : ∀ {s : String} {options : List (κ × Given)},
    sig.long? (splitValue s).1 = none → sig.letters s = .ok options →
      rich.long? (splitValue s).1 = none ∧ rich.letters s = .ok options

theorem Signature.Reads.extend {rich sig : Signature κ} (h : rich.Extends sig)
    {args : List String} {r : Reading κ} (hr : sig.Reads args r) : rich.Reads args r := by
  induction hr with
  | nil => exact .nil
  | strokes rest => exact .strokes rest
  | joined hs hlook hlong htakes hvalue _ ih =>
    exact .joined hs hlook (h.long? hlong) htakes hvalue ih
  | following hs hlook hlong htakes hvalue _ ih =>
    exact .following hs hlook (h.long? hlong) htakes hvalue ih
  | state hs hlook hlong hstates hvalue _ ih =>
    exact .state hs hlook (h.long? hlong) hstates hvalue ih
  | letters hs hlook hlong hoptions _ ih =>
    obtain ⟨hnone, hsame⟩ := h.letters hlong hoptions
    exact .letters hs hlook hnone hsame ih
  | mixed hs hlook hmixed _ ih => exact .mixed hs hlook (h.mixed.trans hmixed) ih
  | unmixed hs hlook hmixed => exact .unmixed hs hlook (h.mixed.trans hmixed)

/-- What is read by a signature is read alike by a richer one. -/
theorem Signature.Extends.read_eq_ok {rich sig : Signature κ} (h : rich.Extends sig)
    {args : List String} {r : Reading κ} (hr : sig.read args = .ok r) : rich.read args = .ok r :=
  read_of_reads ((reads_of_read hr).extend h)

/-! ### Options of a reading -/

/-- Whether an option is one of a signature. -/
def Signature.Knows (sig : Signature κ) (option : κ) : Prop :=
  ∃ spelling ∈ sig.spellings, spelling.option = option

theorem Signature.knows_of_letter {sig : Signature κ} {c : Char} {o : κ × Given}
    (h : sig.letter c = .ok o) : sig.Knows o.1 := by
  rw [Signature.letter] at h
  split at h
  · next hfind =>
    cases h
    exact ⟨_, List.mem_of_find?_eq_some hfind, rfl⟩
  · exact nomatch h
  · exact nomatch h

theorem exists_of_mem_mapM {α β ε : Type} {f : α → Except ε β} {as : List α} {bs : List β}
    (h : as.mapM f = .ok bs) : ∀ b ∈ bs, ∃ a ∈ as, f a = .ok b := by
  induction as generalizing bs with
  | nil =>
    cases h
    exact nofun
  | cons a r ih =>
    rw [List.mapM_cons] at h
    obtain ⟨b, hb, hrest⟩ := exists_of_bind_eq_ok h
    obtain ⟨bs', hbs', heq⟩ := exists_of_bind_eq_ok hrest
    cases heq
    refine List.forall_mem_cons.2 ⟨⟨a, List.mem_cons_self, hb⟩, fun b' hb' => ?_⟩
    obtain ⟨a', ha', hfa'⟩ := ih hbs' b' hb'
    exact ⟨a', List.mem_cons_of_mem _ ha', hfa'⟩

theorem Signature.knows_of_letters {sig : Signature κ} {s : String} {options : List (κ × Given)}
    (h : sig.letters s = .ok options) : ∀ o ∈ options, sig.Knows o.1 := by
  intro o ho
  rw [Signature.letters] at h
  split at h
  · exact nomatch h
  · obtain ⟨c, -, hc⟩ := exists_of_mem_mapM h o ho
    exact knows_of_letter hc
  · cases h
    exact nomatch ho

/-- A reading holds no options but those of the signature. -/
theorem Signature.knows_of_read {sig : Signature κ} {args : List String} {r : Reading κ}
    (hr : sig.read args = .ok r) : ∀ o ∈ r.options, sig.Knows o.1 := by
  have hknows {word : String} {spelling : Spelling κ} (h : sig.long? word = some spelling) :
      sig.Knows spelling.option := ⟨spelling, List.mem_of_find?_eq_some h, rfl⟩
  induction reads_of_read hr with
  | nil => exact nofun
  | strokes => exact nofun
  | joined _ _ hlong _ _ hrest ih =>
    exact List.forall_mem_cons.2 ⟨hknows hlong, ih (read_of_reads hrest)⟩
  | following _ _ hlong _ _ hrest ih =>
    exact List.forall_mem_cons.2 ⟨hknows hlong, ih (read_of_reads hrest)⟩
  | state _ _ hlong _ _ hrest ih =>
    exact List.forall_mem_cons.2 ⟨hknows hlong, ih (read_of_reads hrest)⟩
  | letters _ _ _ hoptions hrest ih =>
    exact List.forall_mem_append.2 ⟨knows_of_letters hoptions, ih (read_of_reads hrest)⟩
  | mixed _ _ _ hrest ih => exact ih (read_of_reads hrest)
  | unmixed => exact nofun

/-! ### The command that compiles and the one that checks -/

/-- The options of the command that compiles, with the one that only it has between the others. -/
theorem find?_compile (f : Spelling Choice → Bool) :
    (Name.signature .compile).spellings.find? f =
      (((taking "dir" Choice.directory ++ toggle "recursive" .recursive).find? f).or
        ((switch "json" Choice.json).find? f)).or (helpOption.find? f) := by
  rw [← List.find?_append, ← List.find?_append]
  rfl

theorem find?_validate (f : Spelling Choice → Bool) :
    (Name.signature .validate).spellings.find? f =
      ((taking "dir" Choice.directory ++ toggle "recursive" .recursive).find? f).or
        (helpOption.find? f) := by
  rw [← List.find?_append]
  rfl

/-- Where the option that only one command has is not found, both commands find the same. -/
theorem find?_compile_eq {f : Spelling Choice → Bool}
    (h : (switch "json" Choice.json).find? f = none) :
    (Name.signature .compile).spellings.find? f = (Name.signature .validate).spellings.find? f := by
  rw [find?_compile, find?_validate, h, Option.or_none]

theorem long?_compile_of_ne {word : String} (h : word ≠ "--json") :
    (Name.signature .compile).long? word = (Name.signature .validate).long? word := by
  refine find?_compile_eq (List.find?_eq_none.2 fun spelling hmem hfound => ?_)
  cases List.mem_singleton.1 hmem
  exact h (of_decide_eq_true (Bool.and_eq_true_iff.1 hfound).2).symm

theorem letter_compile : (Name.signature .compile).letter = (Name.signature .validate).letter := by
  funext c
  rw [Signature.letter, Signature.letter, find?_compile_eq]
  refine List.find?_eq_none.2 fun spelling hmem hfound => ?_
  cases List.mem_singleton.1 hmem
  exact absurd (Bool.and_eq_true_iff.1 hfound).1 (by decide)

/-- A text with a long word has no letters to read. -/
theorem letters_of_splitValue {sig : Signature κ} {s : String} {r : List Char}
    (h : (splitValue s).1.toList = '-' :: '-' :: r) :
    sig.letters s = .error (.unknownOption (splitValue s).1) := by
  have hword : (splitValue s).1.toList = s.toList.takeWhile (· ≠ '=') := by
    rw [splitValue]
    split <;> exact String.toList_ofList
  obtain ⟨rest, hrest⟩ := List.takeWhile_prefix (l := s.toList) (· ≠ '=')
  rw [← hword, h] at hrest
  rw [Signature.letters, ← hrest]
  rfl

/-- The command that compiles knows all options of the one that checks. -/
theorem compile_extends_validate :
    (Name.signature .compile).Extends (Name.signature .validate) where
  mixed := rfl
  long? := by
    intro word spelling h
    by_cases hword : word = "--json"
    · have hnone : ((Name.signature .validate).long? "--json").isSome = false := by decide
      rw [← hword, h] at hnone
      exact nomatch hnone
    · rw [long?_compile_of_ne hword, h]
  letters := by
    intro s options hlong hoptions
    by_cases hword : (splitValue s).1 = "--json"
    · rw [letters_of_splitValue (by rw [hword]; rfl)] at hoptions
      exact nomatch hoptions
    · refine ⟨by rw [long?_compile_of_ne hword, hlong], ?_⟩
      rw [← hoptions, Signature.letters, Signature.letters, letter_compile]

/-! ### Requests for query files -/

/-- An option in front counts if it is not given again. -/
theorem Reading.value?_withOptions [DecidableEq κ] (r : Reading κ) (option : κ) (g : Given)
    (k : κ) : (r.withOptions [(option, g)]).value? k =
      (r.value? k).or (if option = k then some g else none) := by
  rw [Reading.value?, Reading.value?, Reading.withOptions]
  dsimp only
  rw [List.reverse_append, List.find?_append, Option.map_or]
  by_cases h : option = k <;> simp [h]

/-- What is not known cannot be given. -/
theorem Reading.value?_of_not_knows [DecidableEq κ] {sig : Signature κ} {args : List String}
    {r : Reading κ} (hr : sig.read args = .ok r) {k : κ} (hk : ¬sig.Knows k) :
    r.value? k = none := by
  rw [Reading.value?, Option.map_eq_none_iff, List.find?_eq_none]
  intro o ho heq
  rw [List.mem_reverse] at ho
  exact hk (of_decide_eq_true heq ▸ Signature.knows_of_read hr o ho)

/-- Where a run is asked to find its files. -/
def scope? (files : Files) (r : Reading Choice) : Except Usage Scope :=
  (fun directory => ⟨r.positional, directory, (r.state? .recursive).getD true⟩)
    <$> readDirectory files r

theorem readBatch_eq (files : Files) (goal : Goal) (r : Reading Choice) :
    readBatch files goal r = Request.batch goal <$> scope? files r := by
  rw [readBatch, scope?]
  cases readDirectory files r <;> rfl

variable {files : Files} {args : List String} {r : Reading Choice}

/-- Asking for a report does not change where the files are. -/
theorem scope?_withOptions (files : Files) (r : Reading Choice) :
    scope? files (r.withOptions [(.json, .state true)]) = scope? files r := by
  have hdirectory : (r.withOptions [(.json, .state true)]).text? .directory =
      r.text? .directory := by
    rw [Reading.text?, Reading.value?_withOptions, if_neg (by decide), Option.or_none,
      Reading.text?]
  have hrecursive : (r.withOptions [(.json, .state true)]).state? .recursive =
      r.state? .recursive := by
    rw [Reading.state?, Reading.value?_withOptions, if_neg (by decide), Option.or_none,
      Reading.state?]
  rw [scope?, scope?, readDirectory, readDirectory, hdirectory, hrecursive]
  rfl

theorem read_of_reading {n : Name} (hr : n.signature.read args = .ok r) (hn : notice? r = none) :
    Request.read files n args = Request.ofReading files n r := by
  have hby : readBy n.signature args = .ok r := by rw [readBy, hr]
  rw [Request.read, hby]
  simp only [bind, Except.bind, hn]

/-- The same arguments ask for the same files: to check them, to print their selectors and, with one
option more, to report them. -/
theorem requests_of_read (files : Files) (hr : (Name.signature .validate).read args = .ok r)
    (hn : notice? r = none) :
    Request.read files .validate args = Request.batch .validity <$> scope? files r ∧
    Request.read files .compile args = Request.batch .lines <$> scope? files r ∧
    Request.read files .compile ("--json" :: args) = Request.batch .json <$> scope? files r := by
  have hcompile := compile_extends_validate.read_eq_ok hr
  have hknows : ¬(Name.signature .validate).Knows .json := by
    rintro ⟨spelling, hmem, heq⟩
    have hall : ∀ spelling ∈ (Name.signature .validate).spellings, spelling.option ≠ .json := by
      decide
    exact hall spelling hmem heq
  have hlong : (Name.signature .compile).long? (splitValue "--json").1 =
      some ⟨"--json", .json, .states true⟩ := rfl
  have hjson : (Name.signature .compile).read ("--json" :: args) =
      .ok (r.withOptions [(.json, .state true)]) :=
    Signature.read_of_reads
      (.state (by decide) (by decide) hlong rfl rfl (Signature.reads_of_read hcompile))
  refine ⟨?_, ?_, ?_⟩
  · rw [read_of_reading hr hn]
    exact readBatch_eq files .validity r
  · rw [read_of_reading hcompile hn, Request.ofReading, Reading.state?,
      Reading.value?_of_not_knows hr hknows]
    exact readBatch_eq files .lines r
  · rw [read_of_reading hjson hn, Request.ofReading, Reading.state?, Reading.value?_withOptions,
      Reading.value?_of_not_knows hr hknows, ← scope?_withOptions files r]
    exact readBatch_eq files .json _

end ElementLookup.Command
