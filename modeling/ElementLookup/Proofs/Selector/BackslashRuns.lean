/-
**Where the reader of quoted text stops.**

Quoting puts a backslash in front of each quote and lets the backslashes of the text pass, so the
two kinds of backslash run together.  For the reader only their number counts: of an even run in
front of a quote every backslash protects another one or is the one that was put there, and the
quote is part of the text; after an odd run the last backslash protects the one that was put there,
and the quote closes the text too soon.  At the end of the text it is the other way round: an odd
run protects the closing quote, and the reader goes on into what follows.

Main definitions:

* `Selector.readQuotedText` — the engine's reader, from the opening quote on;
* `Selector.EvenRuns` — every run of backslashes in front of a quote or of the end is even;
* `Selector.readBack` — what is read of a quoted text, if its own closing quote closes it.

Main results:

* `Selector.readQuoted_eq_some_iff` — the reader stops at the closing quote with what is read back;
* `Selector.isSome_readBack_iff` — something is read back exactly if the runs are even;
* `Selector.length_readBack_lt` — a backslash is never read back as it is;
* `Selector.readQuotedText_quote_iff` — **where the reader stops, and when it has read the text**.
-/

import ElementLookup.Proofs.Selector.Quoting
import Mathlib.Algebra.Group.Nat.Even

set_option autoImplicit false

namespace ElementLookup.Selector

/-! ### The reader -/

/-- Reads quoted text from its opening quote on: the text, and what stands after the quote at which
the reader stops. -/
def readQuotedText : List Char → Option (List Char × List Char)
  | '"' :: rest => readQuoted rest
  | _ => none

theorem readQuotedText_quote (text : String) (rest : List Char) :
    readQuotedText ((quote text).toList ++ rest) =
      readQuoted (quoteChars text.toList ++ '"' :: rest) := by
  rw [toList_quote, List.cons_append, List.append_assoc]
  rfl

theorem readQuoted_protected (c : Char) (rest : List Char) :
    readQuoted ('\\' :: c :: rest) =
      (readQuoted rest).map fun found => (c :: found.1, found.2) := by
  rw [readQuoted]

/-- One more character is read, and nothing else changes. -/
theorem map_cons_eq_some_iff {read : Option (List Char × List Char)} {c : Char}
    {text rest : List Char} :
    (read.map fun found => (c :: found.1, found.2)) = some (text, rest) ↔
      ∃ tail, read = some (tail, rest) ∧ c :: tail = text := by
  rcases read with _ | ⟨tail, rest'⟩
  · simp
  · simp only [Option.map_some, Option.some.injEq, Prod.mk.injEq]
    constructor
    · rintro ⟨rfl, rfl⟩
      exact ⟨tail, ⟨rfl, rfl⟩, rfl⟩
    · rintro ⟨_, ⟨rfl, rfl⟩, rfl⟩
      exact ⟨rfl, rfl⟩

/-! ### What is read back -/

/-- The backslash that protects what comes next, if there is one. -/
def protector (odd : Bool) : List Char := if odd then ['\\'] else []

/-- What is read of a quoted text up to its closing quote; nothing, if the reader stops elsewhere.
`odd` tells whether the number of backslashes just read is odd, so that the last one protects what
comes next. -/
def readBack (odd : Bool) : List Char → Option (List Char)
  | [] => if odd then none else some []
  | c :: text =>
    if c = '\\' then
      if odd then (readBack false text).map ('\\' :: ·) else readBack true text
    -- the backslash in front of a quote is itself protected after an odd number of them
    else if c = '"' ∧ odd = true then none
    else (readBack false text).map (c :: ·)

/-- The reader stops at the closing quote exactly if something is read back, and that is what it has
read. -/
theorem readQuoted_eq_some_iff (odd : Bool) (text rest found : List Char) :
    readQuoted (protector odd ++ (quoteChars text ++ '"' :: rest)) = some (found, rest) ↔
      readBack odd text = some found := by
  induction text generalizing odd found with
  | nil =>
    cases odd with
    | false => simp [protector, readBack, readQuoted_quote]
    | true =>
      -- the closing quote is protected, and the reader stops further on, if at all
      refine iff_of_false (fun h => ?_) (by simp [readBack])
      obtain ⟨tail, hread, -⟩ :=
        map_cons_eq_some_iff.1 ((readQuoted_protected '"' rest).symm.trans h)
      exact absurd (length_readQuoted hread) (Nat.lt_irrefl _)
  | cons c text ih =>
    have hread : ∀ found, readQuoted (quoteChars text ++ '"' :: rest) = some (found, rest) ↔
        readBack false text = some found := ih false
    have hnext : ∀ found, (readQuoted (quoteChars text ++ '"' :: rest)).map
          (fun found => (c :: found.1, found.2)) = some (found, rest) ↔
        (readBack false text).map (c :: ·) = some found := fun found => by
      rw [map_cons_eq_some_iff, Option.map_eq_some_iff]
      simp only [hread]
    by_cases hb : c = '\\'
    · subst hb
      cases odd with
      | false => simpa [protector, readBack, quoteChar] using ih true found
      | true => simpa [protector, readBack, quoteChar, readQuoted_protected] using hnext found
    · by_cases hq : c = '"'
      · subst hq
        cases odd with
        | false => simpa [protector, readBack, quoteChar, readQuoted_protected] using hnext found
        | true =>
          -- the backslash in front of the quote is protected, and the quote stops the reader
          refine iff_of_false (fun h => ?_) (by simp [readBack])
          simp only [protector, quoteChars_cons, quoteChar, if_true, List.cons_append,
            List.nil_append, readQuoted_protected, readQuoted_quote, Option.map_some,
            Option.some.injEq, Prod.mk.injEq] at h
          have hlength := congrArg List.length h.2
          simp only [List.length_append, List.length_cons] at hlength
          omega
      · cases odd with
        | false =>
          simpa [protector, readBack, quoteChar, hb, hq, readQuoted_cons hb hq] using hnext found
        | true =>
          simpa [protector, readBack, quoteChar, hb, hq, readQuoted_protected] using hnext found

/-- One of two backslashes is lost, so what is read back is shorter than a text with a backslash. -/
theorem length_readBack_lt {odd : Bool} {text found : List Char}
    (h : readBack odd text = some found) :
    found.length ≤ text.length ∧
      (odd = false → '\\' ∈ text → found.length < text.length) := by
  induction text generalizing odd found with
  | nil =>
    cases odd with
    | false => cases h; simp
    | true => cases h
  | cons c text ih =>
    rw [readBack] at h
    split at h
    · split at h
      · obtain ⟨tail, htail, rfl⟩ := Option.map_eq_some_iff.1 h
        have hle := (ih htail).1
        refine ⟨by simpa using hle, fun hodd => ?_⟩
        simp_all
      · have hle := (ih h).1
        simp only [List.length_cons]
        exact ⟨by omega, fun _ _ => by omega⟩
    · split at h
      · cases h
      · next hb _ =>
        obtain ⟨tail, htail, rfl⟩ := Option.map_eq_some_iff.1 h
        obtain ⟨hle, hlt⟩ := ih htail
        refine ⟨by simpa using hle, fun _ hmem => ?_⟩
        have hmem' : '\\' ∈ text := by
          rcases List.mem_cons.1 hmem with he | hm
          · exact absurd he.symm hb
          · exact hm
        simpa using hlt rfl hmem'

/-! ### Runs of backslashes -/

/-- Every run of backslashes that ends in front of a quote or at the end of the text is even; no
backslash stands in front of a run. -/
def EvenRuns (text : List Char) : Prop :=
  ∀ before n after, text = before ++ (List.replicate n '\\' ++ after) →
    before.getLast? ≠ some '\\' → (after = [] ∨ after.head? = some '"') → Even n

/-- How long a run at the beginning is, is determined by what comes after it. -/
theorem replicate_append_inj {m n : Nat} {a b : List Char} (ha : a.head? ≠ some '\\')
    (hb : b.head? ≠ some '\\')
    (h : List.replicate m '\\' ++ a = List.replicate n '\\' ++ b) : m = n ∧ a = b := by
  induction m generalizing n with
  | zero =>
    cases n with
    | zero => exact ⟨rfl, h⟩
    | succ n => exact absurd (by rw [show a = _ from h]; rfl) ha
  | succ m ih =>
    cases n with
    | zero => exact absurd (by rw [← show _ = b from h]; rfl) hb
    | succ n =>
      obtain ⟨hmn, hab⟩ := ih (List.cons.inj h).2
      exact ⟨congrArg (· + 1) hmn, hab⟩

/-- Nothing but backslashes ends in a backslash. -/
theorem eq_nil_of_append_eq_replicate {before after : List Char} {n : Nat}
    (h : before ++ after = List.replicate n '\\') (hbefore : before.getLast? ≠ some '\\') :
    before = [] := by
  obtain ⟨-, hb, -⟩ := List.append_eq_replicate_iff.1 h
  cases hlast : before.getLast? with
  | none => exact List.getLast?_eq_none_iff.1 hlast
  | some c =>
    have hc : c ∈ List.replicate before.length '\\' := hb ▸ List.mem_of_getLast? hlast
    exact absurd (hlast.trans (congrArg some (List.eq_of_mem_replicate hc))) hbefore

/-- What follows a run that counts does not make it longer. -/
theorem head?_ne_of_ends {after : List Char} (h : after = [] ∨ after.head? = some '"') :
    after.head? ≠ some '\\' := by
  rcases h with rfl | h
  · simp
  · rw [h]
    decide

/-- A run that reaches the end. -/
theorem evenRuns_replicate_iff (n : Nat) : EvenRuns (List.replicate n '\\') ↔ Even n := by
  constructor
  · intro h
    exact h [] n [] (by simp) (by simp) (.inl rfl)
  · intro h before m after heq hbefore hafter
    obtain rfl := eq_nil_of_append_eq_replicate heq.symm hbefore
    have hrest : List.replicate n '\\' ++ [] = List.replicate m '\\' ++ after := by simpa using heq
    rw [← (replicate_append_inj (by simp) (head?_ne_of_ends hafter) hrest).1]
    exact h

/-- A run that reaches another character counts only if that is a quote, and what comes after it
does not concern the run. -/
theorem evenRuns_replicate_append_cons_iff {c : Char} (hc : c ≠ '\\') (n : Nat)
    (text : List Char) :
    EvenRuns (List.replicate n '\\' ++ c :: text) ↔ (c = '"' → Even n) ∧ EvenRuns text := by
  have hhead : (c :: text).head? ≠ some '\\' := by simpa using hc
  constructor
  · intro h
    refine ⟨fun hquote => h [] n (c :: text) rfl (by simp) (.inr (by rw [hquote]; rfl)), ?_⟩
    rintro before m after rfl hbefore hafter
    refine h (List.replicate n '\\' ++ c :: before) m after (by simp) ?_ hafter
    rw [List.getLast?_append, List.getLast?_cons]
    cases hlast : before.getLast? with
    | none => simpa using hc
    | some d => simpa [hlast] using hbefore
  · rintro ⟨hquote, htext⟩ before m after heq hbefore hafter
    have hends := head?_ne_of_ends hafter
    rcases List.append_eq_append_iff.1 heq with ⟨middle, rfl, hmiddle⟩ | ⟨middle, hn, hmiddle⟩
    · cases middle with
      | nil =>
        -- the run lies behind the first one, in front of `c`, and is empty
        rw [(replicate_append_inj (n := 0) hends hhead hmiddle.symm).1]
        exact Even.zero
      | cons d middle =>
        obtain ⟨rfl, rfl⟩ := List.cons.inj hmiddle
        refine htext middle m after rfl (fun hlast => hbefore ?_) hafter
        rw [List.getLast?_append, List.getLast?_cons, hlast]
        rfl
    · -- the run is the first one
      obtain rfl := eq_nil_of_append_eq_replicate hn.symm hbefore
      rw [List.nil_append] at hn
      rw [← hn] at hmiddle
      obtain ⟨rfl, rfl⟩ := replicate_append_inj hends hhead hmiddle
      rcases hafter with hnil | hquote'
      · cases hnil
      · exact hquote (by simpa using hquote')

/-- Something is read back exactly if the runs are even; those at the beginning have been read
already, but for the one backslash that protects what comes next if their number is odd. -/
theorem isSome_readBack_iff (odd : Bool) (n : Nat) (hodd : odd = true ↔ ¬ Even n)
    (text : List Char) :
    (readBack odd text).isSome = true ↔ EvenRuns (List.replicate n '\\' ++ text) := by
  induction text generalizing odd n with
  | nil =>
    rw [List.append_nil, evenRuns_replicate_iff]
    cases odd <;> simp_all [readBack]
  | cons c text ih =>
    by_cases hb : c = '\\'
    · subst hb
      have hrun : List.replicate n '\\' ++ '\\' :: text = List.replicate (n + 1) '\\' ++ text := by
        rw [List.replicate_succ', List.append_assoc, List.singleton_append]
      have hnext := ih (!odd) (n + 1) (by cases odd <;> simp_all [Nat.even_add_one])
      rw [hrun, ← hnext]
      cases odd <;> simp [readBack]
    · have hrest := ih false 0 (by simp)
      rw [evenRuns_replicate_append_cons_iff hb, ← show _ ↔ EvenRuns text from hrest, readBack,
        if_neg hb]
      by_cases hq : c = '"' ∧ odd = true
      · simp_all
      · rw [if_neg hq, Option.isSome_map]
        refine ⟨fun h => ⟨fun hc => ?_, h⟩, fun h => h.2⟩
        by_contra heven
        exact hq ⟨hc, hodd.2 heven⟩

instance (text : List Char) : Decidable (EvenRuns text) :=
  decidable_of_iff _ (isSome_readBack_iff false 0 (by simp) text)

example : EvenRuns "a\\b \\\\\"".toList ∧ ¬ EvenRuns "C:\\".toList := by decide

/-! ### Where the reader stops -/

/-- **Where the reader stops**, whatever follows a quoted text, be it an exact text, the value of an
attribute or the name of a role: at its closing quote exactly if every run of backslashes in front
of a quote or of the end is even, and there with the text itself exactly if the text has no
backslash. -/
theorem readQuotedText_quote_iff (text : String) (rest : List Char) :
    ((∃ found, readQuotedText ((quote text).toList ++ rest) = some (found, rest)) ↔
      EvenRuns text.toList) ∧
    (readQuotedText ((quote text).toList ++ rest) = some (text.toList, rest) ↔
      '\\' ∉ text.toList) := by
  rw [readQuotedText_quote]
  have hread : ∀ found, readQuoted (quoteChars text.toList ++ '"' :: rest) = some (found, rest) ↔
      readBack false text.toList = some found := readQuoted_eq_some_iff false text.toList rest
  constructor
  · simp only [hread, ← Option.isSome_iff_exists]
    exact isSome_readBack_iff false 0 (by simp) text.toList
  · refine ⟨fun h hmem => ?_, fun h => readQuoted_quoteChars h rest⟩
    exact absurd ((length_readBack_lt ((hread _).1 h)).2 rfl hmem) (Nat.lt_irrefl _)

end ElementLookup.Selector
