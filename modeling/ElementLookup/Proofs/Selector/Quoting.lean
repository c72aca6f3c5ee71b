/-
**Quoted text and its reader.**

The engine reads a quoted text from its opening quote up to the next quote that no backslash
protects; a backslash makes the next character literal.  Quoting protects the quotes of a text but
lets its backslashes pass, so the reader gives back every text without a backslash.  A text with
backslashes may be read differently, but it is still written differently from every other text.

Main definitions:

* `Selector.readQuoted` — the engine's reader, after the opening quote;
* `Selector.unquoteChars` — the quotes of a text without the backslashes in front of them.

Main results:

* `Selector.readQuoted_quoteChars` — a text without a backslash is read back, whatever follows;
* `Selector.length_readQuoted` — the reader uses up something;
* `Selector.quoteChars_injective`, `Selector.quote_injective` — no two texts are quoted alike.
-/

import ElementLookup.Selector.Escape

set_option autoImplicit false

namespace ElementLookup.Selector

/-! ### The engine's reader -/

/-- Reads quoted text after its opening quote: the text, and what stands after the closing quote. -/
def readQuoted : List Char → Option (List Char × List Char)
  | [] => none
  | ['\\'] => none
  | '\\' :: c :: rest => (readQuoted rest).map fun found => (c :: found.1, found.2)
  | c :: rest =>
    if c = '"' then some ([], rest)
    else (readQuoted rest).map fun found => (c :: found.1, found.2)

theorem readQuoted_quote (rest : List Char) : readQuoted ('"' :: rest) = some ([], rest) := by
  simp [readQuoted]

theorem readQuoted_cons {c : Char} (hb : c ≠ '\\') (hq : c ≠ '"') (rest : List Char) :
    readQuoted (c :: rest) = (readQuoted rest).map fun found => (c :: found.1, found.2) := by
  rw [readQuoted]
  · rw [if_neg hq]
  · exact fun h _ => hb h
  · exact fun _ _ h _ => hb h

/-- A text without a backslash is read back, and what follows the closing quote is left. -/
theorem readQuoted_quoteChars {text : List Char} (h : '\\' ∉ text) (rest : List Char) :
    readQuoted (quoteChars text ++ '"' :: rest) = some (text, rest) := by
  induction text with
  | nil => exact readQuoted_quote rest
  | cons c r ih =>
      rw [List.mem_cons, not_or] at h
      rw [quoteChars_cons, List.append_assoc]
      by_cases hq : c = '"'
      · subst hq
        simp [quoteChar, readQuoted, ih h.2]
      · simp [quoteChar, hq, readQuoted_cons (Ne.symm h.1) hq, ih h.2]

/-- Changing what was read leaves the rest as it was. -/
theorem exists_read_of_map {α β : Type} {read : Option (α × List Char)}
    {f : α × List Char → β × List Char} {b : β} {rest : List Char}
    (h : read.map f = some (b, rest)) (hf : ∀ found, (f found).2 = found.2) :
    ∃ a, read = some (a, rest) := by
  obtain ⟨found, hread, hfound⟩ := Option.map_eq_some_iff.1 h
  have hrest : found.2 = rest := by rw [← hf found, hfound]
  exact ⟨found.1, by rw [hread, ← hrest]⟩

/-- The reader uses up the closing quote at least. -/
theorem length_readQuoted {cs text rest : List Char} (h : readQuoted cs = some (text, rest)) :
    rest.length < cs.length := by
  fun_induction readQuoted cs generalizing text with
  | case1 => cases h
  | case2 => cases h
  | case3 c r ih =>
      obtain ⟨found, hread⟩ := exists_read_of_map h fun _ => rfl
      have hlt := ih hread
      simp only [List.length_cons]
      omega
  | case4 r =>
      cases h
      simp
  | case5 c r _ _ hq ih =>
      obtain ⟨found, hread⟩ := exists_read_of_map h fun _ => rfl
      have hlt := ih hread
      simp only [List.length_cons]
      omega

/-! ### No two texts are quoted alike -/

/-- Drops the backslash in front of each quote. -/
def unquoteChars : List Char → List Char
  | '\\' :: '"' :: rest => '"' :: unquoteChars rest
  | c :: rest => c :: unquoteChars rest
  | [] => []

/-- Quoted text never starts with a quote, for that would be protected. -/
theorem head?_quoteChars (text : List Char) : (quoteChars text).head? ≠ some '"' := by
  cases text with
  | nil => simp
  | cons c r =>
      rw [quoteChars_cons, quoteChar]
      split
      · simp
      · rename_i hc
        simpa using hc

theorem unquoteChars_quoteChars (text : List Char) : unquoteChars (quoteChars text) = text := by
  induction text with
  | nil => rfl
  | cons c r ih =>
      rw [quoteChars_cons]
      by_cases hq : c = '"'
      · subst hq
        simp [quoteChar, unquoteChars, ih]
      · -- a backslash of the text itself protects nothing: what follows it starts with no quote
        have hstep : unquoteChars (c :: quoteChars r) = c :: unquoteChars (quoteChars r) := by
          rw [unquoteChars]
          intro rest _ hr
          exact head?_quoteChars r (by rw [hr, List.head?_cons])
        simp [quoteChar, hq, hstep, ih]

theorem quoteChars_injective {s t : List Char} (h : quoteChars s = quoteChars t) : s = t := by
  rw [← unquoteChars_quoteChars s, h, unquoteChars_quoteChars]

theorem toList_quote (text : String) :
    (quote text).toList = '"' :: (quoteChars text.toList ++ ['"']) := by
  simp [quote]

theorem quote_injective {s t : String} (h : quote s = quote t) : s = t := by
  have hchars := congrArg String.toList h
  rw [toList_quote, toList_quote, List.cons.injEq] at hchars
  exact String.toList_inj.1 (quoteChars_injective (List.append_cancel_right hchars.2))

end ElementLookup.Selector
