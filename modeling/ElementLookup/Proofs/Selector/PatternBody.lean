/-
**The pattern for an inexact text.**

An inexact text that the engine would misread is written as the source of a pattern: characters with
a meaning are escaped, and then each run of spaces becomes the pattern for such runs.  The second
pass goes over what the first has written, so it has to be shown that the two do not interfere.
Here the source is read back as a regular expression.  It falls into tokens in one way only, one
token for each character of the text with its runs of spaces collapsed, and as an expression it
matches exactly the texts that arise from the given one by spacing it differently and folding its
letters.

Main definitions:

* `Selector.PatternToken`, `Selector.PatternToken.write`, `Selector.PatternToken.read?` — the parts
  of a source, how they are written, and the reader that finds them from left to right;
* `Selector.PatternToken.Matches`, `Selector.PatternToken.MatchesAll` — what a token, and what a
  sequence of tokens, matches;
* `Selector.textTokens` — the tokens for a text.

Main results:

* `Selector.PatternToken.read?_eq_some_iff` — the reader accepts exactly what is written, so a
  source falls into tokens in one way at most;
* `Selector.patternBody_eq_write` — the source for a text is what its tokens write;
* `Selector.matchesAll_textTokens_iff` — the tokens for a text match what arises from it;
* `Selector.needsPattern_iff` — the texts that are written as a pattern;
* `Selector.textBody_pattern_meaning` — **what the written form of such a text matches**.
-/

import ElementLookup.Proofs.Text.SpaceRuns
import ElementLookup.Selector.Escape

set_option autoImplicit false

namespace ElementLookup.Selector

open Text (isSpace MaximalRun collapseSpaces Respaced)

/-! ### Tokens -/

/-- A part of the source of a pattern. -/
inductive PatternToken where
  /-- A character without its meaning. -/
  | escaped (c : Char) (special : isSpecial c = true)
  /-- A run of spaces. -/
  | spaces
  /-- A character that has no meaning and is no space. -/
  | plain (c : Char) (ordinary : isSpecial c = false) (solid : isSpace c = false)
  deriving DecidableEq

namespace PatternToken

/-- A token as it is written. -/
def text : PatternToken → List Char
  | .escaped c _ => ['\\', c]
  | .spaces => anySpaces
  | .plain c _ _ => [c]

/-- Tokens as they are written, one after the other. -/
def write (tokens : List PatternToken) : List Char :=
  tokens.flatMap text

@[simp] theorem write_nil : write [] = [] := rfl

@[simp] theorem write_cons (t : PatternToken) (ts : List PatternToken) :
    write (t :: ts) = t.text ++ write ts := rfl

/-- Reads tokens from left to right, until nothing is left. -/
def read? : List Char → Option (List PatternToken)
  | [] => some []
  | '\\' :: 's' :: '+' :: rest => (.spaces :: ·) <$> read? rest
  | '\\' :: c :: rest =>
    if h : isSpecial c = true then (.escaped c h :: ·) <$> read? rest else none
  | c :: rest =>
    if h : isSpecial c = false ∧ isSpace c = false then (.plain c h.1 h.2 :: ·) <$> read? rest
    else none

/-- What is written is read back. -/
theorem read?_write (tokens : List PatternToken) : read? (write tokens) = some tokens := by
  induction tokens with
  | nil => rfl
  | cons t ts ih =>
      cases t with
      | escaped c hc =>
          -- the letter of a run of spaces has no meaning, so it is not the escaped character
          have hs : c ≠ 's' := by rintro rfl; cases hc
          rw [write_cons, text, List.cons_append, List.cons_append, List.nil_append, read?]
          · simp [hc, ih]
          · intro rest h
            exact absurd h hs
      | spaces => simp [text, anySpaces, read?, ih]
      | plain c hc hsp =>
          have hb : c ≠ '\\' := by rintro rfl; cases hc
          rw [write_cons, text, List.cons_append, List.nil_append, read?]
          · simp [hc, hsp, ih]
          · rintro rest rfl
            exact absurd rfl hb
          · rintro d rest rfl
            exact absurd rfl hb

/-- What is read was written. -/
theorem write_of_read? {cs : List Char} {tokens : List PatternToken}
    (h : read? cs = some tokens) : write tokens = cs := by
  fun_induction read? cs generalizing tokens with
  | case1 =>
      cases h
      rfl
  | case2 rest ih =>
      obtain ⟨ts, hts, rfl⟩ := Option.map_eq_some_iff.1 h
      simp [text, anySpaces, ih hts]
  | case3 c rest _ hc ih =>
      obtain ⟨ts, hts, rfl⟩ := Option.map_eq_some_iff.1 h
      simp [text, ih hts]
  | case4 => cases h
  | case5 c rest _ _ hc ih =>
      obtain ⟨ts, hts, rfl⟩ := Option.map_eq_some_iff.1 h
      simp [text, ih hts]
  | case6 => cases h

/-- The reader accepts exactly what is written. -/
theorem read?_eq_some_iff {cs : List Char} {tokens : List PatternToken} :
    read? cs = some tokens ↔ write tokens = cs :=
  ⟨write_of_read?, fun h => h ▸ read?_write tokens⟩

/-- A source falls into tokens in one way at most. -/
theorem write_injective {ts us : List PatternToken} (h : write ts = write us) : ts = us := by
  have hread := read?_write ts
  rw [h, read?_write] at hread
  exact (Option.some.inj hread).symm

/-! ### Tokens of a text -/

/-- The token for a character; a space stands for the run that it belongs to. -/
def ofChar (c : Char) : PatternToken :=
  if hsp : isSpace c = true then .spaces
  else if hc : isSpecial c = true then .escaped c hc
  else .plain c (Bool.eq_false_iff.2 hc) (Bool.eq_false_iff.2 hsp)

/-- The character that a token stands for, a plain space for a run. -/
def char : PatternToken → Char
  | .escaped c _ => c
  | .spaces => ' '
  | .plain c _ _ => c

theorem char_ofChar {c : Char} (h : isSpace c = true → c = ' ') : (ofChar c).char = c := by
  unfold ofChar
  split
  · rename_i hsp
    exact (h hsp).symm
  · split <;> rfl

end PatternToken

/-- The tokens for a text: one for each character, and one for each run of spaces. -/
def textTokens (text : List Char) : List PatternToken :=
  (collapseSpaces text).map PatternToken.ofChar

@[simp] theorem textTokens_nil : textTokens [] = [] := by simp [textTokens]

theorem textTokens_cons {c : Char} (hc : isSpace c = false) (rest : List Char) :
    textTokens (c :: rest) = .ofChar c :: textTokens rest := by
  rw [textTokens, Text.collapseSpaces_cons hc, List.map_cons, ← textTokens]

theorem textTokens_run {run rest : List Char} (h : MaximalRun run rest) :
    textTokens (run ++ rest) = .spaces :: textTokens rest := by
  rw [textTokens, Text.collapseSpaces_run h, List.map_cons, ← textTokens]
  rfl

/-- The tokens for a text stand for the text with its runs of spaces collapsed. -/
theorem map_char_textTokens (text : List Char) :
    (textTokens text).map PatternToken.char = collapseSpaces text := by
  rw [textTokens, List.map_map]
  refine (List.map_congr_left fun c hc => ?_).trans (List.map_id _)
  exact PatternToken.char_ofChar fun hsp => Text.eq_space_of_mem_collapseSpaces hc hsp

theorem textTokens_eq_iff {s t : List Char} :
    textTokens s = textTokens t ↔ collapseSpaces s = collapseSpaces t := by
  refine ⟨fun h => ?_, fun h => by rw [textTokens, textTokens, h]⟩
  rw [← map_char_textTokens, ← map_char_textTokens, h]

/-! ### The written source -/

/-- An escaped character is written as its token, whatever stands after it. -/
theorem widenSpaces_escapeChar {c : Char} (hc : isSpace c = false) (rest : List Char) :
    widenSpaces false (escapeChar c ++ rest) =
      (PatternToken.ofChar c).text ++ widenSpaces false rest := by
  have hb : isSpace '\\' = false := rfl
  by_cases hm : isSpecial c = true
  · simp [escapeChar, PatternToken.ofChar, PatternToken.text, widenSpaces, hm, hc, hb]
  · simp [escapeChar, PatternToken.ofChar, PatternToken.text, widenSpaces, hm, hc]

/-- Within a run, the rest of the run writes nothing. -/
theorem widenSpaces_true_append {run : List Char} (hrun : ∀ c ∈ run, isSpace c = true)
    {rest : List Char} (hrest : ∀ c, rest.head? = some c → isSpace c = false) :
    widenSpaces true (run ++ rest) = widenSpaces false rest := by
  induction run with
  | nil =>
      cases rest with
      | nil => rfl
      | cons d r => simp [widenSpaces, hrest d rfl]
  | cons c r ih =>
      rw [List.forall_mem_cons] at hrun
      simp [widenSpaces, hrun.1, ih hrun.2]

theorem widenSpaces_run {run rest : List Char} (h : MaximalRun run rest) :
    widenSpaces false (run ++ rest) = anySpaces ++ widenSpaces false rest := by
  obtain ⟨hne, hsp, hend⟩ := h
  cases run with
  | nil => exact absurd rfl hne
  | cons c r =>
      rw [List.forall_mem_cons] at hsp
      simp [widenSpaces, hsp.1, widenSpaces_true_append hsp.2 hend]

theorem isSpecial_of_isSpace {c : Char} (h : isSpace c = true) : isSpecial c = false := by
  have hall : specials.all (!isSpace ·) = true := by decide
  rw [isSpecial, decide_eq_false_iff_not]
  intro hc
  have hno := List.all_eq_true.1 hall c hc
  rw [h] at hno
  cases hno

/-- Spaces are not escaped. -/
theorem escapeChars_of_spaces {run : List Char} (h : ∀ c ∈ run, isSpace c = true) :
    escapeChars run = run := by
  induction run with
  | nil => rfl
  | cons c r ih =>
      rw [List.forall_mem_cons] at h
      simp [escapeChar, isSpecial_of_isSpace h.1, ih h.2]

/-- Escaping keeps the first character of a text from becoming a space. -/
theorem head?_escapeChars {rest : List Char} (h : ∀ c, rest.head? = some c → isSpace c = false) :
    ∀ c, (escapeChars rest).head? = some c → isSpace c = false := by
  cases rest with
  | nil => simp
  | cons d r =>
      intro c hc
      rw [escapeChars_cons, escapeChar] at hc
      split at hc
      · cases hc
        rfl
      · exact h c (by simpa using hc)

/-- The two passes together write the tokens of a text. -/
theorem patternBody_eq_write (text : List Char) :
    patternBody text = PatternToken.write (textTokens text) := by
  rw [patternBody]
  induction text using Text.runInduction with
  | nil => simp
  | char c rest hc ih =>
      rw [escapeChars_cons, widenSpaces_escapeChar hc, ih, textTokens_cons hc,
        PatternToken.write_cons]
  | run run rest hrun ih =>
      -- the run itself is not escaped, and what follows it still starts with no space
      have hrun' : MaximalRun run (escapeChars rest) :=
        ⟨hrun.nonempty, hrun.spaces, head?_escapeChars hrun.ends⟩
      rw [escapeChars_append, escapeChars_of_spaces hrun.spaces, widenSpaces_run hrun', ih,
        textTokens_run hrun, PatternToken.write_cons, PatternToken.text]

/-! ### What a source matches -/

section Meaning

variable {α : Type} (fold : Char → α) (spaces : Char → Prop)

/-- What a token matches: a character any other with the same folding, and a run of spaces any
characters of the class `spaces`, at least one. -/
def PatternToken.Matches : PatternToken → List Char → Prop
  | .escaped c _, found => ∃ d, found = [d] ∧ fold d = fold c
  | .spaces, found => found ≠ [] ∧ ∀ d ∈ found, spaces d
  | .plain c _ _, found => ∃ d, found = [d] ∧ fold d = fold c

/-- What a sequence of tokens matches in full: one piece for each token, one after the other. -/
def PatternToken.MatchesAll : List PatternToken → List Char → Prop
  | [], found => found = []
  | t :: ts, found =>
    ∃ first rest, found = first ++ rest ∧ t.Matches fold spaces first ∧ MatchesAll ts rest

variable {fold spaces}

theorem PatternToken.matches_ofChar {c : Char} (hc : isSpace c = false) {found : List Char} :
    (ofChar c).Matches fold spaces found ↔ ∃ d, found = [d] ∧ fold d = fold c := by
  by_cases hm : isSpecial c = true <;> simp [ofChar, Matches, hc, hm]

/-- What the tokens for a text match arises from the text. -/
theorem respaced_of_matchesAll {text found : List Char}
    (h : PatternToken.MatchesAll fold spaces (textTokens text) found) :
    Respaced fold spaces text found := by
  induction text using Text.runInduction generalizing found with
  | nil =>
      rw [textTokens_nil, PatternToken.MatchesAll] at h
      rw [h]
      exact .nil
  | char c rest hc ih =>
      rw [textTokens_cons hc, PatternToken.MatchesAll] at h
      obtain ⟨first, other, rfl, hfirst, hother⟩ := h
      obtain ⟨d, rfl, hd⟩ := (PatternToken.matches_ofChar hc).1 hfirst
      exact .char hc hd (ih hother)
  | run run rest hrun ih =>
      rw [textTokens_run hrun, PatternToken.MatchesAll] at h
      obtain ⟨wide, other, rfl, ⟨hne, hwide⟩, hother⟩ := h
      exact .run hrun hne hwide (ih hother)

/-- The tokens for a text match exactly what arises from it. -/
theorem matchesAll_textTokens_iff {text found : List Char} :
    PatternToken.MatchesAll fold spaces (textTokens text) found ↔
      Respaced fold spaces text found := by
  refine ⟨respaced_of_matchesAll, fun h => ?_⟩
  induction h with
  | nil => rw [textTokens_nil, PatternToken.MatchesAll]
  | @char c d rest other hc hd _ ih =>
      rw [textTokens_cons hc]
      exact ⟨[d], other, rfl, (PatternToken.matches_ofChar hc).2 ⟨d, rfl, hd⟩, ih⟩
  | @run run rest wide other hrun hne hwide _ ih =>
      rw [textTokens_run hrun]
      exact ⟨wide, other, rfl, ⟨hne, hwide⟩, ih⟩

end Meaning

/-! ### Inexact texts -/

/-- A separator is two angle brackets beside each other, anywhere in a text. -/
theorem hasSeparator_iff (cs : List Char) : hasSeparator cs = true ↔ ['>', '>'] <:+: cs := by
  fun_induction hasSeparator cs with
  | case1 rest => simpa using (List.prefix_append ['>', '>'] rest).isInfix
  | case2 c rest hne ih =>
      rw [ih, List.infix_cons_iff]
      refine ⟨Or.inr, fun h => h.resolve_left ?_⟩
      rintro ⟨tail, htail⟩
      obtain ⟨rfl, rfl⟩ := List.cons.inj htail
      exact hne tail rfl rfl
  | case3 => simp

/-- The texts that are written as a pattern unless they are looked for exactly. -/
theorem needsPattern_iff (cs : List Char) :
    needsPattern cs = true ↔ '"' ∈ cs ∨ ['>', '>'] <:+: cs ∨ cs.head? = some '/' := by
  simp [needsPattern, hasSeparator_iff, or_assoc]

/-- Such a text is written as its tokens between slashes, and marked for any case of letters. -/
theorem textBody_of_needsPattern {text : String} (h : needsPattern text.toList = true) :
    textBody (.literal text) false =
      "/" ++ String.ofList (PatternToken.write (textTokens text.toList)) ++ "/i" := by
  rw [← patternBody_eq_write]
  simp [textBody, h]

/-- **The meaning of the pattern for an inexact text.**  A text with a double quote or a separator,
or with a slash in front, is written as a source between slashes that falls into tokens in exactly
one way, which reading from left to right finds.  Under any folding of characters, and for any class
of characters that holds the spaces, these tokens match exactly what arises from the text by
respacing it, the text itself above all. -/
theorem textBody_pattern_meaning {α : Type} (fold : Char → α) {spaces : Char → Prop}
    (hspaces : ∀ c, isSpace c = true → spaces c) (text : String)
    (h : '"' ∈ text.toList ∨ ['>', '>'] <:+: text.toList ∨ text.toList.head? = some '/') :
    ∃ (body : List Char) (tokens : List PatternToken),
      textBody (.literal text) false = "/" ++ String.ofList body ++ "/i" ∧
      PatternToken.read? body = some tokens ∧
      (∀ others, PatternToken.write others = body ↔ others = tokens) ∧
      (∀ found, PatternToken.MatchesAll fold spaces tokens found ↔
        Respaced fold spaces text.toList found) ∧
      PatternToken.MatchesAll fold spaces tokens text.toList := by
  refine ⟨PatternToken.write (textTokens text.toList), textTokens text.toList,
    textBody_of_needsPattern ((needsPattern_iff _).2 h), PatternToken.read?_write _, ?_,
    fun found => matchesAll_textTokens_iff, ?_⟩
  · intro others
    exact ⟨PatternToken.write_injective, fun e => e ▸ rfl⟩
  · exact matchesAll_textTokens_iff.2 (Text.respaced_self fold hspaces text.toList)

/-- The statement at a text in which backslashes stand beside spaces and beside the letter that
writes a run. -/
theorem textBody_pattern_meaning_backslashes :
    '"' ∈ "a\\ \t\"\\s+ \\".toList ∧
    ∃ (body : List Char) (tokens : List PatternToken),
      textBody (.literal "a\\ \t\"\\s+ \\") false = "/" ++ String.ofList body ++ "/i" ∧
      PatternToken.read? body = some tokens ∧
      (∀ others, PatternToken.write others = body ↔ others = tokens) ∧
      (∀ found, PatternToken.MatchesAll Char.toLower (Text.isWhite · = true) tokens found ↔
        Respaced Char.toLower (Text.isWhite · = true) "a\\ \t\"\\s+ \\".toList found) ∧
      PatternToken.MatchesAll Char.toLower (Text.isWhite · = true) tokens
        "a\\ \t\"\\s+ \\".toList :=
  ⟨by decide, textBody_pattern_meaning Char.toLower (fun _ => Text.isWhite_of_isSpace)
    "a\\ \t\"\\s+ \\" (.inl (by decide))⟩

end ElementLookup.Selector
