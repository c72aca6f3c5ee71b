/-
**Blank characters and trimming.**

Three notions of "blank" meet in this library and must not be confused.  A *blank* in the wide
sense is any white space of Unicode together with the four information separators
`U+001C … U+001F`; roles, attribute names and settings are trimmed with it.  *White space* is the
Unicode property alone; whole numbers written as text may be padded with it.  A *text space* is one
of the six ASCII characters that a regular expression writes as a run of space.

Main definitions:

* `Text.isBlank`, `Text.isWhite`, `Text.isSpace` — the three classes, widest first;
* `Text.trim`, `Text.strip` — removing a class from both ends;
* `Text.Unpadded` — a text that begins and ends outside a class.

Main results:

* `Text.isBlank_of_isWhite`, `Text.isWhite_of_isSpace` — the classes are nested;
* `Text.trim_trim` — trimming twice is trimming once;
* `Text.unpadded_trim` — nothing of the class is left at the ends.
-/

set_option autoImplicit false

namespace ElementLookup.Text

/-! ### Classes -/

/-- The six ASCII characters that separate words in an element's text. -/
def isSpace (c : Char) : Bool :=
  c = ' ' || (9 ≤ c.toNat && c.toNat ≤ 13)

/-- The characters with the Unicode property `White_Space`. -/
def isWhite (c : Char) : Bool :=
  let n := c.toNat
  n = 32 || (9 ≤ n && n ≤ 13) || n = 0x85 || n = 0xA0 || n = 0x1680
    || (0x2000 ≤ n && n ≤ 0x200A) || n = 0x2028 || n = 0x2029 || n = 0x202F || n = 0x205F
    || n = 0x3000

/-- White space or one of the information separators `U+001C … U+001F`. -/
def isBlank (c : Char) : Bool :=
  isWhite c || (0x1C ≤ c.toNat && c.toNat ≤ 0x1F)

theorem isBlank_of_isWhite {c : Char} (h : isWhite c = true) : isBlank c = true := by
  simp [isBlank, h]

theorem isWhite_of_isSpace {c : Char} (h : isSpace c = true) : isWhite c = true := by
  simp only [isSpace, Bool.or_eq_true, decide_eq_true_eq] at h
  rcases h with rfl | h
  · decide
  · simp only [isWhite, h, Bool.true_or, Bool.or_true]

/-- The white space of core is white space here too. -/
theorem isWhite_of_isWhitespace {c : Char} (h : c.isWhitespace = true) : isWhite c = true := by
  simp only [Char.isWhitespace, Bool.or_eq_true, decide_eq_true_eq] at h
  rcases h with ((rfl | rfl) | rfl) | rfl <;> decide

/-! ### Trimming -/

/-- Removes the characters of class `p` from the end. -/
def trimEnd (p : Char → Bool) (cs : List Char) : List Char :=
  (cs.reverse.dropWhile p).reverse

/-- Removes the characters of class `p` from both ends. -/
def trim (p : Char → Bool) (cs : List Char) : List Char :=
  trimEnd p (cs.dropWhile p)

/-- Removes blanks from both ends. -/
def strip (s : String) : String :=
  String.ofList (trim isBlank s.toList)

@[simp] theorem trim_nil (p : Char → Bool) : trim p [] = [] := rfl

/-- A character that survives at the front is not of the class. -/
theorem head?_dropWhile_not (p : Char → Bool) (cs : List Char) (c : Char)
    (h : (cs.dropWhile p).head? = some c) : p c = false := by
  induction cs with
  | nil => simp at h
  | cons a r ih =>
    by_cases ha : p a
    · simp [ha] at h; exact ih h
    · simp [ha] at h; subst h; simpa using ha

/-- What already starts outside the class loses nothing at the front. -/
theorem dropWhile_eq_self (p : Char → Bool) (cs : List Char)
    (h : ∀ c, cs.head? = some c → p c = false) : cs.dropWhile p = cs := by
  cases cs with
  | nil => rfl
  | cons a r => simp [h a rfl]

theorem dropWhile_dropWhile (p : Char → Bool) (cs : List Char) :
    (cs.dropWhile p).dropWhile p = cs.dropWhile p :=
  dropWhile_eq_self p _ fun _ hc => head?_dropWhile_not p cs _ hc

theorem trimEnd_trimEnd (p : Char → Bool) (cs : List Char) :
    trimEnd p (trimEnd p cs) = trimEnd p cs := by
  simp [trimEnd, dropWhile_dropWhile]

/-- Trimming the end keeps the first character, unless it removes everything. -/
theorem head?_trimEnd (p : Char → Bool) (cs : List Char) (c : Char)
    (h : (trimEnd p cs).head? = some c) : cs.head? = some c := by
  -- what is left is a prefix, so its first character is that of the whole
  have hpre : trimEnd p cs <+: cs := by
    have := List.reverse_prefix.2 (List.dropWhile_suffix p (l := cs.reverse))
    simpa [trimEnd] using this
  obtain ⟨t, ht⟩ := hpre
  rw [← ht]
  cases hq : trimEnd p cs with
  | nil => simp [hq] at h
  | cons a r => simpa [hq] using h

theorem trim_trim (p : Char → Bool) (cs : List Char) : trim p (trim p cs) = trim p cs := by
  -- the front is settled by the first pass, and trimming the end does not touch it
  have h : (trim p cs).dropWhile p = trim p cs :=
    dropWhile_eq_self p _ fun c hc =>
      head?_dropWhile_not p cs c (head?_trimEnd p _ c hc)
  rw [trim, h, trim, trimEnd_trimEnd]

/-- Stripping twice is stripping once. -/
theorem strip_strip (s : String) : strip (strip s) = strip s := by
  simp [strip, trim_trim]

/-- Neither the first character nor the last one is of class `p`. -/
def Unpadded (p : Char → Bool) (cs : List Char) : Prop :=
  (∀ c, cs.head? = some c → p c = false) ∧ ∀ c, cs.getLast? = some c → p c = false

/-- Trimming leaves nothing of the class at the ends. -/
theorem unpadded_trim (p : Char → Bool) (cs : List Char) : Unpadded p (trim p cs) := by
  refine ⟨fun c hc => head?_dropWhile_not p cs c (head?_trimEnd p _ c hc), fun c hc => ?_⟩
  rw [trim, trimEnd, List.getLast?_reverse] at hc
  exact head?_dropWhile_not p _ c hc

theorem unpadded_strip (s : String) : Unpadded isBlank (strip s).toList := by
  rw [strip, String.toList_ofList]
  exact unpadded_trim isBlank s.toList

end ElementLookup.Text
