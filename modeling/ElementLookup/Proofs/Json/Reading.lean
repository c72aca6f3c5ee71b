/-
**Reading what was written.**

A written value is read from left to right: white space may stand between its parts, a text ends at
the first quote that no backslash precedes, a number at the first character that is no digit, and a
container at its closing bracket.  Whoever reads the form on one line finds the value that was
written, with the members of objects in their order, whatever texts are in it: quotes, backslashes
and control characters are escaped, and everything else stands for itself.  So no text can end the
line on which it is written.

Main definitions:

* `Json.readText`, `Json.readNumber` — texts and whole numbers;
* `Json.readSequence`, `Json.readEnclosed` — what stands between brackets, one after the other;
* `Json.readMember`, `Json.readValue`, `Json.read?` — members of objects and values.

Main results:

* `Json.induct` — induction on values, through lists and objects;
* `Json.readText_quoted`, `Json.readNumber_toString`, `Json.readEnclosed_intercalate` — the parts of
  a written value are read back;
* `Json.read?_line` — **what is written on one line is read back**;
* `Json.unbroken_line` — **a written line holds no control character**.
-/

import ElementLookup.Json
import ElementLookup.Proofs.Number.Decimal

set_option autoImplicit false

namespace ElementLookup.Json

/-! ### White space -/

/-- The white space that may stand between the parts of a written value. -/
def isGap (c : Char) : Bool :=
  c = ' ' || c = '\t' || c = '\n' || c = '\r'

/-- Passes over white space. -/
def skipGap (cs : List Char) : List Char := cs.dropWhile isGap

theorem skipGap_cons {c : Char} (h : isGap c = false) (cs : List Char) :
    skipGap (c :: cs) = c :: cs := by
  rw [skipGap, List.dropWhile_cons_of_neg (by simp [h])]

/-! ### Reading texts -/

/-- The number of four hexadecimal digits. -/
def readUnit : List Char → Option (Nat × List Char)
  | a :: b :: c :: d :: r =>
    ([a, b, c, d].mapM (Number.digitIn? 16)).map fun ds => (Number.ofDigits 16 ds, r)
  | _ => none

/-- A character by its code: one unit, or two that make up a surrogate pair. -/
def readCode (cs : List Char) : Option (Char × List Char) :=
  (readUnit cs).bind fun (u, r) =>
    if u < 0xD800 ∨ 0xE000 ≤ u then some (Char.ofNat u, r)
    else if 0xDC00 ≤ u then none
    else match r with
      | '\\' :: 'u' :: r =>
        (readUnit r).bind fun (v, r) =>
          if 0xDC00 ≤ v ∧ v < 0xE000 then
            some (Char.ofNat (0x10000 + (u - 0xD800) * 0x400 + (v - 0xDC00)), r)
          else none
      | _ => none

/-- A character by what follows a backslash. -/
def readEscape : List Char → Option (Char × List Char)
  | [] => none
  | e :: r =>
    match e with
    | '"' | '\\' | '/' => some (e, r)
    | 'b' => some ('\x08', r)
    | 'f' => some ('\x0c', r)
    | 'n' => some ('\n', r)
    | 'r' => some ('\r', r)
    | 't' => some ('\t', r)
    | 'u' => readCode r
    | _ => none

theorem length_readUnit {cs r : List Char} {u : Nat} (h : readUnit cs = some (u, r)) :
    r.length < cs.length := by
  rw [readUnit.eq_def] at h
  split at h
  · obtain ⟨ds, -, hds⟩ := Option.map_eq_some_iff.1 h
    obtain rfl := (Prod.mk.inj hds).2
    simp only [List.length_cons]
    omega
  · exact nomatch h

theorem length_readCode {cs r : List Char} {c : Char} (h : readCode cs = some (c, r)) :
    r.length < cs.length := by
  obtain ⟨⟨u, t⟩, hu, hrest⟩ := Option.bind_eq_some_iff.1 h
  have hlt := length_readUnit hu
  dsimp only at hrest
  split at hrest
  · obtain rfl := (Prod.mk.inj (Option.some.inj hrest)).2
    exact hlt
  · split at hrest
    · exact nomatch hrest
    · split at hrest
      · obtain ⟨⟨v, t'⟩, hv, hpair⟩ := Option.bind_eq_some_iff.1 hrest
        have hlt' := length_readUnit hv
        dsimp only at hpair
        split at hpair
        · obtain rfl := (Prod.mk.inj (Option.some.inj hpair)).2
          simp only [List.length_cons] at hlt
          omega
        · exact nomatch hpair
      · exact nomatch hrest

theorem length_readEscape {cs r : List Char} {c : Char} (h : readEscape cs = some (c, r)) :
    r.length < cs.length := by
  cases cs with
  | nil => exact nomatch h
  | cons e t =>
    have hself : ∀ d : Char, some (d, t) = some (c, r) → r.length < (e :: t).length := by
      intro d hd
      obtain rfl := (Prod.mk.inj (Option.some.inj hd)).2
      exact Nat.lt_succ_self _
    rw [readEscape.eq_def] at h
    dsimp only at h
    split at h
    all_goals first
      | exact hself _ h
      | exact Nat.lt_succ_of_lt (length_readCode h)
      | exact nomatch h

/-- A text, from behind the quote that opens it to behind the one that closes it. -/
def readText (cs : List Char) : Option (List Char × List Char) :=
  match cs with
  | [] => none
  | c :: r =>
    if c = '"' then some ([], r)
    else if c = '\\' then
      match _h : readEscape r with
      | none => none
      | some (d, rest) => (readText rest).map fun t => (d :: t.1, t.2)
    -- a control character has no place in a text
    else if c.toNat < 32 then none
    else (readText r).map fun t => (c :: t.1, t.2)
termination_by cs.length
decreasing_by
  · have := length_readEscape _h
    simp only [List.length_cons]
    omega
  · exact Nat.lt_succ_self _

theorem readText_quote (r : List Char) : readText ('"' :: r) = some ([], r) := by
  rw [readText, if_pos rfl]

theorem readText_escape {cs r : List Char} {d : Char} (h : readEscape cs = some (d, r)) :
    readText ('\\' :: cs) = (readText r).map fun t => (d :: t.1, t.2) := by
  rw [readText, if_neg (by decide), if_pos rfl]
  split
  · rename_i hnone
    rw [h] at hnone
    exact nomatch hnone
  · rename_i e rest hsome
    obtain ⟨rfl, rfl⟩ := Prod.mk.inj (Option.some.inj (h.symm.trans hsome))
    rfl

theorem readText_plain {c : Char} (hquote : c ≠ '"') (hstroke : c ≠ '\\') (hc : 32 ≤ c.toNat)
    (r : List Char) : readText (c :: r) = (readText r).map fun t => (c :: t.1, t.2) := by
  rw [readText, if_neg hquote, if_neg hstroke, if_neg (by omega)]

/-- Control characters without a letter of their own are written as a unit. -/
theorem readUnit_hexPadded (n : Fin 32) (r : List Char) :
    readUnit (Text.hexPadded 4 n ++ r) = some (n.val, r) := by
  have hdigits : ∀ n : Fin 32, ∃ a b c d, Text.hexPadded 4 n = [a, b, c, d] ∧
      ([a, b, c, d].mapM (Number.digitIn? 16)).map (Number.ofDigits 16) = some n.val := by
    intro n
    refine ⟨'0', '0', Nat.digitChar (n / 16), Nat.digitChar (n % 16), ?_, ?_⟩ <;>
      revert n <;> decide
  obtain ⟨a, b, c, d, hform, hread⟩ := hdigits n
  obtain ⟨ds, hds, hvalue⟩ := Option.map_eq_some_iff.1 hread
  rw [hform]
  change ([a, b, c, d].mapM (Number.digitIn? 16)).map _ = _
  rw [hds, Option.map_some, hvalue]
  rfl

/-- What stands for a character in a written text is read as this character. -/
theorem readText_escapeChar (c : Char) (cs : List Char) :
    readText (escapeChar c ++ cs) = (readText cs).map fun t => (c :: t.1, t.2) := by
  rw [escapeChar]
  by_cases hquote : c = '"'
  · subst hquote
    exact readText_escape rfl
  by_cases hstroke : c = '\\'
  · subst hstroke
    exact readText_escape rfl
  rw [if_neg hquote, if_neg hstroke]
  by_cases hn : c = '\n'
  · subst hn
    exact readText_escape rfl
  by_cases hr : c = '\r'
  · subst hr
    exact readText_escape rfl
  by_cases ht : c = '\t'
  · subst ht
    exact readText_escape rfl
  rw [if_neg hn, if_neg hr, if_neg ht]
  by_cases hb : c.toNat = 8
  · obtain rfl : c = '\x08' := Char.toNat_inj.1 hb
    exact readText_escape rfl
  by_cases hf : c.toNat = 12
  · obtain rfl : c = '\x0c' := Char.toNat_inj.1 hf
    exact readText_escape rfl
  rw [if_neg hb, if_neg hf]
  by_cases hc : c.toNat < 32
  · rw [if_pos hc]
    refine readText_escape ?_
    change readCode (Text.hexPadded 4 c.toNat ++ cs) = _
    rw [readCode, readUnit_hexPadded ⟨c.toNat, hc⟩, Option.bind_some]
    dsimp only
    rw [if_pos (.inl (by omega)), Char.ofNat_toNat]
  · rw [if_neg hc]
    exact readText_plain hquote hstroke (by omega) cs

/-- A written text is read back, whatever comes after it. -/
theorem readText_quoted (cs rest : List Char) :
    readText (cs.flatMap escapeChar ++ '"' :: rest) = some (cs, rest) := by
  induction cs with
  | nil => exact readText_quote rest
  | cons c r ih =>
    rw [List.flatMap_cons, List.append_assoc, readText_escapeChar, ih]
    rfl

/-! ### Reading numbers -/

/-- A number without a sign; unless it is zero, it does not begin with a zero. -/
def readDigits (cs : List Char) : Option (Nat × List Char) :=
  match cs.takeWhile Char.isDigit with
  | [] => none
  | '0' :: _ :: _ => none
  | digits => some (Nat.ofDigitChars 10 digits 0, cs.dropWhile Char.isDigit)

/-- A whole number. -/
def readNumber : List Char → Option (Int × List Char)
  | [] => none
  | c :: r =>
    if c = '-' then (readDigits r).map fun t => (-(t.1 : Int), t.2)
    else (readDigits (c :: r)).map fun t => ((t.1 : Int), t.2)

/-- What follows does not belong to a number before it. -/
def EndsNumber (rest : List Char) : Prop :=
  ∀ c ∈ rest.head?, c.isDigit = false

theorem endsNumber_nil : EndsNumber [] := by
  intro c hc
  exact nomatch hc

theorem endsNumber_cons {c : Char} (h : c.isDigit = false) (r : List Char) :
    EndsNumber (c :: r) := by
  intro d hd
  obtain rfl : c = d := Option.some.inj hd
  exact h

/-- A number other than zero does not begin with a zero. -/
theorem head?_toDigits {n : Nat} (h : 0 < n) : (Nat.toDigits 10 n).head? ≠ some '0' := by
  induction n using Nat.strongRecOn with
  | ind n ih =>
    by_cases hlt : n < 10
    · rw [Nat.toDigits_of_lt_base hlt]
      have hdigit : ∀ d : Fin 10, 0 < d.val → Nat.digitChar d ≠ '0' := by decide
      intro hhead
      exact hdigit ⟨n, hlt⟩ h (Option.some.inj hhead)
    · have hsplit : Nat.toDigits 10 n = Nat.toDigits 10 (n / 10) ++ Nat.toDigits 10 (n % 10) := by
        rw [Nat.toDigits_append_toDigits (by decide) (by omega) (Nat.mod_lt n (by decide)),
          Nat.div_add_mod]
      have hfront := ih (n / 10) (by omega) (by omega)
      obtain ⟨c, r, hcr⟩ := List.exists_cons_of_ne_nil
        (Nat.toDigits_ne_nil (n := n / 10) (b := 10))
      rw [hcr] at hfront
      rw [hsplit, hcr]
      exact hfront

theorem isDigit_of_mem_toDigits {n : Nat} {c : Char} (h : c ∈ Nat.toDigits 10 n) :
    c.isDigit = true :=
  Nat.isDigit_of_mem_toDigits (by decide) (by decide) h

theorem readDigits_toDigits (n : Nat) {rest : List Char} (hrest : EndsNumber rest) :
    readDigits (Nat.toDigits 10 n ++ rest) = some (n, rest) := by
  have hall : ∀ c ∈ Nat.toDigits 10 n, c.isDigit = true := fun c hc => isDigit_of_mem_toDigits hc
  have htake : rest.takeWhile Char.isDigit = [] := by
    cases rest with
    | nil => rfl
    | cons c r => rw [List.takeWhile_cons_of_neg (by simp [hrest c rfl])]
  have hdrop : rest.dropWhile Char.isDigit = rest := by
    cases rest with
    | nil => rfl
    | cons c r => rw [List.dropWhile_cons_of_neg (by simp [hrest c rfl])]
  rw [readDigits, List.takeWhile_append_of_pos hall, List.dropWhile_append_of_pos hall, htake,
    hdrop, List.append_nil]
  split
  · rename_i hnil
    exact absurd hnil Nat.toDigits_ne_nil
  · rename_i d r hzero
    -- two digits and more make up a number that is not zero
    have hpos : 0 < n := by
      rcases Nat.eq_zero_or_pos n with rfl | hpos
      · exact absurd hzero (by simp)
      · exact hpos
    exact absurd (by rw [hzero]; rfl) (head?_toDigits hpos)
  · rw [Nat.ofDigitChars_ten_toDigits]

/-- A written number is read back, if no digit comes after it. -/
theorem readNumber_toString (n : Int) {rest : List Char} (hrest : EndsNumber rest) :
    readNumber ((toString n).toList ++ rest) = some (n, rest) := by
  rw [Int.toString_eq_repr, Int.repr_eq_if]
  split
  · rename_i hle
    rw [Nat.toList_repr]
    obtain ⟨c, r, hcr⟩ := List.exists_cons_of_ne_nil (Nat.toDigits_ne_nil (n := n.toNat) (b := 10))
    have hdigit : c.isDigit = true := isDigit_of_mem_toDigits (hcr ▸ List.mem_cons_self)
    have hsign : c ≠ '-' := by
      rintro rfl
      exact absurd hdigit (by decide)
    have hread := readDigits_toDigits n.toNat hrest
    rw [hcr, List.cons_append] at hread
    rw [hcr, List.cons_append, readNumber, if_neg hsign, hread, Option.map_some]
    congr 2
    omega
  · rename_i hlt
    rw [String.toList_append, Nat.toList_repr]
    change (readDigits (Nat.toDigits 10 (-n).toNat ++ rest)).map _ = _
    rw [readDigits_toDigits _ hrest, Option.map_some]
    congr 2
    omega

/-! ### Reading containers -/

section Sequences

variable {α : Type}

/-- What stands one after the other, with commas in between, up to the closing bracket. -/
def readSequence (one : List Char → Option (α × List Char)) (closing : Char) :
    Nat → List Char → Option (List α × List Char)
  | 0, _ => none
  | fuel + 1, cs =>
    (one (skipGap cs)).bind fun (a, r) =>
      match skipGap r with
      | [] => none
      | c :: r =>
        if c = closing then some ([a], r)
        else if c = ',' then
          (readSequence one closing fuel r).map fun t => (a :: t.1, t.2)
        else none

/-- What stands between brackets, from behind the opening one; there may be nothing. -/
def readEnclosed (one : List Char → Option (α × List Char)) (closing : Char) (fuel : Nat)
    (cs : List Char) : Option (List α × List Char) :=
  match skipGap cs with
  | [] => none
  | c :: r => if c = closing then some ([], r) else readSequence one closing fuel (c :: r)

/-- A written part begins with a character that is neither white space nor the closing bracket of
what it stands in. -/
def BeginsPart (closing : Char) (cs : List Char) : Prop :=
  ∃ c r, cs = c :: r ∧ isGap c = false ∧ c ≠ closing

/-- A written part is read back, if no digit comes after it. -/
structure ReadsPart (one : List Char → Option (α × List Char)) (closing : Char)
    (form : α → List Char) (a : α) : Prop where
  begins : BeginsPart closing (form a)
  read : ∀ rest, EndsNumber rest → one (form a ++ rest) = some (a, rest)

variable {one : List Char → Option (α × List Char)} {closing : Char} {form : α → List Char}

theorem skipGap_of_begins {cs : List Char} (h : BeginsPart closing cs) (rest : List Char) :
    skipGap (cs ++ rest) = cs ++ rest := by
  obtain ⟨c, r, rfl, hgap, -⟩ := h
  exact skipGap_cons hgap (r ++ rest)

/-- Written parts between brackets are read back one after the other. -/
theorem readSequence_intercalate (hgap : isGap closing = false) (hdigit : closing.isDigit = false)
    (hcomma : ',' ≠ closing) {a : α} {as : List α}
    (hread : ∀ b ∈ a :: as, ReadsPart one closing form b) {fuel : Nat} (hfuel : as.length < fuel)
    (rest : List Char) :
    readSequence one closing fuel
      ([',', ' '].intercalate ((a :: as).map form) ++ closing :: rest) = some (a :: as, rest) := by
  induction as generalizing a fuel with
  | nil =>
    obtain ⟨fuel, rfl⟩ := Nat.exists_eq_add_of_lt hfuel
    obtain ⟨hbegins, hone⟩ := hread a List.mem_cons_self
    have hform : [',', ' '].intercalate ([a].map form) ++ closing :: rest =
        form a ++ closing :: rest := by
      simp [List.intercalate]
    rw [hform, readSequence, skipGap_of_begins hbegins,
      hone _ (endsNumber_cons hdigit rest), Option.bind_some]
    dsimp only
    rw [skipGap_cons hgap]
    dsimp only
    rw [if_pos rfl]
  | cons b bs ih =>
    obtain ⟨fuel, rfl⟩ : ∃ n, fuel = n + 1 := ⟨fuel - 1, by omega⟩
    obtain ⟨hbegins, hone⟩ := hread a List.mem_cons_self
    have hform : [',', ' '].intercalate ((a :: b :: bs).map form) ++ closing :: rest = form a ++
        ',' :: ' ' :: ([',', ' '].intercalate ((b :: bs).map form) ++ closing :: rest) := by
      rw [List.map_cons, List.map_cons, List.intercalate_cons_cons, ← List.map_cons]
      simp only [List.append_assoc, List.cons_append, List.nil_append]
    have hrest := ih (fun c hc => hread c (List.mem_cons_of_mem a hc))
      (Nat.lt_of_succ_lt_succ hfuel)
    -- the space after the comma is passed over
    have hspace : readSequence one closing fuel
        (' ' :: ([',', ' '].intercalate ((b :: bs).map form) ++ closing :: rest)) =
        some (b :: bs, rest) := by
      rw [← hrest]
      cases fuel <;> rfl
    rw [hform, readSequence, skipGap_of_begins hbegins, hone _ (endsNumber_cons (by decide) _),
      Option.bind_some]
    dsimp only
    rw [skipGap_cons (by decide)]
    dsimp only
    rw [if_neg hcomma, if_pos rfl, hspace]
    rfl

/-- Written parts between brackets are read back, also if there are none. -/
theorem readEnclosed_intercalate (hgap : isGap closing = false) (hdigit : closing.isDigit = false)
    (hcomma : ',' ≠ closing) {as : List α} (hread : ∀ a ∈ as, ReadsPart one closing form a)
    {fuel : Nat} (hfuel : as.length ≤ fuel) (rest : List Char) :
    readEnclosed one closing fuel ([',', ' '].intercalate (as.map form) ++ closing :: rest) =
      some (as, rest) := by
  cases as with
  | nil =>
    change readEnclosed one closing fuel (closing :: rest) = _
    rw [readEnclosed, skipGap_cons hgap]
    dsimp only
    rw [if_pos rfl]
  | cons a as =>
    have hsequence := readSequence_intercalate hgap hdigit hcomma hread
      (Nat.lt_of_succ_le hfuel) rest
    obtain ⟨c, r, hform, hc, hne⟩ := (hread a List.mem_cons_self).begins
    obtain ⟨t, ht⟩ : ∃ t, [',', ' '].intercalate ((a :: as).map form) ++ closing :: rest =
        c :: t := by
      cases as <;> simp [List.intercalate, hform]
    rw [ht] at hsequence ⊢
    rw [readEnclosed, skipGap_cons hc]
    dsimp only
    rw [if_neg hne, hsequence]

end Sequences

/-! ### Reading values -/

/-- A member of an object: a text, a colon and what `one` reads. -/
def readMember {α : Type} (one : List Char → Option (α × List Char)) :
    List Char → Option ((String × α) × List Char)
  | '"' :: r =>
    (readText r).bind fun (key, r) =>
      match skipGap r with
      | ':' :: r => (one (skipGap r)).map fun t => ((String.ofList key, t.1), t.2)
      | _ => none
  | _ => none

/-- The value that a text starts with; `fuel` bounds how deep its containers are and how much they
hold. -/
def readValue : Nat → List Char → Option (Json × List Char)
  | 0, _ => none
  | fuel + 1, cs =>
    match cs with
    | '"' :: r => (readText r).map fun t => (.text (String.ofList t.1), t.2)
    | '[' :: r => (readEnclosed (readValue fuel) ']' fuel r).map fun t => (.list t.1, t.2)
    | '\x7b' :: r =>
      (readEnclosed (readMember (readValue fuel)) '\x7d' fuel r).map fun t => (.object t.1, t.2)
    | 'n' :: 'u' :: 'l' :: 'l' :: r => some (.null, r)
    | 't' :: 'r' :: 'u' :: 'e' :: r => some (.bool true, r)
    | 'f' :: 'a' :: 'l' :: 's' :: 'e' :: r => some (.bool false, r)
    | cs => (readNumber cs).map fun t => (.int t.1, t.2)

/-- The value whose form a text is, with white space around it. -/
def read? (s : String) : Option Json :=
  match readValue (s.toList.length + 1) (skipGap s.toList) with
  | some (j, rest) => if skipGap rest = [] then some j else none
  | none => none

/-! ### What is written is read back -/

/-- Induction on values, through lists and objects. -/
@[elab_as_elim]
theorem induct {motive : Json → Prop} (null : motive .null) (bool : ∀ b, motive (.bool b))
    (int : ∀ n, motive (.int n)) (text : ∀ s, motive (.text s))
    (list : ∀ items, (∀ j ∈ items, motive j) → motive (.list items))
    (object : ∀ members, (∀ m ∈ members, motive m.2) → motive (.object members)) :
    ∀ j, motive j
  | .null => null
  | .bool b => bool b
  | .int n => int n
  | .text s => text s
  | .list items => list items fun j _ => induct null bool int text list object j
  | .object members => object members fun m _ => induct null bool int text list object m.2
termination_by j => sizeOf j
decreasing_by
  · have hsize := List.sizeOf_lt_of_mem ‹j ∈ items›
    simp only [Json.list.sizeOf_spec]
    omega
  · have hsize := List.sizeOf_lt_of_mem ‹m ∈ members›
    obtain ⟨k, j⟩ := m
    simp only [Json.object.sizeOf_spec, Prod.mk.sizeOf_spec] at hsize ⊢
    omega

/-- The form of a member of an object. -/
def memberChars (m : String × Json) : List Char :=
  quotedChars m.1.toList ++ ':' :: ' ' :: chars m.2

theorem charsItems_eq_map (items : List Json) : charsItems items = items.map chars := by
  induction items with
  | nil => rfl
  | cons j r ih => rw [charsItems, ih, List.map_cons]

theorem charsMembers_eq_map (members : List (String × Json)) :
    charsMembers members = members.map memberChars := by
  induction members with
  | nil => rfl
  | cons m r ih => rw [charsMembers, ih, List.map_cons, memberChars]

theorem chars_list (items : List Json) :
    chars (.list items) = '[' :: ([',', ' '].intercalate (items.map chars) ++ [']']) := by
  rw [chars, charsItems_eq_map, bracketed]

theorem chars_object (members : List (String × Json)) :
    chars (.object members) =
      '\x7b' :: ([',', ' '].intercalate (members.map memberChars) ++ ['\x7d']) := by
  rw [chars, charsMembers_eq_map, bracketed]

theorem begins_toString (n : Int) :
    ∃ c r, (toString n).toList = c :: r ∧ (c = '-' ∨ c.isDigit = true) := by
  obtain ⟨c, r, hcr⟩ := List.exists_cons_of_ne_nil (l := (toString n).toList) (by
    intro h
    have hread := readNumber_toString n endsNumber_nil
    rw [h] at hread
    exact nomatch hread)
  exact ⟨c, r, hcr, Number.mem_toString (hcr ▸ List.mem_cons_self)⟩

/-- A written value begins with a character that is neither white space nor a closing bracket. -/
theorem begins_chars (j : Json) : BeginsPart ']' (chars j) := by
  cases j with
  | null => exact ⟨'n', _, rfl, by decide, by decide⟩
  | bool b =>
    cases b with
    | false => exact ⟨'f', _, rfl, by decide, by decide⟩
    | true => exact ⟨'t', _, rfl, by decide, by decide⟩
  | int n =>
    obtain ⟨c, r, hcr, hc⟩ := begins_toString n
    refine ⟨c, r, hcr, ?_, ?_⟩
    · rw [isGap]
      rcases hc with rfl | hdigit
      · decide
      · simp only [Bool.or_eq_false_iff, decide_eq_false_iff_not]
        refine ⟨⟨⟨?_, ?_⟩, ?_⟩, ?_⟩ <;> (rintro rfl; exact absurd hdigit (by decide))
    · rintro rfl
      rcases hc with h | h <;> exact absurd h (by decide)
  | text s => exact ⟨'"', _, rfl, by decide, by decide⟩
  | list items => exact ⟨'[', _, chars_list items, by decide, by decide⟩
  | object members => exact ⟨'\x7b', _, chars_object members, by decide, by decide⟩

theorem length_intercalate_cons (p : List Char) (ps : List (List Char)) :
    p.length + ([',', ' '].intercalate ps).length ≤ ([',', ' '].intercalate (p :: ps)).length := by
  cases ps with
  | nil => simp [List.intercalate]
  | cons q qs =>
    rw [List.intercalate_cons_cons]
    simp only [List.length_append]
    omega

theorem length_le_intercalate {p : List Char} {parts : List (List Char)} (h : p ∈ parts) :
    p.length ≤ ([',', ' '].intercalate parts).length := by
  induction parts with
  | nil => exact absurd h List.not_mem_nil
  | cons q qs ih =>
    have hcons := length_intercalate_cons q qs
    rcases List.mem_cons.1 h with rfl | hmem
    · omega
    · exact Nat.le_trans (ih hmem) (by omega)

/-- Between any two parts there is a comma. -/
theorem length_le_length_intercalate (parts : List (List Char)) :
    parts.length ≤ ([',', ' '].intercalate parts).length + 1 := by
  induction parts with
  | nil => exact Nat.zero_le _
  | cons p ps ih =>
    cases ps with
    | nil => exact Nat.le_add_left _ _
    | cons q qs =>
      rw [List.intercalate_cons_cons, List.length_cons]
      simp only [List.length_append, List.length_cons, List.length_nil] at ih ⊢
      omega

/-- A written member is read back where the value in it is. -/
theorem readsPart_member {one : List Char → Option (Json × List Char)} {m : String × Json}
    (h : ∀ rest, EndsNumber rest → one (chars m.2 ++ rest) = some (m.2, rest)) :
    ReadsPart (readMember one) '\x7d' memberChars m := by
  refine ⟨⟨'"', _, rfl, by decide, by decide⟩, fun rest hrest => ?_⟩
  have hform : memberChars m ++ rest =
      '"' :: (m.1.toList.flatMap escapeChar ++ '"' :: ':' :: ' ' :: (chars m.2 ++ rest)) := by
    simp [memberChars, quotedChars]
  have hgap : skipGap (' ' :: (chars m.2 ++ rest)) = chars m.2 ++ rest := by
    change skipGap (chars m.2 ++ rest) = _
    exact skipGap_of_begins (begins_chars m.2) rest
  rw [hform, readMember, readText_quoted, Option.bind_some]
  change (one (skipGap (' ' :: (chars m.2 ++ rest)))).map _ = _
  rw [hgap, h rest hrest, Option.map_some, String.ofList_toList]

/-- A written number begins with no character that any other value begins with. -/
theorem readValue_int (n : Int) (fuel : Nat) {rest : List Char} (hrest : EndsNumber rest) :
    readValue (fuel + 1) (chars (.int n) ++ rest) = some (.int n, rest) := by
  obtain ⟨c, r, hcr, hc⟩ := begins_toString n
  have hother : ∀ d : Char, d ≠ '-' → d.isDigit = false → c ≠ d := by
    rintro d hd hdigit rfl
    rcases hc with h | h
    · exact hd h
    · exact absurd (h.symm.trans hdigit) (by decide)
  have hread := readNumber_toString n hrest
  rw [hcr, List.cons_append] at hread
  rw [chars, hcr, List.cons_append, readValue, hread]
  · rfl
  all_goals
    intro t ht
    exact hother _ (by decide) (by decide) (List.cons.inj ht).1

/-- A written value is read back, if no digit comes after it. -/
theorem readValue_chars (j : Json) : ∀ {fuel : Nat}, (chars j).length ≤ fuel →
    ∀ rest, EndsNumber rest → readValue fuel (chars j ++ rest) = some (j, rest) := by
  induction j using induct with
  | null =>
    intro fuel hfuel rest _
    obtain ⟨fuel, rfl⟩ : ∃ n, fuel = n + 1 := ⟨fuel - 1, by have : 4 ≤ fuel := hfuel; omega⟩
    rfl
  | bool b =>
    intro fuel hfuel rest _
    obtain ⟨fuel, rfl⟩ : ∃ n, fuel = n + 1 := ⟨fuel - 1, by
      have : 4 ≤ fuel := by cases b <;> exact Nat.le_trans (by decide) hfuel
      omega⟩
    cases b <;> rfl
  | int n =>
    intro fuel hfuel rest hrest
    obtain ⟨c, r, hcr, -⟩ := begins_chars (.int n)
    rw [hcr, List.length_cons] at hfuel
    obtain ⟨fuel, rfl⟩ := Nat.exists_eq_add_of_lt (Nat.lt_of_succ_le hfuel)
    exact readValue_int n _ hrest
  | text s =>
    intro fuel hfuel rest _
    obtain ⟨fuel, rfl⟩ := Nat.exists_eq_add_of_lt (Nat.lt_of_succ_le hfuel)
    have hform : chars (.text s) ++ rest = '"' :: (s.toList.flatMap escapeChar ++ '"' :: rest) := by
      simp [chars, quotedChars]
    rw [hform, readValue, readText_quoted, Option.map_some, String.ofList_toList]
  | list items ih =>
    intro fuel hfuel rest _
    rw [chars_list, List.length_cons, List.length_append, List.length_singleton] at hfuel
    obtain ⟨fuel, rfl⟩ : ∃ n, fuel = n + 1 := ⟨fuel - 1, by omega⟩
    have hread : ∀ j ∈ items, ReadsPart (readValue fuel) ']' chars j := fun j hj =>
      ⟨begins_chars j, ih j hj (by
        have hle := length_le_intercalate (List.mem_map_of_mem (f := chars) hj)
        omega)⟩
    have hcount := length_le_length_intercalate (items.map chars)
    rw [List.length_map] at hcount
    have hitems := readEnclosed_intercalate (by decide) (by decide) (by decide) hread
      (show items.length ≤ fuel by omega) rest
    rw [chars_list, List.cons_append, List.append_assoc, List.singleton_append, readValue, hitems]
    rfl
  | object members ih =>
    intro fuel hfuel rest _
    rw [chars_object, List.length_cons, List.length_append, List.length_singleton] at hfuel
    obtain ⟨fuel, rfl⟩ : ∃ n, fuel = n + 1 := ⟨fuel - 1, by omega⟩
    have hread : ∀ m ∈ members, ReadsPart (readMember (readValue fuel)) '\x7d' memberChars m :=
      fun m hm => readsPart_member (ih m hm (by
        have hle := length_le_intercalate (List.mem_map_of_mem (f := memberChars) hm)
        simp only [memberChars, List.length_append, List.length_cons] at hle
        omega))
    have hcount := length_le_length_intercalate (members.map memberChars)
    rw [List.length_map] at hcount
    have hmembers := readEnclosed_intercalate (by decide) (by decide) (by decide) hread
      (show members.length ≤ fuel by omega) rest
    rw [chars_object, List.cons_append, List.append_assoc, List.singleton_append, readValue,
      hmembers]
    rfl

/-- What is written on one line is read back. -/
theorem read?_line (j : Json) : read? j.line = some j := by
  have hread := readValue_chars j (Nat.le_succ _) [] endsNumber_nil
  have hgap := skipGap_of_begins (begins_chars j) []
  rw [List.append_nil] at hread hgap
  rw [read?, line, String.toList_ofList, hgap, hread]
  rfl

/-! ### A written line is one line -/

theorem printable_of_all {cs : List Char} (h : (cs.all fun d => 32 ≤ d.toNat) = true) {d : Char}
    (hd : d ∈ cs) : 32 ≤ d.toNat :=
  of_decide_eq_true (List.all_eq_true.1 h d hd)

/-- What stands for a character in a written text is no control character. -/
theorem printable_escapeChar {c d : Char} (h : d ∈ escapeChar c) : 32 ≤ d.toNat := by
  have hunit : ∀ n : Fin 32,
      (('\\' :: 'u' :: Text.hexPadded 4 n).all fun d => 32 ≤ d.toNat) = true := by
    decide
  rw [escapeChar] at h
  iterate 7
    split at h
    · exact printable_of_all (by decide) h
  split at h
  · rename_i hc
    exact printable_of_all (hunit ⟨c.toNat, hc⟩) h
  · obtain rfl := List.mem_singleton.1 h
    omega

theorem printable_quotedChars {cs : List Char} {d : Char} (h : d ∈ quotedChars cs) :
    32 ≤ d.toNat := by
  rw [quotedChars, List.mem_cons, List.mem_append, List.mem_singleton] at h
  rcases h with rfl | h | rfl
  · decide
  · obtain ⟨c, -, hd⟩ := List.mem_flatMap.1 h
    exact printable_escapeChar hd
  · decide

theorem printable_intercalate {parts : List (List Char)}
    (h : ∀ p ∈ parts, ∀ d ∈ p, 32 ≤ d.toNat) {d : Char}
    (hd : d ∈ [',', ' '].intercalate parts) : 32 ≤ d.toNat := by
  induction parts with
  | nil => exact absurd hd (by simp [List.intercalate])
  | cons p ps ih =>
    cases ps with
    | nil =>
      rw [List.intercalate_singleton] at hd
      exact h p List.mem_cons_self d hd
    | cons q qs =>
      rw [List.intercalate_cons_cons, List.append_assoc, List.mem_append, List.mem_append] at hd
      rcases hd with hd | hd | hd
      · exact h p List.mem_cons_self d hd
      · exact printable_of_all (by decide) hd
      · exact ih (fun p hp => h p (List.mem_cons_of_mem _ hp)) hd

/-- A written value holds no control character. -/
theorem printable_chars (j : Json) : ∀ {d : Char}, d ∈ chars j → 32 ≤ d.toNat := by
  induction j using induct with
  | null => exact fun {d} hd => printable_of_all (by decide) hd
  | bool b =>
    intro d hd
    cases b <;> exact printable_of_all (by decide) hd
  | int n =>
    intro d hd
    rcases Number.mem_toString hd with rfl | hdigit
    · decide
    · have hge : '0'.toNat ≤ d.toNat := by
        simp only [Char.isDigit, Bool.and_eq_true, decide_eq_true_eq] at hdigit
        exact hdigit.1
      exact Nat.le_trans (by decide) hge
  | text s => exact fun {d} hd => printable_quotedChars hd
  | list items ih =>
    intro d hd
    rw [chars_list, List.mem_cons, List.mem_append, List.mem_singleton] at hd
    rcases hd with rfl | hd | rfl
    · decide
    · refine printable_intercalate (fun p hp d hd => ?_) hd
      obtain ⟨j, hj, rfl⟩ := List.mem_map.1 hp
      exact ih j hj hd
    · decide
  | object members ih =>
    intro d hd
    rw [chars_object, List.mem_cons, List.mem_append, List.mem_singleton] at hd
    rcases hd with rfl | hd | rfl
    · decide
    · refine printable_intercalate (fun p hp d hd => ?_) hd
      obtain ⟨m, hm, rfl⟩ := List.mem_map.1 hp
      rw [memberChars, List.mem_append, List.mem_cons, List.mem_cons] at hd
      rcases hd with hd | rfl | rfl | hd
      · exact printable_quotedChars hd
      · decide
      · decide
      · exact ih m hm hd
    · decide

/-- A written line holds no control character. -/
theorem unbroken_line (j : Json) : ∀ c ∈ j.line.toList, 32 ≤ c.toNat := by
  intro c hc
  rw [line, String.toList_ofList] at hc
  exact printable_chars j hc

end ElementLookup.Json
