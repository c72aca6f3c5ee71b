/-
**A lookup for literal text is one part of a chain.**

The engine takes a selector for a chain: it splits it wherever two angle brackets stand beside each
other, unless they stand in a quoted section, and a backslash makes it pass over the next character.
A text may hold angle brackets, quotes and backslashes in any order, so it has to be shown that the
engine never finds a second part.  There are three reasons for it.  Inexact text is left as it is
only if it holds no separator; if it holds one, every angle bracket of it is escaped; and text
between quotes stays in its section up to the closing quote, as long as it holds no backslash.

Main definitions:

* `Selector.splitFrom`, `Selector.chainParts` — the engine's splitter, and the parts of a selector;
* `Selector.Calm` — what the splitter passes over wherever it stands outside a section;
* `Selector.Joins` — the pieces that one part may be put together from;
* `Lookup.IsLiteral` — lookups for literal text, and what is asked of their texts and names.

Main results:

* `Selector.splitFrom_of_not_infix` — without a separator nothing is split;
* `Selector.Calm.joins`, `Selector.joins_quoted`, `Selector.Joins.append` — how one part is put
  together;
* `Selector.not_infix_textBody` — inexact text is written without a separator;
* `Lookup.chainParts_compile` — a lookup for literal text is compiled to one part.
-/

import ElementLookup.Proofs.Selector.RoleReading
import ElementLookup.Proofs.Selector.WrittenForm

set_option autoImplicit false

namespace ElementLookup

namespace Selector

/-! ### The splitter -/

/-- The quotes that open a section of a selector; the same one closes it. -/
def sectionMarks : List Char := ['"', '\x27', '\x60']

/-- The section that is open after one more character. -/
def sectionAfter (open? : Option Char) (c : Char) : Option Char :=
  match open? with
  | some mark => if c = mark then none else some mark
  | none => if c ∈ sectionMarks then some c else none

/-- Puts characters in front of the first part. -/
def ontoFirst (front : List Char) : List (List Char) → List (List Char)
  | [] => [front]
  | part :: parts => (front ++ part) :: parts

/-- Splits a selector from left to right into the parts of a chain, within the section that is
open. -/
def splitFrom : Option Char → List Char → List (List Char)
  | _, [] => [[]]
  | open?, '\\' :: c :: rest => ontoFirst ['\\', c] (splitFrom open? rest)
  | none, '>' :: '>' :: rest => [] :: splitFrom none rest
  | open?, c :: rest => ontoFirst [c] (splitFrom (sectionAfter open? c) rest)

/-- The parts of a selector. -/
def chainParts (selector : String) : List String :=
  (splitFrom none selector.toList).map String.ofList

example : chainParts "text=a >> text=\"b >> c\" >> role=d" =
    ["text=a ", " text=\"b >> c\" ", " role=d"] := by decide +kernel

theorem splitFrom_escaped (open? : Option Char) (c : Char) (rest : List Char) :
    splitFrom open? ('\\' :: c :: rest) = ontoFirst ['\\', c] (splitFrom open? rest) := by
  rw [splitFrom]

theorem splitFrom_cons {open? : Option Char} {c : Char} {rest : List Char} (hc : c ≠ '\\')
    (hsep : open? = none → c = '>' → rest.head? ≠ some '>') :
    splitFrom open? (c :: rest) = ontoFirst [c] (splitFrom (sectionAfter open? c) rest) := by
  rw [splitFrom]
  · intro d r h
    exact absurd h hc
  · rintro r rfl rfl rfl
    exact hsep rfl rfl rfl

/-- Without two angle brackets beside each other, nothing is split. -/
theorem splitFrom_of_not_infix {cs : List Char} (h : ¬ ['>', '>'] <:+: cs) (open? : Option Char) :
    splitFrom open? cs = [cs] := by
  fun_induction splitFrom open? cs with
  | case1 => rfl
  | case2 open? c rest ih =>
      rw [ih fun hrest => h (hrest.trans (List.suffix_append ['\\', c] rest).isInfix)]
      rfl
  | case3 rest => exact absurd (List.prefix_append ['>', '>'] rest).isInfix h
  | case4 open? c rest _ _ ih =>
      rw [ih fun hrest => h (hrest.trans (List.suffix_cons c rest).isInfix)]
      rfl

/-! ### Pieces of one part -/

/-- Characters that the splitter passes over: no quotes, no backslash, no separator. -/
structure Calm (cs : List Char) : Prop where
  unmarked : ∀ c ∈ cs, c ∉ sectionMarks
  unescaped : '\\' ∉ cs
  unseparated : ¬ ['>', '>'] <:+: cs

/-- A piece that makes one part with whatever makes one part and does not go on with an angle
bracket. -/
def Joins (piece : List Char) : Prop :=
  ∀ rest, rest.head? ≠ some '>' → splitFrom none rest = [rest] →
    splitFrom none (piece ++ rest) = [piece ++ rest]

theorem Joins.splitFrom_eq {piece : List Char} (h : Joins piece) :
    splitFrom none piece = [piece] := by
  simpa using h [] (by simp) rfl

theorem Joins.append {a b : List Char} (ha : Joins a) (hb : Joins b) (hhead : b.head? ≠ some '>') :
    Joins (a ++ b) := by
  intro rest hrest hone
  have hgoes : (b ++ rest).head? ≠ some '>' := by
    cases b with
    | nil => exact hrest
    | cons c r => exact hhead
  rw [List.append_assoc]
  exact ha (b ++ rest) hgoes (hb rest hrest hone)

theorem Calm.tail {c : Char} {cs : List Char} (h : Calm (c :: cs)) : Calm cs where
  unmarked d hd := h.unmarked d (List.mem_cons_of_mem c hd)
  unescaped hb := h.unescaped (List.mem_cons_of_mem c hb)
  unseparated hsep := h.unseparated (hsep.trans (List.suffix_cons c cs).isInfix)

theorem Calm.joins {piece : List Char} (h : Calm piece) : Joins piece := by
  intro rest hrest hone
  induction piece with
  | nil => exact hone
  | cons c r ih =>
      have hb : c ≠ '\\' := fun e => h.unescaped (by simp [e])
      -- the piece itself holds no separator, and none arises where it ends
      have hsep : c = '>' → (r ++ rest).head? ≠ some '>' := by
        rintro rfl
        cases r with
        | nil => exact hrest
        | cons d s =>
            intro hd
            obtain rfl : d = '>' := by simpa using hd
            exact h.unseparated (List.prefix_append ['>', '>'] s).isInfix
      have hmark : sectionAfter none c = none := if_neg (h.unmarked c (by simp))
      rw [List.cons_append, splitFrom_cons hb fun _ => hsep, hmark, ih h.tail]
      rfl

/-- Between double quotes, text without a backslash stays in its section. -/
theorem splitFrom_quoteChars {text rest : List Char} (h : '\\' ∉ text)
    (hone : splitFrom none rest = [rest]) :
    splitFrom (some '"') (quoteChars text ++ '"' :: rest) =
      [quoteChars text ++ '"' :: rest] := by
  induction text with
  | nil =>
      rw [quoteChars_nil, List.nil_append, splitFrom_cons (by decide) (by simp), sectionAfter,
        if_pos rfl, hone]
      rfl
  | cons c r ih =>
      rw [List.mem_cons, not_or] at h
      rw [quoteChars_cons, quoteChar]
      split
      · rw [List.append_assoc, List.cons_append, List.cons_append, List.nil_append,
          splitFrom_escaped, ih h.2]
        rfl
      · rename_i hq
        rw [List.append_assoc, List.cons_append, List.nil_append,
          splitFrom_cons (Ne.symm h.1) (by simp), sectionAfter, if_neg hq, ih h.2]
        rfl

theorem joins_quoted {text : List Char} (h : '\\' ∉ text) :
    Joins ('"' :: (quoteChars text ++ ['"'])) := by
  intro rest _ hone
  rw [List.cons_append, List.append_assoc, List.singleton_append,
    splitFrom_cons (by decide) (by simp), sectionAfter, if_pos (by decide),
    splitFrom_quoteChars h hone]
  rfl

/-- A character in front makes no separator, unless it and the next one are angle brackets. -/
theorem not_infix_cons {c : Char} {rest : List Char} (hc : c = '>' → rest.head? ≠ some '>')
    (hrest : ¬ ['>', '>'] <:+: rest) : ¬ ['>', '>'] <:+: c :: rest := by
  rw [List.infix_cons_iff, not_or]
  refine ⟨?_, hrest⟩
  rintro ⟨tail, htail⟩
  obtain ⟨rfl, rfl⟩ := List.cons.inj htail
  exact hc rfl rfl

/-- Characters without an angle bracket make no separator with what follows them. -/
theorem not_infix_append {a b : List Char} (ha : '>' ∉ a) (hb : ¬ ['>', '>'] <:+: b) :
    ¬ ['>', '>'] <:+: a ++ b := by
  induction a with
  | nil => exact hb
  | cons c r ih =>
      rw [List.mem_cons, not_or] at ha
      exact not_infix_cons (fun hc => absurd hc.symm ha.1) (ih ha.2)

theorem Calm.append {a b : List Char} (ha : Calm a) (hangle : '>' ∉ a) (hb : Calm b) :
    Calm (a ++ b) where
  unmarked c hc := (List.mem_append.1 hc).elim (ha.unmarked c) (hb.unmarked c)
  unescaped hc := (List.mem_append.1 hc).elim ha.unescaped hb.unescaped
  unseparated := not_infix_append hangle hb.unseparated

-- by `all`, so that characters are looked for in the list, and never run through one by one
instance (cs : List Char) : Decidable (Calm cs) :=
  decidable_of_iff (cs.all (· ∉ sectionMarks) = true ∧ '\\' ∉ cs ∧ hasSeparator cs = false)
    ⟨fun h => ⟨by simpa using h.1, h.2.1, by simp [← hasSeparator_iff, h.2.2]⟩,
      fun h => ⟨by simpa using h.unmarked, h.unescaped,
        by simpa [← hasSeparator_iff] using h.unseparated⟩⟩

/-! ### Text values -/

theorem joins_attributeText {text : String} (h : '\\' ∉ text.toList) (exact : Bool) :
    Joins (attributeText text exact).toList := by
  have hchars : (attributeText text exact).toList =
      '"' :: (quoteChars text.toList ++ ['"']) ++ if exact then [] else ['i'] := by
    cases exact <;> simp [toList_attributeText]
  have hmark : Calm (if exact then [] else ['i']) := by cases exact <;> decide
  rw [hchars]
  exact (joins_quoted h).append hmark.joins (by cases exact <;> decide)

theorem toList_byAttribute (name text : String) (exact : Bool) :
    (byAttribute name (.literal text) exact).toList =
      ("internal:attr=[".toList ++ name.toList) ++
        ("=".toList ++ ((attributeText text exact).toList ++ "]".toList)) := by
  have h : byAttribute name (.literal text) exact =
      "internal:attr=[" ++ name ++ "=" ++ attributeText text exact ++ "]" := rfl
  simp only [h, String.toList_append, List.append_assoc]

theorem joins_byAttribute {name text : String} (hname : Calm name.toList)
    (htext : '\\' ∉ text.toList) (exact : Bool) :
    Joins (byAttribute name (.literal text) exact).toList := by
  have hfront : Calm ("internal:attr=[".toList ++ name.toList) :=
    Calm.append (by decide) (by decide) hname
  have hequals : Calm "=".toList := by decide
  have hbracket : Calm "]".toList := by decide
  have hvalue := (joins_attributeText htext exact).append hbracket.joins (by decide)
  have hquote : ((attributeText text exact).toList ++ "]".toList).head? ≠ some '>' := by
    simp [toList_attributeText]
  rw [toList_byAttribute]
  exact hfront.joins.append (hequals.joins.append hvalue hquote) (by simp)

/-- In the source of a pattern every angle bracket has a backslash in front of it. -/
theorem not_infix_write (tokens : List PatternToken) {rest : List Char}
    (hrest : ¬ ['>', '>'] <:+: rest) (hhead : rest.head? ≠ some '>') :
    ¬ ['>', '>'] <:+: PatternToken.write tokens ++ rest ∧
      (PatternToken.write tokens ++ rest).head? ≠ some '>' := by
  induction tokens with
  | nil => exact ⟨hrest, hhead⟩
  | cons t ts ih =>
      rw [PatternToken.write_cons, List.append_assoc]
      cases t with
      | escaped c _ =>
          refine ⟨not_infix_cons (fun h => absurd h (by decide)) ?_, by simp [PatternToken.text]⟩
          exact not_infix_cons (fun _ => ih.2) ih.1
      | spaces => exact ⟨not_infix_append (by decide) ih.1, by simp [PatternToken.text, anySpaces]⟩
      | plain c hc _ =>
          have hangle : c ≠ '>' := by rintro rfl; cases hc
          exact ⟨not_infix_cons (fun h => absurd h hangle) ih.1, by simp [PatternToken.text, hangle]⟩

/-- Inexact text is written without a separator, whatever it holds. -/
theorem not_infix_textBody (text : String) :
    ¬ ['>', '>'] <:+: (textBody (.literal text) false).toList := by
  cases h : needsPattern text.toList with
  | false =>
      have hno := mt (needsPattern_iff text.toList).2 (by simp [h])
      rw [not_or, not_or] at hno
      simpa [textBody, h] using hno.2.1
  | true =>
      have hchars : (textBody (.literal text) false).toList =
          '/' :: (PatternToken.write (textTokens text.toList) ++ ['/', 'i']) := by
        simp [textBody_of_needsPattern h]
      rw [hchars]
      refine not_infix_cons (fun h => absurd h (by decide)) ?_
      exact (not_infix_write _ (by decide) (by decide)).1

end Selector

/-! ### Lookups for a text -/

namespace TextKind

open Selector

/-- Whether a lookup writes its text between quotes. -/
def quotes (kind : TextKind) (exact : Bool) : Bool :=
  match kind with
  | .label | .text => exact
  | _ => true

/-- Inexact text in a label or in the element's own text is looked for without a separator. -/
theorem not_infix_selector {kind : TextKind} {exact : Bool} (h : kind.quotes exact = false)
    (idAttribute text : String) :
    ¬ ['>', '>'] <:+: (kind.selector idAttribute (.literal text) exact).toList := by
  cases kind with
  | label | text =>
      obtain rfl : exact = false := h
      simp only [TextKind.selector, String.toList_append]
      exact not_infix_append (by decide) (not_infix_textBody text)
  | _ => cases h

/-- Quoted text without a backslash makes one part, together with the attribute that holds it. -/
theorem joins_selector {kind : TextKind} {idAttribute text : String} {exact : Bool}
    (hquotes : kind.quotes exact = true) (hname : kind = .testId → Calm idAttribute.toList)
    (htext : '\\' ∉ text.toList) :
    Joins (kind.selector idAttribute (.literal text) exact).toList := by
  cases kind with
  | testId => exact joins_byAttribute (hname rfl) htext true
  | altText | title | placeholder => exact joins_byAttribute (by decide) htext exact
  | label | text =>
      obtain rfl : exact = true := hquotes
      simp only [TextKind.selector, textBody, if_true, String.toList_append, toList_quote]
      exact (Calm.joins (by decide)).append (joins_quoted htext) (by simp)

end TextKind

/-! ### Lookups for a role -/

namespace Role

open Selector

/-- The values of clauses that stay in one part: calm words, and quoted texts without a
backslash. -/
def ClauseValue.Settled : ClauseValue → Prop
  | .word text => Calm text
  | .quoted text _ => '\\' ∉ text

theorem calm_toString (n : Int) : Calm (toString n).toList where
  unmarked c hc := by
    have hno : sectionMarks.all (fun m => m ≠ '-' && !m.isDigit) = true := by decide
    intro hmark
    have hc' : c ≠ '-' ∧ c.isDigit = false := by simpa using List.all_eq_true.1 hno c hmark
    exact Number.notMem_toString hc'.1 hc'.2 n hc
  unescaped := Number.notMem_toString (by decide) (by decide) n
  unseparated h :=
    Number.notMem_toString (c := '>') (by decide) (by decide) n (h.subset (by decide))

theorem settled_of_suits {p : Property} {v : Value} {value : ClauseValue} (h : p.Suits v)
    (hvalue : meaning? v = some value) : value.Settled := by
  cases p
  case level =>
    obtain ⟨n, -, rfl⟩ := h
    cases hvalue
    exact calm_toString n
  case name =>
    obtain ⟨s, hs, rfl | rfl⟩ := h <;> cases hvalue <;> exact hs
  all_goals
    obtain ⟨b, rfl⟩ := h
    cases b <;> cases hvalue <;> change Calm _ <;> decide

theorem joins_clause {c : Clause} (hkey : Calm c.key) (hvalue : c.value.Settled) :
    Joins c.write := by
  have hopen : Joins (['['] ++ c.key) := (Calm.append (by decide) (by decide) hkey).joins
  have hclose : Joins [']'] := Calm.joins (by decide)
  obtain ⟨key, value⟩ := c
  cases value with
  | word text =>
      have hword : Joins (['='] ++ text) := (Calm.append (by decide) (by decide) hvalue).joins
      simpa [Clause.write, ClauseValue.write] using
        hopen.append (hword.append hclose (by decide)) (by simp)
  | quoted text anyCase =>
      have hequals : Joins ['='] := Calm.joins (by decide)
      have hmark : Joins (if anyCase then ['i'] else []) := by
        cases anyCase <;> exact Calm.joins (by decide)
      have hquoted := (joins_quoted hvalue).append (hmark.append hclose (by decide))
        (by cases anyCase <;> decide)
      cases anyCase <;> simpa [Clause.write, ClauseValue.write] using
        hopen.append (hequals.append hquoted (by simp)) (by simp)

/-- Settled clauses make one part. -/
theorem joins_clauses {cs : List Clause} (h : ∀ c ∈ cs, Calm c.key ∧ c.value.Settled) :
    Joins (cs.flatMap Clause.write) := by
  induction cs with
  | nil => exact Calm.joins (by decide)
  | cons c r ih =>
      rw [List.forall_mem_cons] at h
      have hhead : (r.flatMap Clause.write).head? ≠ some '>' := by
        intro hr
        exact absurd (head?_writeClauses r _ hr) (by decide)
      rw [List.flatMap_cons]
      exact (joins_clause h.1.1 h.1.2).append (ih h.2) hhead

theorem settled_saidBy {values : Property → Option Value}
    (hvalues : ∀ p v, values p = some v → p.Suits v) :
    ∀ c ∈ saidBy values, Calm c.key ∧ c.value.Settled := by
  have hkey : ∀ p : Property, Calm p.clauseKey.toList := by
    intro p
    cases p <;> decide
  intro c hc
  obtain ⟨p, -, hp⟩ := List.mem_filterMap.1 hc
  obtain ⟨value, hvalue, rfl⟩ := Option.map_eq_some_iff.1 hp
  obtain ⟨v, hv, hmeaning⟩ := Option.bind_eq_some_iff.1 hvalue
  exact ⟨hkey p, settled_of_suits (hvalues p v hv) hmeaning⟩

/-- Whether an option is null or suits the property that its key gives, under either spelling.  A
key that gives no property may have any value. -/
def WellTyped (o : String × Value) : Prop :=
  o.2 = .null ∨
    ∀ p : Property, o.1 = p.key ∨ (p = .includeHidden ∧ o.1 = hiddenAlias) → p.Suits o.2

theorem mem_present {options : Options} {o : String × Value} :
    o ∈ present options ↔ o ∈ options ∧ o.2 ≠ .null := by
  rw [present, List.mem_filter]
  obtain ⟨key, v⟩ := o
  cases v <;> simp

/-- Well-typed options give to each property a value that suits it. -/
theorem suits_of_given {options : Options} (h : ∀ o ∈ options, WellTyped o) {p : Property}
    {v : Value} (hv : given (present options) p = some v) : p.Suits v := by
  have hsuits : ∀ key, option? (present options) key = some v →
      (key = p.key ∨ (p = .includeHidden ∧ key = hiddenAlias)) → p.Suits v := by
    intro key hkey hp
    obtain ⟨ho, hnull⟩ := mem_present.1 (mem_of_option? hkey)
    exact (h _ ho).resolve_left hnull p hp
  by_cases hp : p = .includeHidden
  · subst hp
    rcases Option.or_eq_some_iff.1 hv with hv | ⟨-, hv⟩
    · exact hsuits _ hv (.inl rfl)
    · exact hsuits _ hv (.inr ⟨rfl, rfl⟩)
  · rw [given_of_ne hp] at hv
    exact hsuits _ hv (.inl rfl)

/-- A role selector of well-typed options exists and makes one part. -/
theorem joins_lookupSelector {role : String} {options : Options} (hrole : Calm role.toList)
    (h : ∀ o ∈ options, WellTyped o) :
    ∃ s, lookupSelector (.text role) (present options) = .ok s ∧ Joins s.toList := by
  have hvalues : ∀ p v, given (present options) p = some v → p.Suits v := fun _ _ hv =>
    suits_of_given h hv
  obtain ⟨s, hs, hchars⟩ := render_of_suits hvalues role
  have hclauses := joins_clauses (settled_saidBy hvalues)
  have hhead : ((saidBy (given (present options))).flatMap Clause.write).head? ≠ some '>' := by
    intro hc
    exact absurd (head?_writeClauses _ _ hc) (by decide)
  refine ⟨s, ?_, ?_⟩
  · have hselector : selector (Value.text role).display (present options) = .ok s := hs
    rw [lookupSelector, hselector]
  · rw [hchars, ← List.append_assoc]
    exact (Calm.append (by decide) (by decide) hrole).joins.append hclauses hhead

end Role

/-! ### Lookups -/

namespace Lookup

open Selector

/-- The literal text that a value stands for. -/
def literal? : Value → Option String
  | .text s | .textValue (.literal s) => some s
  | _ => none

/-- `IsLiteral idAttribute l` says that `l` looks for literal text.  What is written without quotes
must be calm: a role, and the attribute for test ids.  What is written between quotes must have no
backslash.  Inexact text in a label or in the element's own text may be any. -/
inductive IsLiteral (idAttribute : String) : Lookup → Prop
  | byText {kind : TextKind} {v : Value} {text : String} {exact : Option Bool} :
      literal? v = some text →
      (kind = .testId → exact = none ∧ Calm idAttribute.toList) →
      (kind.quotes (exact.getD false) = true → '\\' ∉ text.toList) →
      IsLiteral idAttribute (.byText kind v (exact.map .bool))
  | byRole {role : String} {options : Role.Options} :
      Calm role.toList →
      (∀ o ∈ options, o.1 ∉ reservedKeys ∧ Role.WellTyped o) →
      IsLiteral idAttribute (.byRole (.text role) options)

/-- Whether a lookup is for inexact text in a label or in the element's own text. -/
def isUnquoted : Lookup → Bool
  | .byText kind _ exact => !kind.quotes (exact.any Value.isTrue)
  | .byRole _ _ => false

theorem toTextValue_of_literal? {v : Value} {text : String} (h : literal? v = some text) :
    v.toTextValue = .ok (.literal text) := by
  unfold literal? at h
  split at h <;> cases h <;> rfl

/-- The selector of a lookup for literal text. -/
theorem compile_byText {kind : TextKind} {v : Value} {text : String} {exact : Option Bool}
    (idAttribute : String) (hv : literal? v = some text) (hid : kind = .testId → exact = none) :
    Id.run ((Lookup.byText kind v (exact.map .bool)).compile (pure idAttribute)) =
      .ok (kind.selector idAttribute (.literal text) (exact.getD false)) := by
  have hexact : (exact.map Value.bool).any Value.isTrue = exact.getD false := by
    cases exact <;> rfl
  have hused : (Lookup.byText kind v (exact.map .bool)).isMisused = false := by
    by_cases hkind : kind = .testId
    · simp [isMisused, hkind, hid hkind]
    · simp [isMisused, hkind]
  rw [compile, if_neg (by simp [hused])]
  simp only [toTextValue_of_literal? hv, hexact]
  cases kind <;> rfl

/-- A lookup for literal text is compiled to one part of a chain: the engine's splitter finds one
part in it, and inexact text is even written without any separator. -/
theorem chainParts_compile {idAttribute : String} {l : Lookup} (h : l.IsLiteral idAttribute) :
    ∃ s, Id.run (l.compile (pure idAttribute)) = .ok s ∧ chainParts s = [s] ∧
      (l.isUnquoted = true → ¬ ['>', '>'] <:+: s.toList) := by
  have hone : ∀ s : String, splitFrom none s.toList = [s.toList] → chainParts s = [s] := by
    intro s hs
    rw [chainParts, hs, List.map_singleton, String.ofList_toList]
  cases h with
  | @byText kind v text exact hv hid hquoted =>
      refine ⟨_, compile_byText idAttribute hv fun hkind => (hid hkind).1, ?_, ?_⟩
      · apply hone
        cases hquotes : kind.quotes (exact.getD false) with
        | true =>
            exact (TextKind.joins_selector hquotes (fun hkind => (hid hkind).2)
              (hquoted hquotes)).splitFrom_eq
        | false => exact splitFrom_of_not_infix (TextKind.not_infix_selector hquotes _ _) none
      · intro hun
        refine TextKind.not_infix_selector ?_ idAttribute text
        cases exact <;> simpa [isUnquoted, Value.isTrue] using hun
  | @byRole role options hrole hoptions =>
      obtain ⟨s, hs, hjoins⟩ := Role.joins_lookupSelector hrole fun o ho => (hoptions o ho).2
      have hused : (Lookup.byRole (.text role) options).isMisused = false := by
        simpa [isMisused] using fun key v ho => (hoptions (key, v) ho).1
      refine ⟨s, ?_, hone s hjoins.splitFrom_eq, fun hun => absurd hun Bool.false_ne_true⟩
      rw [compile, if_neg (by simp [hused])]
      exact hs

end Lookup

end ElementLookup
