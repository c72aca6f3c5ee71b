/-
**When attribute lookups have one selector.**

Four kinds of lookup compare an attribute with a value: by test id, whose attribute the context
names, and by alternative text, title and placeholder, whose attributes have names of their own.
All are written alike, with the value behind an equals sign, and backslashes and brackets pass as
they are.  Nothing is lost by that.  The first equals sign ends the name, the first character of the
value tells a pattern from a literal text, and the last one tells exact text from inexact text,
since whatever a text ends in is followed by the closing quote.

Main definitions:

* `TextKind.attribute?` — the attribute that lookups of a kind compare;
* `TextQuery.isExact` — whether a query is exact, which all queries by test id are;
* `SameValue` — the ways in which two values come to be the same.

Main results:

* `Selector.byAttribute_eq_iff` — a selector determines the attribute and what is written for the
  value;
* `Session.compileQuery_eq_iff_sameValue` — **when two attribute lookups have one selector**.
-/

import ElementLookup.Proofs.Query.Compiled
import ElementLookup.Proofs.Selector.RoleInjective
import ElementLookup.Proofs.Selector.WrittenForm

set_option autoImplicit false

namespace ElementLookup

/-! ### Selectors by attribute -/

namespace Selector

theorem toList_byAttribute_value (name : String) (value : TextValue) (exact : Bool) :
    (byAttribute name value exact).toList =
      "internal:attr=[".toList ++
        (name.toList ++ '=' :: ((attributeBody value exact).toList ++ "]".toList)) := by
  have h : byAttribute name value exact =
      "internal:attr=[" ++ name ++ "=" ++ attributeBody value exact ++ "]" := rfl
  have hequals : "=".toList = ['='] := by decide
  rw [h, String.toList_append, String.toList_append, String.toList_append, String.toList_append,
    hequals]
  simp only [List.append_assoc, List.cons_append, List.nil_append]

/-- The first equals sign ends the name of the attribute, whatever the value. -/
theorem byAttribute_eq_iff {m n : String} (hm : '=' ∉ m.toList) (hn : '=' ∉ n.toList)
    {v w : TextValue} {e f : Bool} :
    byAttribute m v e = byAttribute n w f ↔ m = n ∧ attributeBody v e = attributeBody w f := by
  constructor
  · intro h
    have hchars := congrArg String.toList h
    rw [toList_byAttribute_value, toList_byAttribute_value] at hchars
    have hvalue := List.append_cancel_left hchars
    obtain ⟨hname, hrest⟩ := Text.append_cons_inj_left hm hn hvalue
    have hbody := List.append_cancel_right hrest
    exact ⟨String.toList_inj.1 hname, String.toList_inj.1 hbody⟩
  · rintro ⟨rfl, hbody⟩
    rw [byAttribute_eq, byAttribute_eq, hbody]

-- An equals sign in a name could be part of a pattern that is looked for under another name.
example : byAttribute "alt=/a" (.pattern ⟨"b", "", by decide⟩) true =
    byAttribute "alt" (.pattern ⟨"a=/b", "", by decide⟩) true := by decide

end Selector

/-! ### Values -/

/-- `SameValue v e w f` lists the ways in which the value `v`, exact if `e`, and the value `w`,
exact if `f`, come to be the same. -/
inductive SameValue : TextValue → Bool → TextValue → Bool → Prop
  /-- The same pattern, exact or not. -/
  | pattern {p q : TextPattern} (e f : Bool) : p.source = q.source → p.flags = q.flags →
      SameValue (.pattern p) e (.pattern q) f
  /-- The same text, both times exact or both times not. -/
  | literal (text : String) (exact : Bool) :
      SameValue (.literal text) exact (.literal text) exact

theorem SameValue.literal_inj {t u : String} {e f : Bool}
    (h : SameValue (.literal t) e (.literal u) f) : t = u ∧ e = f := by
  cases h
  exact ⟨rfl, rfl⟩

theorem Selector.attributeBody_eq_iff_sameValue {v w : TextValue} {e f : Bool} :
    attributeBody v e = attributeBody w f ↔ SameValue v e w f := by
  rw [attributeBody_eq_iff]
  constructor
  · rintro ⟨rfl, ⟨p, rfl⟩ | rfl⟩
    · exact .pattern e f rfl rfl
    · cases v with
      | pattern p => exact .pattern e e rfl rfl
      | literal text => exact .literal text e
  · intro h
    cases h with
    | pattern e f hsource hflags =>
      exact ⟨congrArg _ (TextPattern.ext hsource hflags), .inl ⟨_, rfl⟩⟩
    | literal text exact => exact ⟨rfl, .inr rfl⟩

/-! ### Queries -/

/-- The attribute that lookups of a kind compare, if they compare one; `idAttribute` is the one that
holds test ids. -/
def TextKind.attribute? (idAttribute : String) : TextKind → Option String
  | .testId => some idAttribute
  | .altText => some "alt"
  | .title => some "title"
  | .placeholder => some "placeholder"
  | .label | .text => none

/-- Whether a query is exact; those by test id always are. -/
def TextQuery.isExact (q : TextQuery) : Bool := q.kind = .testId || q.exact

/-- A query that compares an attribute has the selector of that attribute. -/
theorem TextQuery.selector_eq_byAttribute {q : TextQuery} {idAttribute name : String}
    (h : q.kind.attribute? idAttribute = some name) :
    (Query.text q).selector idAttribute = Selector.byAttribute name q.value q.isExact := by
  rw [Query.selector_text]
  obtain ⟨kind, description, value, exact⟩ := q
  cases kind <;> cases h <;> rfl

/-- No attribute has an equals sign in its name, if the one that holds test ids has none. -/
theorem TextKind.eq_notMem_attribute {kind : TextKind} {idAttribute name : String}
    (hid : '=' ∉ idAttribute.toList) (h : kind.attribute? idAttribute = some name) :
    '=' ∉ name.toList := by
  cases kind <;> cases h
  · exact hid
  all_goals decide

/-! ### One selector -/

namespace Session

variable {s : Session} {c d : ContextId} {q r : TextQuery} {m n : String}

/-- **When two attribute lookups have one selector**: they have selectors, and these are the same
exactly if the lookups compare the same attribute with the same value. -/
theorem compileQuery_eq_iff_sameValue (hc : '=' ∉ (s.attributeIn c).toList)
    (hd : '=' ∉ (s.attributeIn d).toList) (hq : q.kind.attribute? (s.attributeIn c) = some m)
    (hr : r.kind.attribute? (s.attributeIn d) = some n) :
    ∃ x y, outcome (compileQuery (some c) (.text q)) s = (.ok x, s) ∧
      outcome (compileQuery (some d) (.text r)) s = (.ok y, s) ∧
      (x = y ↔ m = n ∧ SameValue q.value q.isExact r.value r.isExact) := by
  have hx := (comesTo_of_short (q := .text q) rfl (s.attributeIn c)).alone s c rfl
  have hy := (comesTo_of_short (q := .text r) rfl (s.attributeIn d)).alone s d rfl
  refine ⟨_, _, hx, hy, ?_⟩
  rw [TextQuery.selector_eq_byAttribute hq, TextQuery.selector_eq_byAttribute hr,
    Selector.byAttribute_eq_iff (TextKind.eq_notMem_attribute hc hq)
      (TextKind.eq_notMem_attribute hd hr),
    Selector.attributeBody_eq_iff_sameValue]

/-- A session with one context, in which test ids stand in titles. -/
def titledStart : Session :=
  { start (.all 9) Environment.empty ⟨.directory [], ⟨.root, []⟩⟩ Log.Severity.warning [] with
    contexts := ["title"] }

/-- The statement for lookups that compare titles: exact and inexact texts with almost the same
selector, and a pattern that is looked for by test id and by title. -/
theorem compileQuery_eq_iff_sameValue_titled :
    '=' ∉ (titledStart.attributeIn 0).toList ∧
    (∃ x y, outcome (compileQuery (some 0) (.text ⟨.testId, none, .literal "x\"i", false⟩))
          titledStart = (.ok x, titledStart) ∧
      outcome (compileQuery (some 0) (.text ⟨.title, none, .literal "x\\", false⟩))
          titledStart = (.ok y, titledStart) ∧
      x ≠ y) ∧
    ∃ x, outcome (compileQuery (some 0)
          (.text ⟨.testId, none, .pattern ⟨"a]/i", "im", by decide⟩, false⟩))
          titledStart = (.ok x, titledStart) ∧
      outcome (compileQuery (some 0)
          (.text ⟨.title, none, .pattern ⟨"a]/i", "im", by decide⟩, false⟩))
          titledStart = (.ok x, titledStart) := by
  have hname : '=' ∉ (titledStart.attributeIn 0).toList := by decide
  refine ⟨hname, ?_, ?_⟩
  · obtain ⟨x, y, hx, hy, hxy⟩ := compileQuery_eq_iff_sameValue hname hname (m := "title")
      (n := "title") (q := ⟨.testId, none, .literal "x\"i", false⟩)
      (r := ⟨.title, none, .literal "x\\", false⟩) rfl rfl
    refine ⟨x, y, hx, hy, fun h => ?_⟩
    exact absurd (hxy.1 h).2.literal_inj.1 (by decide)
  · obtain ⟨x, y, hx, hy, hxy⟩ := compileQuery_eq_iff_sameValue hname hname (m := "title")
      (n := "title") (q := ⟨.testId, none, .pattern ⟨"a]/i", "im", by decide⟩, false⟩)
      (r := ⟨.title, none, .pattern ⟨"a]/i", "im", by decide⟩, false⟩) rfl rfl
    obtain rfl := hxy.2 ⟨rfl, .pattern _ _ rfl rfl⟩
    exact ⟨x, hx, hy⟩

end Session

end ElementLookup
