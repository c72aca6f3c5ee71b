/-
**Line feeds in selectors.**

Nothing in a selector stands for a line feed: a text that is quoted keeps its line feeds, and so
does an inexact text that can stand as it is.  Only where an inexact text is written as a pattern
its line feeds are gone, with all other spaces.  So a selector runs over several lines exactly if
something that it is made of does, with that one exception.

Main definitions:

* `Selector.HoldsLineFeed` — a text has a line feed;
* `TextValue.BreaksBody`, `TextValue.BreaksAttribute` — a text value is written over several lines;
* `Query.BreaksLine` — a query has a selector of several lines.

Main results:

* `Selector.holdsLineFeed_textBody_iff`, `Selector.holdsLineFeed_attributeBody_iff` — written forms;
* `Query.holdsLineFeed_selector_iff` — **the queries whose selectors run over several lines**.
-/

import ElementLookup.Proofs.Query.Compiled
import ElementLookup.Proofs.Selector.RoleInjective

set_option autoImplicit false

namespace ElementLookup

namespace Selector

/-! ### Written forms -/

/-- Whether a text has a line feed. -/
def HoldsLineFeed (s : String) : Prop := '\n' ∈ s.toList

instance (s : String) : Decidable (HoldsLineFeed s) :=
  inferInstanceAs (Decidable ('\n' ∈ s.toList))

theorem holdsLineFeed_append {s t : String} :
    HoldsLineFeed (s ++ t) ↔ HoldsLineFeed s ∨ HoldsLineFeed t := by
  rw [HoldsLineFeed, String.toList_append, List.mem_append]
  rfl

theorem lineFeed_mem_quoteChars {cs : List Char} : '\n' ∈ quoteChars cs ↔ '\n' ∈ cs := by
  induction cs with
  | nil => exact Iff.rfl
  | cons c r ih =>
    rw [quoteChars_cons, List.mem_append, ih, List.mem_cons]
    refine or_congr ?_ Iff.rfl
    rw [quoteChar]
    split
    · next h => subst h; decide
    · exact List.mem_singleton

theorem holdsLineFeed_quote {text : String} : HoldsLineFeed (quote text) ↔ HoldsLineFeed text := by
  rw [HoldsLineFeed, quote, String.toList_ofList, List.mem_cons, List.mem_append,
    lineFeed_mem_quoteChars]
  simp [HoldsLineFeed]

/-- Where runs of spaces are widened, no space is left. -/
theorem isSpace_of_mem_widenSpaces {within : Bool} {cs : List Char} {c : Char}
    (h : c ∈ widenSpaces within cs) : Text.isSpace c = false := by
  induction cs generalizing within with
  | nil => exact nomatch h
  | cons d r ih =>
    rw [widenSpaces] at h
    split at h
    · split at h
      · exact ih h
      · rcases List.mem_append.1 h with h | h
        · have hplain : anySpaces.any Text.isSpace = false := by decide
          exact Bool.eq_false_iff.2 (List.any_eq_false.1 hplain c h)
        · exact ih h
    · next hspace =>
      rcases List.mem_cons.1 h with rfl | h
      · exact Bool.eq_false_iff.2 hspace
      · exact ih h

theorem lineFeed_notMem_patternBody (cs : List Char) : '\n' ∉ patternBody cs := fun h =>
  absurd (isSpace_of_mem_widenSpaces h) (by decide)

/-- No flag is a line feed. -/
theorem holdsLineFeed_literal {p : TextPattern} :
    HoldsLineFeed p.literal ↔ HoldsLineFeed p.source := by
  have hflags : '\n' ∉ p.flags.toList := fun h => absurd (p.accepted.1 '\n' h) (by decide)
  rw [HoldsLineFeed, toList_literal]
  simp [HoldsLineFeed, hflags]

end Selector

open Selector

/-! ### Text values -/

/-- Whether the form of a text value in a text or label lookup runs over several lines. -/
def TextValue.BreaksBody (value : TextValue) (exact : Bool) : Prop :=
  match value with
  | .pattern p => HoldsLineFeed p.source
  | .literal text => HoldsLineFeed text ∧ (exact = true ∨ needsPattern text.toList = false)

/-- Whether the form of a text value as an attribute's value does. -/
def TextValue.BreaksAttribute : TextValue → Prop
  | .pattern p => HoldsLineFeed p.source
  | .literal text => HoldsLineFeed text

instance (value : TextValue) (exact : Bool) : Decidable (value.BreaksBody exact) :=
  match value with
  | .pattern p => inferInstanceAs (Decidable (HoldsLineFeed p.source))
  | .literal text => inferInstanceAs (Decidable
      (HoldsLineFeed text ∧ (exact = true ∨ needsPattern text.toList = false)))

instance (value : TextValue) : Decidable value.BreaksAttribute :=
  match value with
  | .pattern p => inferInstanceAs (Decidable (HoldsLineFeed p.source))
  | .literal text => inferInstanceAs (Decidable (HoldsLineFeed text))

namespace Selector

theorem holdsLineFeed_textBody_iff {value : TextValue} {exact : Bool} :
    HoldsLineFeed (textBody value exact) ↔ value.BreaksBody exact := by
  cases value with
  | pattern p => exact holdsLineFeed_literal
  | literal text =>
    rw [textBody, TextValue.BreaksBody]
    cases exact with
    | true => simp [holdsLineFeed_quote]
    | false =>
      cases hpattern : needsPattern text.toList with
      | true =>
        have hbody : ¬HoldsLineFeed (String.ofList (patternBody text.toList)) := by
          rw [HoldsLineFeed, String.toList_ofList]
          exact lineFeed_notMem_patternBody _
        simp [holdsLineFeed_append, hbody, show ¬HoldsLineFeed "/" by decide,
          show ¬HoldsLineFeed "/i" by decide]
      | false => simp

theorem holdsLineFeed_attributeBody_iff {value : TextValue} {exact : Bool} :
    HoldsLineFeed (attributeBody value exact) ↔ value.BreaksAttribute := by
  cases value with
  | pattern p => exact holdsLineFeed_literal
  | literal text =>
    rw [attributeBody, attributeText, TextValue.BreaksAttribute]
    cases exact with
    | true => exact holdsLineFeed_quote
    | false =>
      rw [if_neg Bool.false_ne_true, holdsLineFeed_append, holdsLineFeed_quote]
      exact or_iff_left (by decide)

theorem holdsLineFeed_byAttribute_iff {name : String} {value : TextValue} {exact : Bool} :
    HoldsLineFeed (byAttribute name value exact) ↔ HoldsLineFeed name ∨ value.BreaksAttribute := by
  have hopening : ¬HoldsLineFeed "internal:attr=[" := by decide +kernel
  have hequals : ¬HoldsLineFeed "=" := by decide +kernel
  have hclosing : ¬HoldsLineFeed "]" := by decide +kernel
  unfold byAttribute
  simp only [holdsLineFeed_append, holdsLineFeed_attributeBody_iff, hopening, hequals, hclosing,
    false_or, or_false]

end Selector

/-! ### Queries -/

/-- Whether the selector of a text query runs over several lines. -/
def TextQuery.BreaksLine (q : TextQuery) (idAttribute : String) : Prop :=
  match q.kind with
  | .testId => HoldsLineFeed idAttribute ∨ q.value.BreaksAttribute
  | .altText | .title | .placeholder => q.value.BreaksAttribute
  | .label | .text => q.value.BreaksBody q.exact

/-- Whether the selector of a role query does. -/
def RoleQuery.BreaksLine (q : RoleQuery) : Prop :=
  HoldsLineFeed q.role ∨ ∃ name ∈ q.name, name.BreaksAttribute

/-- Whether the selector of a query runs over several lines. -/
def Query.BreaksLine (q : Query) (idAttribute : String) : Prop :=
  match q with
  | .text q => q.BreaksLine idAttribute
  | .role q => q.BreaksLine

instance (q : TextQuery) (idAttribute : String) : Decidable (q.BreaksLine idAttribute) :=
  match q with
  | ⟨.testId, _, value, _⟩ =>
    inferInstanceAs (Decidable (HoldsLineFeed idAttribute ∨ value.BreaksAttribute))
  | ⟨.altText, _, value, _⟩ | ⟨.title, _, value, _⟩ | ⟨.placeholder, _, value, _⟩ =>
    inferInstanceAs (Decidable value.BreaksAttribute)
  | ⟨.label, _, value, exact⟩ | ⟨.text, _, value, exact⟩ =>
    inferInstanceAs (Decidable (value.BreaksBody exact))

instance (q : Query) (idAttribute : String) : Decidable (q.BreaksLine idAttribute) :=
  match q with
  | .text q => inferInstanceAs (Decidable (q.BreaksLine idAttribute))
  | .role q =>
    inferInstanceAs (Decidable (HoldsLineFeed q.role ∨ ∃ name ∈ q.name, name.BreaksAttribute))

theorem TextQuery.holdsLineFeed_selector_iff {q : TextQuery} {idAttribute : String} :
    HoldsLineFeed (q.kind.selector idAttribute q.value q.exact) ↔ q.BreaksLine idAttribute := by
  obtain ⟨kind, description, value, exact⟩ := q
  have hattribute (name : String) (e : Bool) (hname : ¬HoldsLineFeed name) :
      HoldsLineFeed (byAttribute name value e) ↔ value.BreaksAttribute :=
    holdsLineFeed_byAttribute_iff.trans (or_iff_right hname)
  have hbody (opening : String) (ho : ¬HoldsLineFeed opening) :
      HoldsLineFeed (opening ++ textBody value exact) ↔ value.BreaksBody exact :=
    holdsLineFeed_append.trans ((or_iff_right ho).trans holdsLineFeed_textBody_iff)
  cases kind with
  | testId => exact holdsLineFeed_byAttribute_iff
  | altText => exact hattribute "alt" exact (by decide +kernel)
  | title => exact hattribute "title" exact (by decide +kernel)
  | placeholder => exact hattribute "placeholder" exact (by decide +kernel)
  | label => exact hbody "internal:label=" (by decide +kernel)
  | text => exact hbody "text=" (by decide +kernel)

theorem holdsLineFeed_join {l : List String} :
    HoldsLineFeed (String.join l) ↔ ∃ s ∈ l, HoldsLineFeed s := by
  rw [HoldsLineFeed, String.toList_join, List.mem_flatMap]
  rfl

/-- A clause runs over several lines if its text does. -/
theorem holdsLineFeed_clause {p : Role.Property} {text : String} :
    HoldsLineFeed (Role.clause p text) ↔ HoldsLineFeed text := by
  have hopening : ¬HoldsLineFeed "[" := by decide +kernel
  have hkey : ¬HoldsLineFeed p.clauseKey := by cases p <;> decide +kernel
  have hequals : ¬HoldsLineFeed "=" := by decide +kernel
  have hclosing : ¬HoldsLineFeed "]" := by decide +kernel
  unfold Role.clause
  simp only [holdsLineFeed_append, hopening, hkey, hequals, hclosing, false_or, or_false]

theorem RoleQuery.holdsLineFeed_selector_iff {q : RoleQuery} :
    HoldsLineFeed q.selector ↔ q.BreaksLine := by
  have hopening : ¬HoldsLineFeed "role=" := by decide +kernel
  unfold RoleQuery.selector Role.render RoleQuery.BreaksLine
  simp only [holdsLineFeed_append, hopening, false_or, holdsLineFeed_join]
  refine or_congr Iff.rfl ⟨?_, ?_⟩
  · rintro ⟨s, hs, hfeed⟩
    obtain ⟨c, hc, rfl⟩ := List.mem_map.1 hs
    obtain ⟨p, -, hp⟩ := List.mem_filterMap.1 hc
    obtain ⟨text, htext, rfl⟩ := Option.map_eq_some_iff.1 hp
    have hline : HoldsLineFeed text := holdsLineFeed_clause.1 hfeed
    by_cases hname : p = .name
    · subst hname
      obtain ⟨name, hq, rfl⟩ := Option.map_eq_some_iff.1 htext
      exact ⟨name, hq, holdsLineFeed_attributeBody_iff.1 hline⟩
    · rcases mem_clauseText? hname htext hline with h | h
      · exact absurd h (by decide)
      · exact absurd h (by decide)
  · rintro ⟨name, hq, hbreaks⟩
    refine ⟨Role.clause .name (attributeBody name false), ?_,
      holdsLineFeed_clause.2 (holdsLineFeed_attributeBody_iff.2 hbreaks)⟩
    refine List.mem_map.2 ⟨(.name, attributeBody name false), ?_, rfl⟩
    refine List.mem_filterMap.2 ⟨.name, Role.Property.mem_all _, ?_⟩
    rw [RoleQuery.clauseText?, hq]
    rfl

/-- A selector runs over several lines exactly if its query makes it. -/
theorem Query.holdsLineFeed_selector_iff {q : Query} {idAttribute : String} :
    HoldsLineFeed (q.selector idAttribute) ↔ q.BreaksLine idAttribute := by
  cases q with
  | text q =>
    rw [Query.selector_text]
    exact q.holdsLineFeed_selector_iff
  | role q => exact q.holdsLineFeed_selector_iff

end ElementLookup
