/-
**Which text values are written alike.**

A text value has a form in a text or label lookup: quoted, untouched, or a pattern between slashes.
The first character tells the three apart, and each can be undone by itself: the backslashes in
front of quotes are dropped, and the last slash of a pattern ends its source, because no flag is a
slash.  So the form determines the value, but for two things that are meant: texts that differ in
their spacing only may have the same pattern, and somebody may have written that pattern by hand.

Main definitions:

* `Selector.widened` — the pattern that an inexact text is written as;
* `Selector.BodyForm`, `Selector.bodyForm` — the three forms, and the form of a value;
* `Selector.SameBody` — the ways in which two values are written alike.

Main results:

* `Selector.literal_injective` — a pattern is determined by what is written for it;
* `Selector.BodyForm.write_injective` — so is a form;
* `Selector.textBody_eq_iff_sameBody` — **values are written alike in the listed ways only**;
* `Selector.attributeBody_eq_iff` — as the value of an attribute, a literal text is determined
  together with its exactness.
-/

import ElementLookup.Proofs.Selector.PatternBody
import ElementLookup.Proofs.Selector.Quoting
import ElementLookup.Text.Split

set_option autoImplicit false

namespace ElementLookup.Selector

open Text (collapseSpaces)

/-! ### Patterns -/

theorem toList_literal (p : TextPattern) :
    p.literal.toList = '/' :: (p.source.toList ++ '/' :: p.flags.toList) := by
  simp [TextPattern.literal]

/-- No flag is a slash. -/
theorem slash_notMem_flags (p : TextPattern) : '/' ∉ p.flags.toList := fun h =>
  absurd (p.accepted.1 '/' h) (by decide)

/-- A pattern is determined by what is written for it: the last slash ends its source. -/
theorem literal_injective {p q : TextPattern} (h : p.literal = q.literal) : p = q := by
  have hchars := congrArg String.toList h
  rw [toList_literal, toList_literal, List.cons.injEq] at hchars
  obtain ⟨hsource, hflags⟩ :=
    Text.append_cons_inj_right (slash_notMem_flags p) (slash_notMem_flags q) hchars.2
  exact TextPattern.ext (String.toList_inj.1 hsource) (String.toList_inj.1 hflags)

/-- The pattern that an inexact text is written as, if it cannot stand as it is. -/
def widened (text : String) : TextPattern :=
  ⟨String.ofList (patternBody text.toList), "i", by decide⟩

theorem patternBody_eq_iff {s t : List Char} :
    patternBody s = patternBody t ↔ collapseSpaces s = collapseSpaces t := by
  rw [patternBody_eq_write, patternBody_eq_write, ← textTokens_eq_iff]
  exact ⟨PatternToken.write_injective, congrArg _⟩

theorem widened_eq_iff {s t : String} :
    widened s = widened t ↔ collapseSpaces s.toList = collapseSpaces t.toList := by
  simp [widened, patternBody_eq_iff, String.ofList_inj]

/-! ### Three forms -/

/-- The form of a text value in a text or label lookup. -/
inductive BodyForm where
  /-- Exact text between quotes. -/
  | quoted (text : String)
  /-- Inexact text that stands as it is. -/
  | untouched (text : String) (readable : needsPattern text.toList = false)
  /-- A pattern between slashes. -/
  | pattern (p : TextPattern)

/-- A form as it is written. -/
def BodyForm.write : BodyForm → String
  | .quoted text => quote text
  | .untouched text _ => text
  | .pattern p => p.literal

/-- The form of a text value. -/
def bodyForm (value : TextValue) (exact : Bool) : BodyForm :=
  match value with
  | .pattern p => .pattern p
  | .literal text =>
    if exact then .quoted text
    else if h : needsPattern text.toList = false then .untouched text h
    else .pattern (widened text)

theorem bodyForm_of_readable {text : String} (h : needsPattern text.toList = false) :
    bodyForm (.literal text) false = .untouched text h := by
  simp [bodyForm, h]

theorem bodyForm_of_needsPattern {text : String} (h : needsPattern text.toList = true) :
    bodyForm (.literal text) false = .pattern (widened text) := by
  simp [bodyForm, h]

theorem write_bodyForm (value : TextValue) (exact : Bool) :
    (bodyForm value exact).write = textBody value exact := by
  cases value with
  | pattern p => rfl
  | literal text =>
      cases exact with
      | true => rfl
      | false =>
          cases h : needsPattern text.toList with
          | false => simp [bodyForm_of_readable h, BodyForm.write, textBody, h]
          | true =>
              rw [bodyForm_of_needsPattern h, textBody_of_needsPattern h, ← patternBody_eq_write,
                BodyForm.write, ← String.toList_inj, toList_literal]
              simp [widened]

/-- Untouched text starts neither like quoted text nor like a pattern. -/
theorem head?_untouched {cs : List Char} (h : needsPattern cs = false) :
    cs.head? ≠ some '"' ∧ cs.head? ≠ some '/' := by
  have hno := mt (needsPattern_iff cs).2 (by simp [h])
  rw [not_or, not_or] at hno
  exact ⟨fun hq => hno.1 (List.mem_of_head? hq), hno.2.2⟩

/-- The first character of what is written tells the forms apart. -/
theorem BodyForm.head?_write (form : BodyForm) :
    match form with
    | .quoted _ => form.write.toList.head? = some '"'
    | .untouched _ _ =>
      form.write.toList.head? ≠ some '"' ∧ form.write.toList.head? ≠ some '/'
    | .pattern _ => form.write.toList.head? = some '/' := by
  cases form with
  | quoted text => simp [BodyForm.write, toList_quote]
  | untouched text h => exact head?_untouched h
  | pattern p => simp [BodyForm.write, toList_literal]

/-- A form is determined by what is written for it. -/
theorem BodyForm.write_injective {f g : BodyForm} (h : f.write = g.write) : f = g := by
  have hf := f.head?_write
  have hg := g.head?_write
  rw [h] at hf
  cases f with
  | quoted s =>
      cases g with
      | quoted t => rw [quote_injective h]
      | untouched t ht => exact absurd hf hg.1
      | pattern q => simp_all
  | untouched s hs =>
      cases g with
      | quoted t => exact absurd hg hf.1
      | untouched t ht =>
          obtain rfl : s = t := h
          rfl
      | pattern q => exact absurd hg hf.2
  | pattern p =>
      cases g with
      | quoted t => simp_all
      | untouched t ht => exact absurd hf hg.2
      | pattern q => rw [literal_injective h]

/-! ### Values that are written alike -/

/-- `SameBody v e w f` lists the ways in which the value `v`, exact if `e`, and the value `w`, exact
if `f`, come to be written alike. -/
inductive SameBody : TextValue → Bool → TextValue → Bool → Prop
  /-- The same text, both times exact. -/
  | quoted (text : String) : SameBody (.literal text) true (.literal text) true
  /-- The same text, both times inexact, if it can stand as it is. -/
  | untouched {text : String} : needsPattern text.toList = false →
      SameBody (.literal text) false (.literal text) false
  /-- Inexact texts that cannot, and that differ in the spaces of their runs only. -/
  | respaced {s t : String} : needsPattern s.toList = true → needsPattern t.toList = true →
      collapseSpaces s.toList = collapseSpaces t.toList →
      SameBody (.literal s) false (.literal t) false
  /-- The same pattern, exact or not. -/
  | pattern {p q : TextPattern} (e f : Bool) : p.source = q.source → p.flags = q.flags →
      SameBody (.pattern p) e (.pattern q) f
  /-- A pattern and an inexact text whose escaped body is the source of that pattern. -/
  | patternText {p : TextPattern} {text : String} (e : Bool) : p.flags = "i" →
      needsPattern text.toList = true → p.source = String.ofList (patternBody text.toList) →
      SameBody (.pattern p) e (.literal text) false
  /-- The same two, the other way round. -/
  | textPattern {p : TextPattern} {text : String} (e : Bool) : p.flags = "i" →
      needsPattern text.toList = true → p.source = String.ofList (patternBody text.toList) →
      SameBody (.literal text) false (.pattern p) e

/-- Values that are written alike have the same form. -/
theorem SameBody.bodyForm_eq {v w : TextValue} {e f : Bool} (h : SameBody v e w f) :
    bodyForm v e = bodyForm w f := by
  cases h with
  | quoted text => rfl
  | untouched hs => rfl
  | respaced hs ht hst =>
      rw [bodyForm_of_needsPattern hs, bodyForm_of_needsPattern ht, widened_eq_iff.2 hst]
  | pattern e f hsource hflags =>
      rw [bodyForm, bodyForm, TextPattern.ext hsource hflags]
  | @patternText p text e hflags ht hsource =>
      have hp : p = widened text := TextPattern.ext hsource hflags
      rw [bodyForm_of_needsPattern ht, bodyForm, hp]
  | @textPattern p text e hflags ht hsource =>
      have hp : p = widened text := TextPattern.ext hsource hflags
      rw [bodyForm_of_needsPattern ht, bodyForm, hp]

/-- The form of a literal text tells the text, whether it is exact, and if not, whether it can stand
as it is. -/
theorem bodyForm_literal (text : String) (exact : Bool) :
    (exact = true ∧ bodyForm (.literal text) exact = .quoted text) ∨
    (exact = false ∧ ∃ h, bodyForm (.literal text) exact = .untouched text h) ∨
    (exact = false ∧ needsPattern text.toList = true ∧
      bodyForm (.literal text) exact = .pattern (widened text)) := by
  cases exact with
  | true => exact .inl ⟨rfl, rfl⟩
  | false =>
      rcases Bool.eq_false_or_eq_true (needsPattern text.toList) with h | h
      · exact .inr (.inr ⟨rfl, h, bodyForm_of_needsPattern h⟩)
      · exact .inr (.inl ⟨rfl, h, bodyForm_of_readable h⟩)

/-- A literal text has the form of a pattern only if it is written as that pattern. -/
theorem bodyForm_literal_eq_pattern {text : String} {exact : Bool} {p : TextPattern}
    (h : bodyForm (.literal text) exact = .pattern p) :
    exact = false ∧ needsPattern text.toList = true ∧ p = widened text := by
  obtain ⟨-, hform⟩ | ⟨-, _, hform⟩ | ⟨he, hn, hform⟩ := bodyForm_literal text exact
  · rw [hform] at h
    cases h
  · rw [hform] at h
    cases h
  · rw [hform] at h
    cases h
    exact ⟨he, hn, rfl⟩

theorem sameBody_literal {s t : String} {e f : Bool}
    (h : bodyForm (.literal s) e = bodyForm (.literal t) f) :
    SameBody (.literal s) e (.literal t) f := by
  obtain ⟨rfl, hs⟩ | ⟨rfl, hu, hs⟩ | ⟨rfl, hn, hs⟩ := bodyForm_literal s e
  · obtain ⟨rfl, ht⟩ | ⟨-, _, ht⟩ | ⟨-, -, ht⟩ := bodyForm_literal t f <;> rw [hs, ht] at h <;>
      cases h
    exact .quoted s
  · obtain ⟨-, ht⟩ | ⟨rfl, _, ht⟩ | ⟨-, -, ht⟩ := bodyForm_literal t f <;> rw [hs, ht] at h <;>
      cases h
    exact .untouched hu
  · obtain ⟨rfl, ht, hp⟩ := bodyForm_literal_eq_pattern (h.symm.trans hs)
    exact .respaced hn ht (widened_eq_iff.1 hp)

/-- Values of one form are written alike. -/
theorem sameBody_of_bodyForm_eq {v w : TextValue} {e f : Bool}
    (h : bodyForm v e = bodyForm w f) : SameBody v e w f := by
  cases v with
  | pattern p =>
      cases w with
      | pattern q =>
          cases h
          exact .pattern e f rfl rfl
      | literal t =>
          obtain ⟨rfl, ht, rfl⟩ := bodyForm_literal_eq_pattern h.symm
          exact .patternText e rfl ht rfl
  | literal s =>
      cases w with
      | pattern q =>
          obtain ⟨rfl, hs, rfl⟩ := bodyForm_literal_eq_pattern h
          exact .textPattern f rfl hs rfl
      | literal t => exact sameBody_literal h

/-- **Which values are written alike** in a text or label lookup. -/
theorem textBody_eq_iff_sameBody (v w : TextValue) (e f : Bool) :
    textBody v e = textBody w f ↔ SameBody v e w f := by
  rw [← write_bodyForm, ← write_bodyForm]
  constructor
  · intro h
    exact sameBody_of_bodyForm_eq (BodyForm.write_injective h)
  · intro h
    rw [h.bodyForm_eq]

/-! ### Values of attributes -/

theorem toList_attributeText (text : String) (exact : Bool) :
    (attributeText text exact).toList =
      '"' :: (quoteChars text.toList ++ if exact then ['"'] else ['"', 'i']) := by
  cases exact <;> simp [attributeText, toList_quote]

/-- The mark of inexact text is the last character. -/
theorem getLast?_attributeText (text : String) (exact : Bool) :
    (attributeText text exact).toList.getLast? = some (if exact then '"' else 'i') := by
  cases exact <;> simp [toList_attributeText, List.getLast?_cons, List.getLast?_append]

theorem attributeText_eq_iff {s t : String} {e f : Bool} :
    attributeText s e = attributeText t f ↔ s = t ∧ e = f := by
  refine ⟨fun h => ?_, fun h => by rw [h.1, h.2]⟩
  have hlast := congrArg (fun u : String => u.toList.getLast?) h
  simp only [getLast?_attributeText] at hlast
  obtain rfl : e = f := by cases e <;> cases f <;> simp_all
  have hchars := congrArg String.toList h
  rw [toList_attributeText, toList_attributeText, List.cons.injEq] at hchars
  exact ⟨String.toList_inj.1 (quoteChars_injective (List.append_cancel_right hchars.2)), rfl⟩

/-- The first character tells a pattern from a literal text. -/
theorem literal_ne_attributeText (p : TextPattern) (text : String) (exact : Bool) :
    p.literal ≠ attributeText text exact := by
  intro h
  have hchars := congrArg String.toList h
  rw [toList_literal, toList_attributeText] at hchars
  cases hchars

/-- As the value of an attribute, a text value is determined by what is written for it, and so is
the exactness of a literal text. -/
theorem attributeBody_eq_iff {v w : TextValue} {e f : Bool} :
    attributeBody v e = attributeBody w f ↔ v = w ∧ ((∃ p, v = .pattern p) ∨ e = f) := by
  cases v with
  | pattern p =>
      cases w with
      | pattern q =>
          refine ⟨fun h => ⟨congrArg _ (literal_injective h), .inl ⟨p, rfl⟩⟩, fun h => ?_⟩
          cases h.1
          rfl
      | literal t =>
          exact ⟨fun h => absurd h (literal_ne_attributeText p t f), fun h => nomatch h.1⟩
  | literal s =>
      cases w with
      | pattern q =>
          exact ⟨fun h => absurd h.symm (literal_ne_attributeText q s e), fun h => nomatch h.1⟩
      | literal t => simp [attributeBody, attributeText_eq_iff]

end ElementLookup.Selector
