/-
**Style codes.**

A terminal takes some runs of characters for orders: an escape character and a bracket, then digits,
semicolons and question marks, and a letter that ends the order.  What is not written to a terminal
is written without them.  A run that breaks off before its letter is no order, and stays.

Main definitions:

* `Text.IsStyle` — a run of characters is a style code;
* `Text.withoutStyles` — a text without style codes.

Main results:

* `Text.withoutStyles_of_unstyled` — a text without style codes stays as it is;
* `Text.withoutStyles_sublist` — nothing is added.
-/

set_option autoImplicit false

namespace ElementLookup.Text

/-- The character that begins a style code. -/
def styleStart : Char := '\x1b'

/-- The marks that a style code is made of. -/
def isStyleMark (c : Char) : Bool := c.isDigit || c = ';' || c = '?'

/-- A style code: the character that begins it, a bracket, marks, and a letter that ends it. -/
def IsStyle (cs : List Char) : Prop :=
  ∃ marks letter, cs = styleStart :: '[' :: (marks ++ [letter]) ∧
    (∀ c ∈ marks, isStyleMark c = true) ∧ letter.isAlpha = true

/-- Whether a character goes on with a style code of which `begun` has been read. -/
def goesOnStyle (begun : List Char) (c : Char) : Bool :=
  match begun with
  | [] => false
  | [_] => c = '['
  | _ => isStyleMark c

/-- Whether a character ends a style code of which `begun` has been read. -/
def endsStyle (begun : List Char) (c : Char) : Bool :=
  match begun with
  | _ :: _ :: _ => c.isAlpha
  | _ => false

/-- Drops style codes; `begun` is what has been read of one, which stays if the code breaks off. -/
def dropStyles (begun : List Char) : List Char → List Char
  | [] => begun
  | c :: r =>
    if c = styleStart then begun ++ dropStyles [c] r
    else if goesOnStyle begun c then dropStyles (begun ++ [c]) r
    else if endsStyle begun c then dropStyles [] r
    else begun ++ c :: dropStyles [] r

/-- A text without style codes. -/
def withoutStyles (s : String) : String :=
  String.ofList (dropStyles [] s.toList)

/-- What may have been read of a style code. -/
inductive BeginsStyle : List Char → Prop where
  | nothing : BeginsStyle []
  | start : BeginsStyle [styleStart]
  | marks {marks : List Char} (h : ∀ c ∈ marks, isStyleMark c = true) :
      BeginsStyle (styleStart :: '[' :: marks)

theorem BeginsStyle.concat {begun : List Char} {c : Char} (h : BeginsStyle begun)
    (hc : goesOnStyle begun c = true) : BeginsStyle (begun ++ [c]) := by
  cases h with
  | nothing => exact nomatch hc
  | start =>
    obtain rfl : c = '[' := of_decide_eq_true hc
    exact .marks (List.forall_mem_nil _)
  | @marks marks h =>
    refine .marks fun d hd => ?_
    rcases List.mem_append.1 hd with hd | hd
    · exact h d hd
    · exact List.mem_singleton.1 hd ▸ hc

theorem BeginsStyle.isStyle {begun : List Char} {c : Char} (h : BeginsStyle begun)
    (hc : endsStyle begun c = true) : IsStyle (begun ++ [c]) := by
  cases h with
  | nothing | start => exact nomatch hc
  | @marks marks h => exact ⟨marks, c, rfl, h, hc⟩

/-- What has been read of a code that breaks off is kept, and so is everything else if there is no
code to be found. -/
theorem dropStyles_of_unstyled {begun cs : List Char} (hbegun : BeginsStyle begun)
    (h : ∀ code, IsStyle code → ¬ code <:+: begun ++ cs) : dropStyles begun cs = begun ++ cs := by
  induction cs generalizing begun with
  | nil => rw [dropStyles, List.append_nil]
  | cons c r ih =>
    have hlater : ∀ {later}, later <:+ begun ++ c :: r →
        ∀ code, IsStyle code → ¬ code <:+: later :=
      fun hend code hcode hfound => h code hcode (hfound.trans hend.isInfix)
    rw [dropStyles]
    split
    · rename_i hstart
      subst hstart
      rw [ih .start (hlater (List.suffix_append begun _))]
      rfl
    · split
      · rename_i hgoes
        rw [ih (hbegun.concat hgoes) (by simpa using h), List.append_assoc]
        rfl
      · split
        · rename_i hends
          refine absurd ?_ (h _ (hbegun.isStyle hends))
          exact ⟨[], r, by simp⟩
        · rw [ih .nothing (hlater ((List.suffix_cons c r).trans (List.suffix_append begun _)))]
          rfl

/-- Nothing is dropped from a text without style codes. -/
theorem withoutStyles_of_unstyled {s : String} (h : ∀ code, IsStyle code → ¬ code <:+: s.toList) :
    withoutStyles s = s := by
  have hkept : dropStyles [] s.toList = s.toList := dropStyles_of_unstyled .nothing h
  rw [withoutStyles, hkept, String.ofList_toList]

/-- What is left are characters of the text, in their order. -/
theorem dropStyles_sublist (begun cs : List Char) :
    (dropStyles begun cs).Sublist (begun ++ cs) := by
  induction cs generalizing begun with
  | nil => exact List.sublist_append_left begun []
  | cons c r ih =>
    rw [dropStyles]
    split
    · exact (List.Sublist.refl begun).append (ih [c])
    · split
      · have hrest := ih (begun ++ [c])
        rwa [List.append_assoc] at hrest
      · split
        · exact (ih []).trans
            ((List.sublist_cons_self c r).trans (List.sublist_append_right begun _))
        · exact (List.Sublist.refl begun).append ((ih []).cons_cons c)

theorem withoutStyles_sublist (s : String) : (withoutStyles s).toList.Sublist s.toList := by
  rw [withoutStyles, String.toList_ofList]
  exact dropStyles_sublist [] s.toList

example : withoutStyles "a\x1b[1;31mb\x1b[0m\x1b[2\x1b[" = "ab\x1b[2\x1b[" := by decide

end ElementLookup.Text
