/-
**Texts in pieces.**

Main definitions:

* `Text.split` — the pieces of a text between separators;
* `Text.unifyLines` — every usual line end as a line feed.

Main results:

* `Text.intercalate_split` — the pieces and the separators make up the text;
* `Text.append_cons_inj_left`, `Text.append_cons_inj_right` — where the first and the last of some
  separators stand is determined.
-/

set_option autoImplicit false

namespace ElementLookup.Text

/-- The pieces of a text between separators; there is one more of them than separators. -/
def split (sep : Char) : List Char → List (List Char)
  | [] => [[]]
  | c :: r =>
    if c = sep then [] :: split sep r
    else match split sep r with
      | [] => [[c]]
      | p :: ps => (c :: p) :: ps

theorem split_ne_nil (sep : Char) (cs : List Char) : split sep cs ≠ [] := by
  cases cs with
  | nil => simp [split]
  | cons c r =>
    rw [split]
    split
    · simp
    · split <;> simp

/-- The pieces and the separators make up the text. -/
theorem intercalate_split (sep : Char) (cs : List Char) :
    [sep].intercalate (split sep cs) = cs := by
  induction cs with
  | nil => rfl
  | cons c r ih =>
    -- the rest has a first piece, which a character that is no separator joins
    have hne := split_ne_nil sep r
    rw [split]
    cases hs : split sep r with
    | nil => exact absurd hs hne
    | cons p ps =>
      rw [hs] at ih
      split
      · rename_i hc
        subst hc
        simp only [List.intercalate, List.intersperse, List.flatten_cons, List.nil_append]
        simp only [List.intercalate] at ih
        rw [ih]; rfl
      · cases ps with
        | nil => simp_all [List.intercalate]
        | cons q qs => simp_all [List.intercalate]

variable {α : Type} {x : α} {a b c d : List α}

/-- Where the last of some separators stands is determined. -/
theorem append_cons_inj_right (hb : x ∉ b) (hd : x ∉ d) (h : a ++ x :: b = c ++ x :: d) :
    a = c ∧ b = d := by
  rcases List.append_eq_append_iff.1 h with ⟨m, rfl, hm⟩ | ⟨m, rfl, hm⟩
  · cases m with
    | nil => exact ⟨by simp, (List.cons.inj hm).2⟩
    | cons y r =>
        obtain ⟨rfl, rfl⟩ := List.cons.inj hm
        exact absurd (by simp) hb
  · cases m with
    | nil => exact ⟨by simp, (List.cons.inj hm).2.symm⟩
    | cons y r =>
        obtain ⟨rfl, rfl⟩ := List.cons.inj hm
        exact absurd (by simp) hd

/-- Where the first of some separators stands is determined. -/
theorem append_cons_inj_left (ha : x ∉ a) (hc : x ∉ c) (h : a ++ x :: b = c ++ x :: d) :
    a = c ∧ b = d := by
  have hreverse := congrArg List.reverse h
  simp only [List.reverse_append, List.reverse_cons, List.append_assoc, List.cons_append,
    List.nil_append] at hreverse
  obtain ⟨hbehind, hbefore⟩ := append_cons_inj_right (x := x) (by simpa using ha)
    (by simpa using hc) hreverse
  exact ⟨List.reverse_inj.1 hbefore, List.reverse_inj.1 hbehind⟩

/-- Every usual line end, a carriage return, a line feed or both, as a line feed. -/
def unifyLines : List Char → List Char
  | '\r' :: '\n' :: r => '\n' :: unifyLines r
  | c :: r => (if c = '\r' then '\n' else c) :: unifyLines r
  | [] => []

example : unifyLines "a\r\nb\rc\n".toList = "a\nb\nc\n".toList := by decide

end ElementLookup.Text
