/-
**Whole numbers as they are displayed.**

A whole number is displayed in decimal, with a minus sign in front if it is negative.  So its
display holds no character that means anything in a selector, and no two numbers have the same
display.

Main results:

* `Number.mem_toString` — a display holds digits, and perhaps a minus sign;
* `Number.toString_injective` — a number is determined by its display.
-/

set_option autoImplicit false

namespace ElementLookup.Number

/-- A display holds digits, and perhaps a minus sign. -/
theorem mem_toString {n : Int} {c : Char} (h : c ∈ (toString n).toList) :
    c = '-' ∨ c.isDigit = true := by
  have hdigits : ∀ m : Nat, c ∈ m.repr.toList → c.isDigit = true := fun m hm =>
    Nat.isDigit_of_mem_toDigits (by decide) (by decide) (Nat.toList_repr ▸ hm)
  rw [Int.toString_eq_repr, Int.repr_eq_if] at h
  split at h
  · exact .inr (hdigits _ h)
  · rw [String.toList_append, List.mem_append] at h
    rcases h with h | h
    · exact .inl (by simpa using h)
    · exact .inr (hdigits _ h)

theorem notMem_toString {c : Char} (hsign : c ≠ '-') (hdigit : c.isDigit = false) (n : Int) :
    c ∉ (toString n).toList := by
  intro h
  rcases mem_toString h with rfl | hc
  · exact hsign rfl
  · rw [hdigit] at hc
    cases hc

theorem repr_injective {m n : Nat} (h : m.repr = n.repr) : m = n := by
  have hdigits : Nat.toDigits 10 m = Nat.toDigits 10 n := by
    rw [← Nat.toList_repr, ← Nat.toList_repr, h]
  calc m = Nat.ofDigitChars 10 (Nat.toDigits 10 m) 0 := Nat.ofDigitChars_ten_toDigits.symm
    _ = Nat.ofDigitChars 10 (Nat.toDigits 10 n) 0 := by rw [hdigits]
    _ = n := Nat.ofDigitChars_ten_toDigits

/-- No natural number has a sign in front. -/
theorem repr_ne_sign_append (m : Nat) (s : String) : m.repr ≠ "-" ++ s := by
  intro h
  have hmem : '-' ∈ m.repr.toList := by simp [h]
  rw [Nat.toList_repr] at hmem
  exact absurd (Nat.isDigit_of_mem_toDigits (by decide) (by decide) hmem) (by decide)

/-- A number is determined by its display. -/
theorem toString_injective {m n : Int} (h : toString m = toString n) : m = n := by
  rw [Int.toString_eq_repr, Int.toString_eq_repr, Int.repr_eq_if, Int.repr_eq_if] at h
  split at h <;> split at h
  · have hnat := repr_injective h
    omega
  · exact absurd h (repr_ne_sign_append _ _)
  · exact absurd h.symm (repr_ne_sign_append _ _)
  · have hchars := congrArg String.toList h
    rw [String.toList_append, String.toList_append] at hchars
    have hnat := repr_injective (String.toList_inj.1 (List.append_cancel_left hchars))
    omega

end ElementLookup.Number
