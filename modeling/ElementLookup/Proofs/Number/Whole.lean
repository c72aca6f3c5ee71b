/-
**What is read can be written.**

The limit for reading decimals and the one for writing them is the same number of digits.  So a
number that was read from a decimal, of however many digits, is never too long to be written; idle
zeros in front count when it is read and are gone when it is written.

Main results:

* `Number.ofDigits_lt` — a number has no more digits than it was read from;
* `Number.isOverlong_of_readWhole` — **a decimal that is read can be written**.
-/

import Mathlib.Tactic.Ring
import ElementLookup.Number.Whole

set_option autoImplicit false

namespace ElementLookup.Number

/-- Digits in a base are below it. -/
theorem lt_of_digitIn? {base d : Nat} {c : Char} (h : digitIn? base c = some d) : d < base := by
  rw [digitIn?] at h
  have hfilter := (Option.filter_eq_some_iff.1 h).2
  simpa using hfilter

theorem lt_of_mem_digitGroups {base : Nat} {cs : List Char} {ds : List Nat}
    (h : digitGroups base cs = some ds) : ∀ d ∈ ds, d < base := by
  intro d hd
  have hmem : some d ∈ (cs.filter (· ≠ '_')).map (digitIn? base) := by
    rw [digitGroups_eq_some h]
    exact List.mem_map_of_mem hd
  obtain ⟨c, -, hc⟩ := List.mem_map.1 hmem
  exact lt_of_digitIn? hc

/-- Reading goes from left to right: whatever has been read is below the next power. -/
theorem foldl_digits_lt {base : Nat} {ds : List Nat} (h : ∀ d ∈ ds, d < base) (n : Nat) :
    ds.foldl (fun n d => n * base + d) n < (n + 1) * base ^ ds.length := by
  induction ds generalizing n with
  | nil => simp
  | cons d r ih =>
    rw [List.forall_mem_cons] at h
    have hd : n * base + d + 1 ≤ (n + 1) * base := by
      have := h.1
      rw [Nat.add_mul, Nat.one_mul]
      omega
    calc r.foldl (fun n d => n * base + d) (n * base + d)
        < (n * base + d + 1) * base ^ r.length := ih h.2 (n * base + d)
      _ ≤ (n + 1) * base * base ^ r.length := Nat.mul_le_mul_right _ hd
      _ = (n + 1) * base ^ (r.length + 1) := by ring

/-- The number of some digits is below the power of the base by how many they are. -/
theorem ofDigits_lt {base : Nat} {ds : List Nat} (h : ∀ d ∈ ds, d < base) :
    ofDigits base ds < base ^ ds.length := by
  have hlt := foldl_digits_lt h 0
  rwa [Nat.zero_add, Nat.one_mul] at hlt

theorem lt_of_readNatural {cs : List Char} {n : Nat} (h : readNatural 10 cs = some n) :
    n < Nat.pow 10 digitLimit := by
  obtain ⟨ds, hds, hn⟩ := Option.bind_eq_some_iff.1 h
  split at hn
  · exact nomatch hn
  · rename_i hlimit
    obtain rfl : ofDigits 10 ds = n := Option.some.inj hn
    have hlength : ds.length ≤ digitLimit := by
      simpa [isLimited] using hlimit
    -- the limit itself does not matter, and its power is better not computed
    generalize digitLimit = limit at hlength
    calc ofDigits 10 ds < 10 ^ ds.length := ofDigits_lt (lt_of_mem_digitGroups hds)
      _ ≤ 10 ^ limit := Nat.pow_le_pow_right (by decide) hlength

/-- A decimal that is read can be written. -/
theorem isOverlong_of_readWhole {cs : List Char} {n : Int} (h : readWhole 10 cs = some n) :
    isOverlong n = false := by
  have hlt : n.natAbs < Nat.pow 10 digitLimit := by
    rw [readWhole] at h
    split at h <;> obtain ⟨m, hm, rfl⟩ := Option.map_eq_some_iff.1 h
    · rw [Int.natAbs_neg, Int.natAbs_natCast]
      exact lt_of_readNatural hm
    · rw [Int.natAbs_natCast]
      exact lt_of_readNatural hm
    · rw [Int.natAbs_natCast]
      exact lt_of_readNatural hm
  rw [isOverlong, decide_eq_false_iff_not]
  exact Nat.not_le.2 hlt

end ElementLookup.Number
