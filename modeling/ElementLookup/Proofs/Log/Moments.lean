/-
**The moments that can be written.**

Days are counted from the beginning of the year 1, and the year of a day is found by looking at the
years around a guess.  It is the right one: the day falls into it and not into the next.  So a
moment has a text exactly if it lies in the years 1 to 9999; the clock's own limits are much wider
and never decide.

Main results:

* `daysBeforeYear_yearOfDayNumber_le`, `lt_daysBeforeYear_yearOfDayNumber` — **a day falls into its
  year**;
* `yearOfDayNumber_le_iff` — a year is over on the day that begins the next;
* `Log.exists_timestamp_iff` — **which moments have a text**.
-/

import ElementLookup.Log.Line

set_option autoImplicit false

namespace ElementLookup

/-! ### Years -/

theorem daysBeforeYear_mono {y z : Nat} (h : y ≤ z) : daysBeforeYear y ≤ daysBeforeYear z := by
  have hstep : ∀ y, daysBeforeYear y ≤ daysBeforeYear (y + 1) := by
    intro y
    simp only [daysBeforeYear]
    omega
  induction h with
  | refl => exact Nat.le_refl _
  | step _ ih => exact Nat.le_trans ih (hstep _)

/-- The last of some neighbours that satisfies a condition satisfies it, and no later one of them
does. -/
theorem getLastD_filter_range {P : Nat → Bool} {start : Nat} (h : P start = true) (count : Nat) :
    let last := (((List.range count).map (start + ·)).filter P).getLastD start
    P last = true ∧ start ≤ last ∧ ∀ k < count, P (start + k) = true → start + k ≤ last := by
  induction count with
  | zero => exact ⟨h, Nat.le_refl _, fun k hk => absurd hk (Nat.not_lt_zero k)⟩
  | succ n ih =>
    dsimp only at ih ⊢
    rw [List.range_succ, List.map_append, List.filter_append, List.map_singleton]
    by_cases hn : P (start + n) = true
    · rw [List.filter_cons_of_pos hn, List.filter_nil, List.getLastD_concat]
      exact ⟨hn, Nat.le_add_right _ _, fun k hk _ => by omega⟩
    · rw [List.filter_cons_of_neg hn, List.filter_nil, List.append_nil]
      refine ⟨ih.1, ih.2.1, fun k hk hPk => ?_⟩
      have hne : k ≠ n := by
        rintro rfl
        exact hn hPk
      exact ih.2.2 k (by omega) hPk

/-- The first guess is not late, and the last candidate is. -/
theorem daysBeforeYear_guess (n : Nat) :
    daysBeforeYear (n / 366 + 1) ≤ n ∧
      n < daysBeforeYear (n / 366 + 1 + (n / 366 / 400 + 3)) := by
  simp only [daysBeforeYear]
  constructor <;> omega

theorem yearOfDayNumber_bounds (n : Nat) :
    1 ≤ yearOfDayNumber n ∧ daysBeforeYear (yearOfDayNumber n) ≤ n ∧
      n < daysBeforeYear (yearOfDayNumber n + 1) := by
  obtain ⟨hguess, hbeyond⟩ := daysBeforeYear_guess n
  have hlast := getLastD_filter_range (P := fun y => daysBeforeYear y ≤ n) (decide_eq_true hguess)
    (n / 366 / 400 + 3)
  change decide (daysBeforeYear (yearOfDayNumber n) ≤ n) = true ∧
    n / 366 + 1 ≤ yearOfDayNumber n ∧
    ∀ k < n / 366 / 400 + 3, decide (daysBeforeYear (n / 366 + 1 + k) ≤ n) = true →
      n / 366 + 1 + k ≤ yearOfDayNumber n at hlast
  obtain ⟨hstarted, hle, hgreatest⟩ := hlast
  refine ⟨by omega, of_decide_eq_true hstarted, Nat.not_le.1 fun hnext => ?_⟩
  obtain ⟨k, hk⟩ := Nat.exists_eq_add_of_le (Nat.le_succ_of_le hle)
  -- the next year would be among the candidates, or even after the last of them
  by_cases hcount : k < n / 366 / 400 + 3
  · have hyear := hgreatest k hcount (by rw [← hk]; exact decide_eq_true hnext)
    omega
  · have hmono := daysBeforeYear_mono
      (show n / 366 + 1 + (n / 366 / 400 + 3) ≤ yearOfDayNumber n + 1 by omega)
    omega

/-- A year has begun by the day that falls into it. -/
theorem daysBeforeYear_yearOfDayNumber_le (n : Nat) : daysBeforeYear (yearOfDayNumber n) ≤ n :=
  (yearOfDayNumber_bounds n).2.1

/-- The year after has not. -/
theorem lt_daysBeforeYear_yearOfDayNumber (n : Nat) :
    n < daysBeforeYear (yearOfDayNumber n + 1) :=
  (yearOfDayNumber_bounds n).2.2

/-- A year is over on the day that begins the next. -/
theorem yearOfDayNumber_le_iff (n y : Nat) :
    yearOfDayNumber n ≤ y ↔ n < daysBeforeYear (y + 1) := by
  constructor
  · intro h
    exact Nat.lt_of_lt_of_le (lt_daysBeforeYear_yearOfDayNumber n)
      (daysBeforeYear_mono (Nat.succ_le_succ h))
  · intro h
    refine Nat.not_lt.1 fun hlt => ?_
    have hmono := daysBeforeYear_mono (show y + 1 ≤ yearOfDayNumber n from hlt)
    have hstarted := daysBeforeYear_yearOfDayNumber_le n
    omega

namespace Log

/-- A moment in the years 1 to 9999, in seconds since the beginning of 1970. -/
def IsDated (seconds : Int) : Prop :=
  0 ≤ seconds + epochOffset ∧ seconds + epochOffset < daysBeforeYear 10000 * 86400

/-- A moment has a text exactly if it lies in the years 1 to 9999. -/
theorem exists_timestamp_iff (seconds : Int) :
    (∃ ts, timestamp seconds = .ok ts) ↔ IsDated seconds := by
  have hdays : daysBeforeYear 10000 = 3652059 := by decide
  have hyear : ∀ n : Nat, 9999 < (Date.ofDayNumber n).year ↔ 3652059 ≤ n := by
    intro n
    have hiff := yearOfDayNumber_le_iff n 9999
    rw [hdays] at hiff
    change 9999 < yearOfDayNumber n ↔ _
    omega
  rw [IsDated, timestamp, hdays]
  dsimp only
  simp only [hyear, epochOffset, wordLimit, lastClockSecond, firstClockSecond]
  split
  · simp only [reduceCtorEq, exists_false, false_iff]
    omega
  split
  · simp only [reduceCtorEq, exists_false, false_iff]
    omega
  split
  · simp only [reduceCtorEq, exists_false, false_iff]
    omega
  split
  · simp only [reduceCtorEq, exists_false, false_iff]
    omega
  · simp only [Except.ok.injEq, exists_eq', true_iff]
    omega

end Log

end ElementLookup
