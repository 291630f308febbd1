import Mailshot.Time.Calendar
import Mathlib.Algebra.Ring.Nat

/-!
# Days and their dates

`Date.ofDay` takes a day apart and `Date.toDay?` puts it together again: each day is the day of its
date (`Date.toDay?_ofDay`).  Below the year the two only have to agree on the lengths of the months,
so all that is to be shown about months is said of any list of lengths (`monthAndDay_spec`).
-/

set_option autoImplicit false

namespace Mailshot

/-- A day lies in one of the months, behind those in front of it. -/
theorem monthAndDay_spec {lengths : List Nat} {d : Nat} (h : d < lengths.sum) :
    (monthAndDay lengths d).1 < lengths.length ∧
      (monthAndDay lengths d).2 < lengths.getD (monthAndDay lengths d).1 0 ∧
      (lengths.take (monthAndDay lengths d).1).sum + (monthAndDay lengths d).2 = d := by
  induction lengths generalizing d with
  | nil => exact absurd h (Nat.not_lt_zero d)
  | cons n ns ih =>
    rw [List.sum_cons] at h
    by_cases hlt : d < n
    · have hfirst : monthAndDay (n :: ns) d = (0, d) := by rw [monthAndDay, if_pos hlt]
      rw [hfirst]
      exact ⟨Nat.succ_pos _, hlt, Nat.zero_add d⟩
    · have hlater : monthAndDay (n :: ns) d =
          ((monthAndDay ns (d - n)).1 + 1, (monthAndDay ns (d - n)).2) := by
        rw [monthAndDay, if_neg hlt]
      obtain ⟨hmonth, hday, hsum⟩ := ih (d := d - n) (by omega)
      rw [hlater]
      refine ⟨Nat.succ_lt_succ hmonth, hday, ?_⟩
      rw [List.take_succ_cons, List.sum_cons]
      omega

theorem sum_monthLengths (leap : Bool) :
    (monthLengths leap).sum = if leap then 366 else 365 := by
  cases leap <;> rfl

/-- No month has more days than fit two digits. -/
theorem getD_monthLengths_le (leap : Bool) (m : Nat) : (monthLengths leap).getD m 0 ≤ 31 := by
  rw [List.getD_eq_getElem?_getD]
  cases h : (monthLengths leap)[m]? with
  | none => exact Nat.zero_le 31
  | some n =>
    have hall : ∀ n ∈ monthLengths leap, n ≤ 31 := by cases leap <;> decide
    exact hall n (List.mem_of_getElem? h)

namespace Date

/-- How far a day is into its year. -/
theorem lt_sum_monthLengths (day : Int) :
    (day - firstDayOfYear (yearOfDay day)).toNat <
      (monthLengths (isLeapYear (yearOfDay day))).sum := by
  obtain ⟨hle, hlt⟩ := yearOfDay_bounds day
  rw [firstDayOfYear_succ] at hlt
  rw [sum_monthLengths]
  split at hlt <;> simp_all <;> omega

/-- A date has two digits at most for its month and for its day. -/
theorem bounds_ofDay (day : Int) :
    (ofDay day).month ≤ 12 ∧ (ofDay day).day ≤ 31 := by
  obtain ⟨hmonth, hday, -⟩ := monthAndDay_spec (lt_sum_monthLengths day)
  exact ⟨hmonth, Nat.lt_of_lt_of_le hday (getD_monthLengths_le _ _)⟩

/-- **Each day is the day of its date.** -/
theorem toDay?_ofDay (day : Int) : (ofDay day).toDay? = some day := by
  obtain ⟨hle, -⟩ := yearOfDay_bounds day
  obtain ⟨hmonth, hday, hsum⟩ := monthAndDay_spec (lt_sum_monthLengths day)
  have hexists : 1 ≤ (ofDay day).month ∧ 1 ≤ (ofDay day).day ∧
      (ofDay day).day ≤ (monthLengths (isLeapYear (ofDay day).year)).getD
        ((ofDay day).month - 1) 0 :=
    ⟨Nat.succ_pos _, Nat.succ_pos _, hday⟩
  have hpast : ((monthLengths (isLeapYear (ofDay day).year)).take ((ofDay day).month - 1)).sum +
      ((ofDay day).day - 1) = (day - firstDayOfYear (ofDay day).year).toNat := hsum
  have hyear : firstDayOfYear (ofDay day).year ≤ day := hle
  rw [toDay?]
  dsimp only
  rw [if_pos hexists, ← List.sum_eq_foldl, hpast]
  refine congrArg some ?_
  omega

end Date
end Mailshot
