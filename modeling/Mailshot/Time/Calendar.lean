/-!
# The calendar

Dates of the Gregorian calendar, continued over all years, and the day numbers that count them: day
number 0 is the first of January of the year 0.

`yearOfDay` finds the year of a day from the mean length of a year.  That guess is off by one year
at most, since the leap days of four centuries are spread almost evenly.
-/

set_option autoImplicit false

namespace Mailshot

/-- Whether a year has a 29 February. -/
def isLeapYear (year : Int) : Bool :=
  decide (year % 4 = 0) && (decide (year % 100 ≠ 0) || decide (year % 400 = 0))

/-- The number of the first day of a year. -/
def firstDayOfYear (year : Int) : Int :=
  365 * year + (year + 3) / 4 - (year + 99) / 100 + (year + 399) / 400

/-- The first day of the next year lies as many days later as the year has. -/
theorem firstDayOfYear_succ (year : Int) :
    firstDayOfYear (year + 1) = firstDayOfYear year + (if isLeapYear year then 366 else 365) := by
  simp only [firstDayOfYear, isLeapYear]
  by_cases h4 : year % 4 = 0 <;> by_cases h100 : year % 100 = 0 <;>
    by_cases h400 : year % 400 = 0 <;> simp [h4, h100, h400] <;> omega

/-- Each year is at least as long as a common one. -/
theorem firstDayOfYear_add_le (year : Int) :
    firstDayOfYear year + 365 ≤ firstDayOfYear (year + 1) := by
  rw [firstDayOfYear_succ]
  split <;> omega

/-- Four hundred years have 146097 days, and no year strays from that mean by two days. -/
theorem firstDayOfYear_mean (year : Int) :
    146097 * year - 399 ≤ 400 * firstDayOfYear year ∧
      400 * firstDayOfYear year ≤ 146097 * year + 699 := by
  unfold firstDayOfYear
  omega

/-- The year that a day belongs to. -/
def yearOfDay (day : Int) : Int :=
  let guess := 400 * day / 146097
  if day < firstDayOfYear guess then guess - 1
  else if firstDayOfYear (guess + 1) ≤ day then guess + 1
  else guess

/-- A day lies between the first day of its year and that of the next. -/
theorem yearOfDay_bounds (day : Int) :
    firstDayOfYear (yearOfDay day) ≤ day ∧ day < firstDayOfYear (yearOfDay day + 1) := by
  have near : 146097 * (400 * day / 146097) ≤ 400 * day ∧
      400 * day < 146097 * (400 * day / 146097) + 146097 := by omega
  unfold yearOfDay
  generalize 400 * day / 146097 = guess at near
  have := firstDayOfYear_mean guess
  have := firstDayOfYear_mean (guess + 1)
  by_cases below : day < firstDayOfYear guess
  · have := firstDayOfYear_add_le (guess - 1)
    simp only [below, if_true, Int.sub_add_cancel] at this ⊢
    exact ⟨by omega, trivial⟩
  · by_cases above : firstDayOfYear (guess + 1) ≤ day
    · have := firstDayOfYear_add_le (guess + 1)
      simp only [below, above, if_true, if_false]
      exact ⟨trivial, by omega⟩
    · simp only [below, above, if_false]
      omega

/-- The lengths of the months of a year. -/
def monthLengths (leap : Bool) : List Nat :=
  [31, if leap then 29 else 28, 31, 30, 31, 30, 31, 31, 30, 31, 30, 31]

/-- The month and the day in it, both counted from zero, of a day among months of these lengths. -/
def monthAndDay : List Nat → Nat → Nat × Nat
  | [], d => (0, d)
  | n :: ns, d =>
    if d < n then (0, d)
    else
      let (m, d) := monthAndDay ns (d - n)
      (m + 1, d)

/-- A date; months and days are counted from one. -/
structure Date where
  /-- The year; 0 comes before 1. -/
  year : Int
  /-- The month. -/
  month : Nat
  /-- The day of the month. -/
  day : Nat
deriving DecidableEq

namespace Date

/-- The date of a day. -/
def ofDay (day : Int) : Date :=
  let year := yearOfDay day
  let (m, d) := monthAndDay (monthLengths (isLeapYear year)) (day - firstDayOfYear year).toNat
  ⟨year, m + 1, d + 1⟩

/-- The day of a date, if the month has such a day. -/
def toDay? (d : Date) : Option Int :=
  let months := monthLengths (isLeapYear d.year)
  if 1 ≤ d.month ∧ 1 ≤ d.day ∧ d.day ≤ months.getD (d.month - 1) 0 then
    let before := (months.take (d.month - 1)).foldl (· + ·) 0
    some (firstDayOfYear d.year + (before + (d.day - 1) : Nat))
  else none

end Date

end Mailshot
