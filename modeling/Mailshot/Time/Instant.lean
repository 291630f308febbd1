import Mailshot.Number.Decimal
import Mailshot.Time.Calendar

/-!
# Instants

An `Instant` is a point of universal time, exact to the nanosecond: a day, a second of that day and
a part of that second.  Any second may last two, so that its part reaches up to two thousand million
nanoseconds.

`Instant.text` writes an instant as RFC 3339 has it.  The latter half of a second that lasts two is
written as the second behind it, which is `:60` at the end of a minute; elsewhere it looks like the
second that really comes next.  The fraction takes none, three, six or nine digits, as many as it
needs, and the offset is written in figures.
-/

set_option autoImplicit false

namespace Mailshot

/-- The first year that instants reach. -/
def firstYear : Int := -262143

/-- The last year that instants reach. -/
def lastYear : Int := 262142

/-- A point of universal time. -/
structure Instant where
  /-- The day, as the calendar numbers it. -/
  day : Int
  /-- The second of the day. -/
  second : Nat
  /-- The nanoseconds that are past in that second. -/
  nano : Nat
  /-- The day lies in a year in reach. -/
  day_bounds : firstDayOfYear firstYear ≤ day ∧ day < firstDayOfYear (lastYear + 1)
  /-- A day has no more seconds. -/
  second_lt : second < 86400
  /-- No second lasts longer than two. -/
  nano_lt : nano < 2000000000
deriving DecidableEq

namespace Instant

/-- The instant of a day, a second and a part of it, if these are in range. -/
def ofParts? (day : Int) (second nano : Nat) : Option Instant :=
  if h : (firstDayOfYear firstYear ≤ day ∧ day < firstDayOfYear (lastYear + 1)) ∧ second < 86400 ∧
      nano < 2000000000 then
    some ⟨day, second, nano, h.1, h.2.1, h.2.2⟩
  else none

/-- Parts of an instant make up that instant. -/
theorem ofParts?_self (t : Instant) : ofParts? t.day t.second t.nano = some t := by
  simp [ofParts?, t.day_bounds, t.second_lt, t.nano_lt]

/-- The beginning of the year 2024. -/
def start2024 : Instant :=
  ⟨firstDayOfYear 2024, 0, 0, by decide, by decide, by decide⟩

instance : Inhabited Instant := ⟨start2024⟩

/-! ## Text -/

/-- The last `width` digits of a number. -/
def digits : Nat → Nat → List Char
  | 0, _ => []
  | width + 1, n => digits width (n / 10) ++ [Nat.digitChar (n % 10)]

/-- A year: four digits, and for a year that does not fit them a sign and at least four digits. -/
def yearChars (year : Int) : List Char :=
  if 0 ≤ year ∧ year ≤ 9999 then digits 4 year.toNat
  else
    let width := max 4 (Nat.toDigits 10 year.natAbs).length
    (if year < 0 then '-' else '+') :: digits width year.natAbs

/-- The fraction of a second, with its point. -/
def fractionChars (nano : Nat) : List Char :=
  if nano = 0 then []
  else if nano % 1000000 = 0 then '.' :: digits 3 (nano / 1000000)
  else if nano % 1000 = 0 then '.' :: digits 6 (nano / 1000)
  else '.' :: digits 9 nano

/-- The characters of an instant. -/
def chars (t : Instant) : List Char :=
  let date := Date.ofDay t.day
  let leap := 1000000000 ≤ t.nano
  yearChars date.year ++ '-' :: (digits 2 date.month ++ '-' :: (digits 2 date.day ++
    'T' :: (digits 2 (t.second / 3600) ++ ':' :: (digits 2 (t.second / 60 % 60) ++
    ':' :: (digits 2 (if leap then t.second % 60 + 1 else t.second % 60) ++
    fractionChars (if leap then t.nano - 1000000000 else t.nano) ++
    ['+', '0', '0', ':', '0', '0'])))))

/-- An instant as RFC 3339 writes it. -/
def text (t : Instant) : String := String.ofList t.chars

/-- An instant as the clock of a database shows it, which goes by whole seconds. -/
def stamp (t : Instant) : String :=
  let date := Date.ofDay t.day
  String.ofList (yearChars date.year ++ '-' :: (digits 2 date.month ++ '-' :: (digits 2 date.day ++
    ' ' :: (digits 2 (t.second / 3600) ++ ':' :: (digits 2 (t.second / 60 % 60) ++
    ':' :: digits 2 (t.second % 60))))))

end Instant

end Mailshot
