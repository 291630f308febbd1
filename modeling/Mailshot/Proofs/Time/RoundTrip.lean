import Mathlib.Data.List.TakeWhile
import Mailshot.Proofs.Time.Calendar
import Mailshot.Time.Reader

/-!
# Reading back the text of an instant

An instant is written with as many digits for its year as the year needs, but the strict reader
takes exactly four.  So the text of an instant is read as an instant if its year lies between 0 and
9999, and otherwise it is refused because of its first character, which is a sign.

A second that lasts two is told from the next one only at the end of a minute.  Everywhere else its
latter half has the text of the next second, so that it is read as that (`Instant.settled`), which
is as long after the beginning of the year 0 but another instant.  Both are said in
`Instant.ofText_text`.

The reader is followed from scan to scan: `Reader.bind_of_ok` passes one that took what it should,
and `Reader.number_digits` and `Reader.fraction_fractionChars` are the two scans that read numbers.
-/

set_option autoImplicit false

namespace Mailshot
namespace Instant

/-! ## Digits -/

theorem length_digits (width n : Nat) : (digits width n).length = width := by
  induction width generalizing n with
  | zero => rfl
  | succ width ih => rw [digits, List.length_append, ih, List.length_singleton]

theorem isDigit_of_mem_digits {width n : Nat} {c : Char} (h : c ∈ digits width n) :
    c.isDigit = true := by
  induction width generalizing n with
  | zero => cases h
  | succ width ih =>
    rw [digits, List.mem_append, List.mem_singleton] at h
    rcases h with h | rfl
    · exact ih h
    · rw [Nat.isDigit_digitChar, decide_eq_true_iff]
      exact Nat.mod_lt n (by decide)

/-- A number that fits is what its digits say. -/
theorem ofDigits_digits {width n : Nat} (h : n < 10 ^ width) :
    Decimal.ofDigits (digits width n) = n := by
  induction width generalizing n with
  | zero =>
    rw [Nat.pow_zero, Nat.lt_one_iff] at h
    rw [h]
    rfl
  | succ width ih =>
    have hfront := ih (n := n / 10) (by rw [Nat.pow_succ] at h; omega)
    have hlast := Nat.toNat_digitChar_sub_48_of_lt_ten (Nat.mod_lt n (by decide : 0 < 10))
    rw [Decimal.ofDigits] at hfront ⊢
    rw [digits, List.foldl_append, hfront]
    show 10 * (n / 10) + ((n % 10).digitChar.toNat - 48) = n
    rw [hlast]
    omega

namespace Reader

/-! ## Scans in a row -/

section Bind

variable {α β : Type} {x : Scan α} {f : α → Scan β} {cs cs' : List Char}

/-- Behind a scan that took something the next one goes on. -/
theorem bind_of_ok {a : α} (h : x cs = .ok (a, cs')) : (x >>= f) cs = f a cs' := by
  show Except.bind (x cs) (fun p => f p.1 p.2) = f a cs'
  rw [h]
  rfl

/-- A scan that finds a fault ends the reading. -/
theorem bind_of_error {fault : TimeFault} (h : x cs = .error fault) :
    (x >>= f) cs = .error fault := by
  show Except.bind (x cs) (fun p => f p.1 p.2) = .error fault
  rw [h]
  rfl

end Bind

theorem require_of_true {b : Bool} (h : b = true) (cs : List Char) :
    require b cs = .ok ((), cs) := by
  rw [h]
  rfl

theorem oneOf_of_mem {c : Char} {allowed : List Char} (h : c ∈ allowed) (rest : List Char) :
    oneOf allowed (c :: rest) = .ok ((), rest) := if_pos h

/-- A text has no fewer bytes than characters. -/
theorem length_le_byteCount (cs : List Char) : cs.length ≤ byteCount cs := by
  have hfrom : ∀ (cs : List Char) (n : Nat),
      n + cs.length ≤ cs.foldl (fun n c => n + c.utf8Size) n := by
    intro cs
    induction cs with
    | nil => exact fun n => Nat.le_refl n
    | cons c cs ih =>
      intro n
      have hpos : 0 < c.utf8Size := Char.utf8Size_pos c
      have hrest := ih (n + c.utf8Size)
      rw [List.foldl_cons, List.length_cons]
      omega
  have hall := hfrom cs 0
  rwa [Nat.zero_add] at hall

theorem atLeast_of_le {bytes : Nat} {cs : List Char} (h : bytes ≤ cs.length) :
    atLeast bytes cs = .ok ((), cs) :=
  if_neg (Nat.not_lt.2 (Nat.le_trans h (length_le_byteCount cs)))

/-! ## Numbers -/

/-- A number of a fixed width is read from its digits, whatever comes behind. -/
theorem number_digits {width n : Nat} (h : n < 10 ^ width) (rest : List Char) :
    number width width (digits width n ++ rest) = .ok (n, rest) := by
  have hlength := length_digits width n
  have htake : ((digits width n ++ rest).take width).takeWhile Char.isDigit = digits width n := by
    rw [List.take_left' hlength]
    exact List.takeWhile_eq_self_iff.2 fun _ => isDigit_of_mem_digits
  have hlong : ¬ byteCount (digits width n ++ rest) < width := by
    have hle := length_le_byteCount (digits width n ++ rest)
    rw [List.length_append, hlength] at hle
    omega
  rw [number, if_neg hlong]
  dsimp only
  rw [htake, hlength, if_neg (Nat.lt_irrefl width), ofDigits_digits h, List.drop_left' hlength]

/-- A number does not start with a sign. -/
theorem number_of_not_isDigit {min max : Nat} {c : Char} (h : c.isDigit = false)
    (hmin : 0 < min) {rest : List Char} (hlong : min ≤ (c :: rest).length) :
    number min max (c :: rest) = .error .invalid := by
  have hbytes := Nat.le_trans hlong (length_le_byteCount _)
  have hnone : ((c :: rest).take max).takeWhile Char.isDigit = [] := by
    cases max with
    | zero => rfl
    | succ max => rw [List.take_succ_cons, List.takeWhile_cons_of_neg (by rw [h]; decide)]
  rw [number, if_neg (Nat.not_lt.2 hbytes)]
  dsimp only
  rw [hnone]
  exact if_pos hmin

/-- Some digits behind a point are a fraction, up to a character that is no digit. -/
theorem fraction_digits {width n : Nat} (hn : n < 10 ^ width) (hpos : 0 < width) (hle : width ≤ 9)
    {c : Char} (hc : c.isDigit = false) (rest : List Char) :
    fraction ('.' :: (digits width n ++ c :: rest)) = .ok (n * 10 ^ (9 - width), c :: rest) := by
  have hlength := length_digits width n
  have hdigits : (digits width n ++ c :: rest).takeWhile Char.isDigit = digits width n := by
    rw [List.takeWhile_append_of_pos fun _ => isDigit_of_mem_digits,
      List.takeWhile_cons_of_neg (by rw [hc]; decide), List.append_nil]
  have hsome : (digits width n).isEmpty = false := by
    rw [List.isEmpty_eq_false_iff, ← List.length_pos_iff, hlength]
    exact hpos
  have hkept : (digits width n).take 9 = digits width n := List.take_of_length_le (by omega)
  rw [fraction]
  dsimp only
  rw [hdigits, hsome, hkept, hlength, ofDigits_digits hn, List.drop_left' hlength]
  simp

/-- A fraction is read as it was written, with none, three, six or nine digits. -/
theorem fraction_fractionChars {nano : Nat} (h : nano < 1000000000) {c : Char}
    (hc : c.isDigit = false) (hpoint : c ≠ '.') (rest : List Char) :
    fraction (fractionChars nano ++ c :: rest) = .ok (nano, c :: rest) := by
  rw [fractionChars]
  split
  · next hzero =>
    rw [hzero, List.nil_append, fraction]
    rintro rest' heq
    exact hpoint (List.cons.inj heq).1
  · split
    · next hmilli =>
      rw [List.cons_append, fraction_digits (by omega) (by decide) (by decide) hc]
      exact congrArg (fun n => Except.ok (n, c :: rest))
        (Nat.div_mul_cancel (Nat.dvd_of_mod_eq_zero hmilli))
    · split
      · next hmicro =>
        rw [List.cons_append, fraction_digits (by omega) (by decide) (by decide) hc]
        exact congrArg (fun n => Except.ok (n, c :: rest))
          (Nat.div_mul_cancel (Nat.dvd_of_mod_eq_zero hmicro))
      · rw [List.cons_append, fraction_digits (by omega) (by decide) (by decide) hc, Nat.sub_self,
          Nat.pow_zero, Nat.mul_one]

/-! ## The strict reader -/

/-- The parts of an instant are read from what is written for them, if there is such a date and such
a time of the day. -/
theorem strict_parts {year month day hour minute second nano : Nat} (hyear : year < 10000)
    (hmonth : month < 100) (hday : day < 100) (hhour : hour < 24) (hminute : minute < 60)
    (hsecond : second ≤ 60) (hnano : nano < 1000000000)
    (hdate : (⟨year, month, day⟩ : Date).toDay?.isSome = true) :
    strict (digits 4 year ++ '-' :: (digits 2 month ++ '-' :: (digits 2 day ++
      'T' :: (digits 2 hour ++ ':' :: (digits 2 minute ++ ':' :: (digits 2 second ++
      fractionChars nano ++ ['+', '0', '0', ':', '0', '0'])))))) =
        .ok (⟨⟨year, month, day⟩, hour, minute, second, nano, 0⟩, []) := by
  have htime : (decide (hour < 24) && decide (minute < 60) && decide (second ≤ 60)) = true := by
    simp [hhour, hminute, hsecond]
  rw [strict, bind_of_ok (atLeast_of_le (by simp [length_digits]; omega)),
    bind_of_ok (number_digits hyear _), bind_of_ok (oneOf_of_mem (by decide) _),
    bind_of_ok (number_digits hmonth _), bind_of_ok (oneOf_of_mem (by decide) _),
    bind_of_ok (number_digits hday _), bind_of_ok (require_of_true hdate _),
    bind_of_ok (oneOf_of_mem (by decide) _),
    bind_of_ok (number_digits (by omega) _), bind_of_ok (oneOf_of_mem (by decide) _),
    bind_of_ok (number_digits (by omega) _), bind_of_ok (oneOf_of_mem (by decide) _),
    List.append_assoc, bind_of_ok (number_digits (by omega) _),
    bind_of_ok (fraction_fractionChars hnano (by decide) (by decide) _),
    bind_of_ok (require_of_true htime _)]
  rfl

/-- A text that does not start with a digit is no instant. -/
theorem strict_of_not_isDigit {c : Char} (h : c.isDigit = false) {rest : List Char}
    (hlong : 18 ≤ rest.length) : strict (c :: rest) = .error .invalid := by
  rw [strict, bind_of_ok (atLeast_of_le (Nat.succ_le_succ hlong)),
    bind_of_error (number_of_not_isDigit h (by decide) (by rw [List.length_cons]; omega))]

end Reader

/-! ## The text of an instant -/

/-- The year that an instant lies in. -/
def year (t : Instant) : Int := yearOfDay t.day

/-- Whether the year of an instant is one of those that are written with four digits and no sign. -/
def HasPlainYear (t : Instant) : Prop := 0 ≤ t.year ∧ t.year ≤ 9999

instance (t : Instant) : Decidable t.HasPlainYear :=
  inferInstanceAs (Decidable (0 ≤ t.year ∧ t.year ≤ 9999))

/-- Whether an instant is told from the second behind it: its second lasts two at most where a
minute ends. -/
def IsSettled (t : Instant) : Prop := t.nano < 1000000000 ∨ t.second % 60 = 59

instance (t : Instant) : Decidable t.IsSettled :=
  inferInstanceAs (Decidable (t.nano < 1000000000 ∨ t.second % 60 = 59))

/-- The instant without a second that lasts two inside of a minute: the latter half of such a second
is the one behind it. -/
def settled (t : Instant) : Instant :=
  if h : t.IsSettled then t
  else
    have hbounds := And.intro t.nano_lt t.second_lt
    ⟨t.day, t.second + 1, t.nano - 1000000000, t.day_bounds, by unfold IsSettled at h; omega,
      by omega⟩

theorem settled_of_isSettled {t : Instant} (h : t.IsSettled) : t.settled = t := dif_pos h

theorem settled_of_not_isSettled {t : Instant} (h : ¬ t.IsSettled) :
    t.settled.day = t.day ∧ t.settled.second = t.second + 1 ∧
      t.settled.nano + 1000000000 = t.nano := by
  have hnano : 1000000000 ≤ t.nano := Nat.not_lt.1 fun hlt => h (.inl hlt)
  rw [settled, dif_neg h]
  exact ⟨rfl, rfl, Nat.sub_add_cancel hnano⟩

theorem isSettled_settled (t : Instant) : t.settled.IsSettled := by
  by_cases h : t.IsSettled
  · rwa [settled_of_isSettled h]
  · have hnano := t.nano_lt
    have hsettled := settled_of_not_isSettled h
    exact .inl (by omega)

/-- **Settling an instant leaves it as it is just if it is told from the second behind it.** -/
theorem settled_eq_iff {t : Instant} : t.settled = t ↔ t.IsSettled :=
  ⟨fun h => h ▸ isSettled_settled t, settled_of_isSettled⟩

/-- It lies on the same day. -/
theorem day_settled (t : Instant) : t.settled.day = t.day := by
  by_cases h : t.IsSettled
  · rw [settled_of_isSettled h]
  · exact (settled_of_not_isSettled h).1

/-- How many nanoseconds an instant lies behind the beginning of the year 0, if no second but the
one it lies in lasts two. -/
def nanoseconds (t : Instant) : Int := 1000000000 * (86400 * t.day + t.second) + t.nano

/-- It lies as far behind the beginning of the year 0. -/
theorem nanoseconds_settled (t : Instant) : t.settled.nanoseconds = t.nanoseconds := by
  by_cases h : t.IsSettled
  · rw [settled_of_isSettled h]
  · have hsettled := settled_of_not_isSettled h
    simp only [nanoseconds, hsettled.1]
    omega

theorem hasPlainYear_settled {t : Instant} : t.settled.HasPlainYear ↔ t.HasPlainYear := by
  rw [HasPlainYear, year, day_settled]
  rfl

/-- The parts of an instant as they are written: the latter half of a second that lasts two is the
second behind it, be it the 61st of its minute. -/
def parts (t : Instant) : Reader.Parts where
  date := Date.ofDay t.day
  hour := t.second / 3600
  minute := t.second / 60 % 60
  second := if 1000000000 ≤ t.nano then t.second % 60 + 1 else t.second % 60
  nano := if 1000000000 ≤ t.nano then t.nano - 1000000000 else t.nano
  offset := 0

/-- Settling an instant makes no difference to what is written. -/
theorem parts_settled (t : Instant) : t.settled.parts = t.parts := by
  by_cases h : t.IsSettled
  · rw [settled_of_isSettled h]
  · obtain ⟨hday, hsecond, hnano⟩ := settled_of_not_isSettled h
    have hlt := t.nano_lt
    have hminute : t.second % 60 ≠ 59 := fun heq => h (.inr heq)
    have hleap : 1000000000 ≤ t.nano := Nat.not_lt.1 fun hlt => h (.inl hlt)
    have hback : ¬ 1000000000 ≤ t.settled.nano := by omega
    simp only [parts, hday, hsecond, if_pos hleap, if_neg hback,
      Reader.Parts.mk.injEq, true_and, and_true]
    omega

/-- The parts of an instant are those of no other, if it is settled. -/
theorem toInstant?_parts {t : Instant} (h : t.HasPlainYear) (hsettled : t.IsSettled) :
    t.parts.toInstant? = some t := by
  have hday : t.parts.date.toDay? = some t.day := Date.toDay?_ofDay t.day
  have hyear : ¬ (t.parts.date.year < firstYear ∨ lastYear < t.parts.date.year ∨
      1440 ≤ t.parts.offset.natAbs) := by
    have hlow : 0 ≤ t.parts.date.year := h.1
    have hhigh : t.parts.date.year ≤ 9999 := h.2
    have hzero : t.parts.offset.natAbs = 0 := rfl
    rw [firstYear, lastYear, hzero]
    omega
  have hclock : (if t.parts.second = 60 then (59, 1000000000 + t.parts.nano)
      else (t.parts.second, t.parts.nano)) = (t.second % 60, t.nano) := by
    have hnano := t.nano_lt
    unfold IsSettled at hsettled
    simp only [parts]
    split
    · rw [if_pos (by omega), Prod.mk.injEq]
      omega
    · rw [if_neg (by omega)]
  have hsecond := t.second_lt
  have htotal : 86400 * t.day + (3600 * t.parts.hour + 60 * t.parts.minute + t.second % 60 : Nat) -
      60 * t.parts.offset = 86400 * t.day + t.second := by
    simp only [parts]
    omega
  have hfloor : (86400 * t.day + (t.second : Int)) / 86400 = t.day := by omega
  have hrest : ((86400 * t.day + (t.second : Int)) % 86400).toNat = t.second := by omega
  rw [Reader.Parts.toInstant?, hday, Option.bind_eq_bind, Option.bind_some, hclock]
  dsimp only
  rw [if_neg hyear, htotal, hfloor, hrest, ofParts?_self]

/-- The parts of an instant are read from its text. -/
theorem strict_chars {t : Instant} (h : t.HasPlainYear) :
    Reader.strict t.chars = .ok (t.parts, []) := by
  obtain ⟨hmonth, hday⟩ := Date.bounds_ofDay t.day
  have hlow : 0 ≤ (Date.ofDay t.day).year := h.1
  have hhigh : (Date.ofDay t.day).year ≤ 9999 := h.2
  have hsecond := t.second_lt
  have hnano := t.nano_lt
  have hdate : (⟨((Date.ofDay t.day).year.toNat : Nat), (Date.ofDay t.day).month,
      (Date.ofDay t.day).day⟩ : Date) = Date.ofDay t.day := by
    rw [Int.toNat_of_nonneg hlow]
  rw [chars, yearChars, if_pos ⟨hlow, hhigh⟩]
  refine (Reader.strict_parts (by omega) (by omega) (by omega) ?_ ?_ ?_ ?_ ?_).trans ?_
  · omega
  · omega
  · split <;> omega
  · split <;> omega
  · rw [hdate, Date.toDay?_ofDay]
    rfl
  · rw [hdate]
    rfl

/-- The text of any other instant starts with a sign. -/
theorem chars_of_not_hasPlainYear {t : Instant} (h : ¬ t.HasPlainYear) :
    ∃ sign rest, t.chars = sign :: rest ∧ sign.isDigit = false ∧ 18 ≤ rest.length := by
  have hyear : ¬ (0 ≤ (Date.ofDay t.day).year ∧ (Date.ofDay t.day).year ≤ 9999) := h
  rw [chars, yearChars, if_neg hyear]
  refine ⟨_, _, List.cons_append, ?_, ?_⟩
  · split <;> rfl
  · simp only [List.length_append, List.length_cons, length_digits]
    omega

/-- **A text is read as the instant that it was written for, once that is settled, just if the year
is written with four digits and no sign.** -/
theorem ofText_text (t : Instant) :
    ofText t.text = if t.HasPlainYear then .ok t.settled else .error .invalid := by
  rw [ofText, text, String.toList_ofList]
  split
  · next h =>
    have hparts : t.parts.toInstant? = some t.settled := by
      rw [← parts_settled]
      exact toInstant?_parts (hasPlainYear_settled.2 h) (isSettled_settled t)
    simp only [strict_chars h, bind, Except.bind, hparts]
    rfl
  · next h =>
    obtain ⟨sign, rest, hchars, hsign, hlong⟩ := chars_of_not_hasPlainYear h
    rw [hchars, Reader.strict_of_not_isDigit hsign hlong]
    rfl

/-- The last second of the year 9999 on a clock that is an hour slow. -/
def year10000 : Instant :=
  { start2024 with
    day := firstDayOfYear 10000
    second := 3599
    day_bounds := by decide
    second_lt := by decide }

/-- It can be written with four digits, but not by `text`. -/
theorem ofText_year10000 :
    ofText "9999-12-31T23:59:59-01:00" = .ok year10000 ∧
      year10000.text = "+10000-01-01T00:59:59+00:00" := by
  decide +kernel

/-- Half a second into the latter half of a second that lasts two, at the beginning of a year. -/
def lateStart2024 : Instant :=
  { start2024 with nano := 1500000000, nano_lt := by decide }

/-- It is read as half a second into the second behind that. -/
example :
    ofText lateStart2024.text = .ok lateStart2024.settled ∧
      lateStart2024.settled ≠ lateStart2024 ∧
      lateStart2024.text = "2024-01-01T00:00:01.500+00:00" := by
  decide +kernel

end Instant
end Mailshot
