import Mailshot.Number.Finite64

/-!
# Decimal numerals as numbers

A decimal numeral stands for `digits * 10 ^ exponent`.  `Decimal.toFinite64?` is the nearest number
to that exact value, and nothing when the value is too large to have a finite one.

`Finite64.ofText?` reads a numeral written by a person: an optional sign, digits with at most one
point among or around them, and an optional power of ten.  Words for infinite or missing numbers
are not numerals.
-/

set_option autoImplicit false

namespace Mailshot

/-- The exact value `digits * 10 ^ exponent`, with a sign. -/
structure Decimal where
  /-- Whether the numeral starts with a minus sign. -/
  negative : Bool
  /-- All digits, the point left out. -/
  digits : Nat
  /-- The power of ten of the last digit. -/
  exponent : Int

namespace Decimal

/-- How many decimal digits a number has; none for zero. -/
def width (n : Nat) : Nat := if n = 0 then 0 else (Nat.toDigits 10 n).length

/-- The nearest number.

The value lies below `10 ^ (exponent + width)` and not below a tenth of that, so when this power is
far outside the range of the format the answer is known without computing the power. -/
def toFinite64? (d : Decimal) : Option Finite64 :=
  let top := d.exponent + (width d.digits : Int)
  if d.digits = 0 then Finite64.ofMagnitude? d.negative 0
  else if 310 < top then none
  else if top < -330 then Finite64.ofMagnitude? d.negative 0
  else if 0 ≤ d.exponent then
    Finite64.ofRatio? d.negative (d.digits * Nat.pow 10 d.exponent.toNat) 1
  else
    Finite64.ofRatio? d.negative d.digits (Nat.pow 10 (-d.exponent).toNat)

/-! ## Numerals -/

/-- The value of a run of decimal digits. -/
def ofDigits (cs : List Char) : Nat :=
  cs.foldl (fun n c => 10 * n + (c.toNat - '0'.toNat)) 0

/-- Splits off the leading decimal digits. -/
def spanDigits (cs : List Char) : List Char × List Char :=
  (cs.takeWhile Char.isDigit, cs.dropWhile Char.isDigit)

/-- Splits off a sign; the flag says whether it was a minus. -/
def spanSign : List Char → Bool × List Char
  | '-' :: cs => (true, cs)
  | '+' :: cs => (false, cs)
  | cs => (false, cs)

/-- What may follow the digits: nothing, or the mark of a power of ten and a whole number. -/
def power? : List Char → Option Int
  | [] => some 0
  | c :: cs =>
    if c = 'e' ∨ c = 'E' then
      let (negative, cs) := spanSign cs
      let (ds, rest) := spanDigits cs
      if ds.isEmpty || !rest.isEmpty then none
      else some (if negative then -(ofDigits ds : Int) else ofDigits ds)
    else none

/-- The digits behind a point, if there is one, and what follows. -/
def spanFraction : List Char → List Char × List Char
  | '.' :: cs => spanDigits cs
  | cs => ([], cs)

/-- Reads a whole text as a numeral. -/
def ofChars? (cs : List Char) : Option Decimal :=
  let (negative, cs) := spanSign cs
  let (whole, cs) := spanDigits cs
  let (fraction, cs) := spanFraction cs
  if whole.isEmpty && fraction.isEmpty then none
  else (power? cs).map fun p => ⟨negative, ofDigits (whole ++ fraction), p - fraction.length⟩

end Decimal

/-- The number that a text spells, if the text is a numeral with a finite value.  Blanks around the
numeral are not part of it. -/
def Finite64.ofText? (s : String) : Option Finite64 :=
  (Decimal.ofChars? s.toList).bind Decimal.toFinite64?

end Mailshot
