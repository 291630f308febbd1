import Mailshot.Number.Shortest

/-!
# Numbers of a JSON text

A number of a JSON text is kept in one of three forms.  Whole numbers that fit 64 bits keep their
exact value, with or without a minus sign; everything else is a binary64 number.  So `80` and
`80.0` are different numbers with different texts, and minus zero, which no whole number form has,
is a binary64 number.

Reading collects the digits in a significand of 64 bits.  The first digit that does not fit ends the
collection: later digits of the whole part only raise the power of ten, later ones of the fraction
are dropped.  The significand is then scaled by one multiplication or division with a power of ten,
each step rounding for itself, so a numeral with many digits does not always get the number nearest
to it.  A numeral too large for a finite number is out of range.
-/

set_option autoImplicit false

namespace Mailshot

/-- A number of a JSON text. -/
inductive JsonNumber where
  /-- A whole number of 64 bits without a sign. -/
  | natural (n : Nat) (fits : n < Nat.pow 2 64)
  /-- The negative of a whole number that fits 64 bits with a sign. -/
  | negative (n : Nat) (fits : 0 < n ∧ n ≤ Nat.pow 2 63)
  /-- Any other number. -/
  | real (x : Finite64)
deriving DecidableEq

namespace JsonNumber

/-- How the number is written. -/
def text : JsonNumber → String
  | natural n _ => toString n
  | negative n _ => "-" ++ toString n
  | real x => x.text

/-- The nearest binary64 number. -/
def toFinite64 : JsonNumber → Finite64
  | natural n _ => (Finite64.ofRatio? false n 1).getD .zero
  | negative n _ => (Finite64.ofRatio? true n 1).getD .zero
  | real x => x

/-- A count as a number of a JSON text; counts here never reach 64 bits. -/
def ofNat (n : Nat) : JsonNumber :=
  if h : n < Nat.pow 2 64 then natural n h else real ((Finite64.ofRatio? false n 1).getD .zero)

/-! ## Scaling -/

/-- The number nearest to `10 ^ k`, for a power in range. -/
def powerOfTen (k : Nat) : Finite64 := (Finite64.ofRatio? false (Nat.pow 10 k) 1).getD .zero

/-- Divides by `10 ^ k`, in steps of `10 ^ 308` while `k` is greater than that. -/
def scaleDown (x : Finite64) (k : Nat) : Finite64 :=
  if k ≤ 308 then (x.div? (powerOfTen k)).getD .zero
  else if x.magnitude = 0 then x
  else scaleDown ((x.div? (powerOfTen 308)).getD .zero) (k - 308)
termination_by k

/-- The significand scaled by a power of ten; nothing if that is out of range. -/
def scale? (significand : Nat) (exponent : Int) : Option Finite64 :=
  (Finite64.ofRatio? false significand 1).bind fun x =>
    if exponent < 0 then some (scaleDown x (-exponent).toNat)
    else if x.magnitude = 0 then some x
    else if 308 < exponent then none
    else x.mul? (powerOfTen exponent.toNat)

/-- A binary64 number from sign, significand and power of ten; nothing if it is out of range. -/
def ofParts? (minus : Bool) (significand : Nat) (exponent : Int) : Option JsonNumber :=
  (scale? significand exponent).map fun x => real (if minus then x.neg else x)

/-! ## Collecting digits -/

/-- Appends digits to a significand up to the first that would not fit 64 bits, and counts those
appended. -/
def collect (significand taken : Nat) : List Char → Nat × Nat
  | [] => (significand, taken)
  | c :: cs =>
    let next := 10 * significand + (c.toNat - '0'.toNat)
    if next < Nat.pow 2 64 then collect next (taken + 1) cs else (significand, taken)

/-- A whole number, in the form its size allows. -/
def ofWhole (minus : Bool) (n : Nat) (fits : n < Nat.pow 2 64) : JsonNumber :=
  if minus then
    if h : 0 < n ∧ n ≤ Nat.pow 2 63 then negative n h
    else real ((Finite64.ofRatio? true n 1).getD .zero)
  else natural n fits

/-! ## Numerals -/

/-- The parts of a numeral. -/
structure Numeral where
  /-- Whether it starts with a minus sign. -/
  minus : Bool
  /-- The digits in front of the point. -/
  whole : List Char
  /-- The digits behind the point; nothing if there is no point. -/
  fraction : Option (List Char)
  /-- The power of ten behind the mark, with its sign; nothing if there is no mark. -/
  power : Option (Bool × List Char)

/-- The number of a numeral; nothing if it is out of range. -/
def ofNumeral? (n : Numeral) : Option JsonNumber :=
  let (significand, taken) := collect 0 0 n.whole
  let spilled := n.whole.length - taken
  match n.fraction, n.power with
  | none, none =>
    if h : spilled = 0 ∧ significand < Nat.pow 2 64 then some (ofWhole n.minus significand h.2)
    else ofParts? n.minus significand spilled
  | fraction, power =>
    let (significand, placed) := collect significand 0 (fraction.getD [])
    let exponent : Int := (spilled : Int) - placed
    match power with
    | none => ofParts? n.minus significand exponent
    | some (down, ds) =>
      let p := Decimal.ofDigits ds
      if p < Nat.pow 2 31 then
        ofParts? n.minus significand (if down then exponent - p else exponent + p)
      else if significand = 0 ∨ down then ofParts? n.minus 0 0
      else none

/-- Takes the whole digits of a numeral: a single zero or digits that do not start with one. -/
def spanWhole? : List Char → Option (List Char × List Char)
  | '0' :: cs =>
    match cs with
    | [] => some (['0'], [])
    | c :: _ => if c.isDigit then none else some (['0'], cs)
  | cs =>
    let (ds, rest) := Decimal.spanDigits cs
    if ds.isEmpty then none else some (ds, rest)

/-- Takes the fraction of a numeral, which needs a digit behind its point. -/
def spanPoint? : List Char → Option (Option (List Char) × List Char)
  | '.' :: cs =>
    let (ds, rest) := Decimal.spanDigits cs
    if ds.isEmpty then none else some (some ds, rest)
  | cs => some (none, cs)

/-- Takes the power of ten of a numeral, which needs a digit and ends it. -/
def spanPower? : List Char → Option (Option (Bool × List Char))
  | [] => some none
  | c :: cs =>
    if c = 'e' ∨ c = 'E' then
      let (down, cs) := Decimal.spanSign cs
      let (ds, rest) := Decimal.spanDigits cs
      if ds.isEmpty || !rest.isEmpty then none else some (some (down, ds))
    else none

/-- Takes a text apart as a numeral of a JSON text. -/
def Numeral.ofChars? (cs : List Char) : Option Numeral :=
  let (minus, cs) :=
    match cs with
    | '-' :: cs => (true, cs)
    | cs => (false, cs)
  (spanWhole? cs).bind fun (whole, cs) =>
  (spanPoint? cs).bind fun (fraction, cs) =>
  (spanPower? cs).map fun power => ⟨minus, whole, fraction, power⟩

end JsonNumber

end Mailshot
