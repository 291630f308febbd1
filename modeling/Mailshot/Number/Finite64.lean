/-!
# Finite binary64 numbers

The numbers of this library are the finite values of the IEEE 754 format with 53 bits of precision:
a sign and a magnitude, where the magnitude is the lower 63 bits of the usual encoding.  Every such
value is a whole multiple of `2 ^ -1074`, so its exact size is a natural number, `units`, and the
order of the numbers is the order of the integers `scaled`.  The two zeros are different numbers
with one place in that order.

`roundRatio` is the only source of new magnitudes: it rounds an exact ratio to the nearest
representable one, ties to even.  Multiplication and division go through it.
-/

set_option autoImplicit false

namespace Mailshot

/-- A finite number of the binary64 format. -/
structure Finite64 where
  /-- Whether the sign bit is set. -/
  negative : Bool
  /-- The exponent and fraction fields, as one number. -/
  magnitude : Nat
  /-- An exponent field of all ones is kept out: it would stand for an infinity or for no number. -/
  finite : magnitude < 2047 * Nat.pow 2 52
deriving DecidableEq

namespace Finite64

/-- Positive zero. -/
def zero : Finite64 := ⟨false, 0, by decide⟩

instance : Inhabited Finite64 := ⟨zero⟩

/-- The 64 bits of the encoding. -/
def bits (x : Finite64) : Nat := (if x.negative then Nat.pow 2 63 else 0) + x.magnitude

/-- The number with the other sign. -/
def neg (x : Finite64) : Finite64 := { x with negative := !x.negative }

/-! ## Exact size and order -/

/-- The exact value of a magnitude in units of `2 ^ -1074`, the smallest positive number. -/
def unitsOf (magnitude : Nat) : Nat :=
  let exponent := magnitude / Nat.pow 2 52
  let fraction := magnitude % Nat.pow 2 52
  if exponent = 0 then fraction else (Nat.pow 2 52 + fraction) * Nat.pow 2 (exponent - 1)

/-- The exact absolute value in units of `2 ^ -1074`. -/
def units (x : Finite64) : Nat := unitsOf x.magnitude

/-- The exact value in units of `2 ^ -1074`. -/
def scaled (x : Finite64) : Int := if x.negative then -(x.units : Int) else x.units

instance : LT Finite64 := ⟨fun a b => a.scaled < b.scaled⟩
instance : LE Finite64 := ⟨fun a b => a.scaled ≤ b.scaled⟩
instance (a b : Finite64) : Decidable (a < b) := inferInstanceAs (Decidable (a.scaled < b.scaled))
instance (a b : Finite64) : Decidable (a ≤ b) := inferInstanceAs (Decidable (a.scaled ≤ b.scaled))

/-- Equality as numbers: unlike equality of the two fields it does not tell the zeros apart. -/
def same (a b : Finite64) : Bool := decide (a.scaled = b.scaled)

/-! ## Rounding -/

/-- The whole number nearest to `n / d`; of two equally near ones the even one. -/
def roundQuotient (n d : Nat) : Nat :=
  let q := n / d
  let r := 2 * (n % d)
  if r < d then q else if d < r then q + 1 else q + q % 2

/-- The magnitude nearest to `num / den`, ties to even.  The result can exceed the finite range.

With `k` binary places cut off, a quotient `r` on that coarser grid has the encoding
`k * 2 ^ 52 + r`: the leading bit of `r` carries into the exponent field, and so does a rounding
that reaches the next power of two. -/
def roundRatio (num den : Nat) : Nat :=
  let k := Nat.log2 (num * Nat.pow 2 1074 / den) - 52
  k * Nat.pow 2 52 + roundQuotient (num * Nat.pow 2 1074) (den * Nat.pow 2 k)

/-- A number from its sign and magnitude, if the magnitude is finite. -/
def ofMagnitude? (negative : Bool) (magnitude : Nat) : Option Finite64 :=
  if h : magnitude < 2047 * Nat.pow 2 52 then some ⟨negative, magnitude, h⟩ else none

/-- The number nearest to `num / den`, unless that is out of range. -/
def ofRatio? (negative : Bool) (num den : Nat) : Option Finite64 :=
  ofMagnitude? negative (roundRatio num den)

/-- The product, rounded; nothing if it is out of range. -/
def mul? (a b : Finite64) : Option Finite64 :=
  ofRatio? (a.negative != b.negative) (a.units * b.units) (Nat.pow 2 2148)

/-- The quotient, rounded; nothing if it is out of range.  The divisor must not be zero. -/
def div? (a b : Finite64) : Option Finite64 :=
  ofRatio? (a.negative != b.negative) a.units b.units

end Finite64

end Mailshot
