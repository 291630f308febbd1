import Mailshot.Number.Decimal

/-!
# The shortest text of a number

A number is written with the fewest digits that still read back as the same number, and of several
such digit sequences with the nearest.  `Finite64.shortest` finds the digits by trying the grids
with one, two, … seventeen digits and testing the two grid points next to the value;
`Finite64.text` lays them out.
-/

set_option autoImplicit false

namespace Mailshot
namespace Finite64

/-- The decimal exponent of the first digit of `num / den`, both positive: the greatest `e` with
`10 ^ e ≤ num / den`. -/
def leadingExponent (num den : Nat) : Int :=
  if den ≤ num then (Decimal.width (num / den) : Int) - 1
  else -(Decimal.width ((den + num - 1) / num - 1) : Int)

/-- `digits * 10 ^ exponent` as a ratio. -/
def decimalRatio (digits : Nat) (exponent : Int) : Nat × Nat :=
  if 0 ≤ exponent then (digits * Nat.pow 10 exponent.toNat, 1)
  else (digits, Nat.pow 10 (-exponent).toNat)

/-- Whether a decimal reads back as this magnitude. -/
def readsBack (magnitude digits : Nat) (exponent : Int) : Bool :=
  let r := decimalRatio digits exponent
  roundRatio r.1 r.2 == magnitude

/-- The nearest decimal with last digit at `10 ^ exponent` that reads back as the magnitude, if one
of the two neighbours on that grid does. -/
def onGrid? (magnitude : Nat) (exponent : Int) : Option (Nat × Int) :=
  let num := unitsOf magnitude
  let scale := decimalRatio 1 exponent
  let n := num * scale.2
  let d := Nat.pow 2 1074 * scale.1
  let low := n / d
  match readsBack magnitude low exponent, readsBack magnitude (low + 1) exponent with
  | true, false => some (low, exponent)
  | false, true => some (low + 1, exponent)
  | true, true => some (roundQuotient n d, exponent)
  | false, false => none

/-- Moves trailing zeros of the digits into the exponent. -/
def dropZeros : Nat → Nat → Int → Nat × Int
  | 0, digits, exponent => (digits, exponent)
  | fuel + 1, digits, exponent =>
    if digits % 10 = 0 then dropZeros fuel (digits / 10) (exponent + 1) else (digits, exponent)

/-- The fewest digits that read back as a positive magnitude, and the exponent of the last one.
Seventeen digits always suffice. -/
def shortest (magnitude : Nat) : Nat × Int :=
  let e := leadingExponent (unitsOf magnitude) (Nat.pow 2 1074)
  match (List.range 17).findSome? (fun (i : Nat) => onGrid? magnitude (e - i)) with
  | some (digits, exponent) => dropZeros 18 digits exponent
  | none => (0, 0)

/-- Lays out digits whose last one stands at `10 ^ exponent`: positionally while the first digit
stands between `10 ^ -5` and `10 ^ 15`, and else in scientific notation with a signed exponent.
Positional text always shows a point. -/
def layout (digits : Nat) (exponent : Int) : String :=
  let ds := Nat.toDigits 10 digits
  let point : Int := ds.length + exponent
  if 0 < point ∧ point ≤ 16 then
    if 0 ≤ exponent then String.ofList (ds ++ List.replicate exponent.toNat '0') ++ ".0"
    else String.ofList (ds.take point.toNat) ++ "." ++ String.ofList (ds.drop point.toNat)
  else if -5 < point ∧ point ≤ 0 then
    "0." ++ String.ofList (List.replicate (-point).toNat '0' ++ ds)
  else
    let power := point - 1
    let mantissa :=
      match ds with
      | d :: [] => String.ofList [d]
      | d :: rest => String.ofList (d :: '.' :: rest)
      | [] => ""
    mantissa ++ (if power < 0 then "e-" else "e+") ++ toString power.natAbs

/-- The shortest text that reads back as the number. -/
def text (x : Finite64) : String :=
  let sign := if x.negative then "-" else ""
  if x.magnitude = 0 then sign ++ "0.0"
  else
    let d := shortest x.magnitude
    sign ++ layout d.1 d.2

end Finite64
end Mailshot
