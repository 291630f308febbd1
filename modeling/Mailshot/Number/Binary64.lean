import Mailshot.Number.Finite64

/-!
# Values of the binary64 format

Where a number comes from outside it can be any value of the format: a finite number, one of the two
infinities, or the value that is no number.  The infinities stand at the two ends of the order.
What is no number has no place in it and is not even the same as itself.
-/

set_option autoImplicit false

namespace Mailshot

/-- A value of the binary64 format. -/
inductive Binary64 where
  /-- A finite number. -/
  | finite (x : Finite64)
  /-- An infinity. -/
  | infinite (negative : Bool)
  /-- No number. -/
  | nan
deriving DecidableEq

namespace Binary64

instance : Inhabited Binary64 := ⟨.finite .zero⟩

/-- The 64 bits of the encoding. -/
def bits : Binary64 → Nat
  | finite x => x.bits
  | infinite negative => (if negative then Nat.pow 2 63 else 0) + 2047 * Nat.pow 2 52
  | nan => 2047 * Nat.pow 2 52 + Nat.pow 2 51

/-! ## Order -/

/-- Equality as numbers. -/
def same : Binary64 → Binary64 → Bool
  | finite a, finite b => a.same b
  | infinite a, infinite b => a == b
  | _, _ => false

/-- One value is less than another. -/
protected def Lt : Binary64 → Binary64 → Prop
  | finite a, finite b => a < b
  | finite _, infinite negative => negative = false
  | infinite negative, finite _ => negative = true
  | infinite a, infinite b => a = true ∧ b = false
  | _, _ => False

/-- One value is less than another or the same. -/
protected def Le : Binary64 → Binary64 → Prop
  | finite a, finite b => a ≤ b
  | finite _, infinite negative => negative = false
  | infinite negative, finite _ => negative = true
  | infinite a, infinite b => a = true ∨ b = false
  | _, _ => False

instance : LT Binary64 := ⟨Binary64.Lt⟩
instance : LE Binary64 := ⟨Binary64.Le⟩

instance (a b : Binary64) : Decidable (a < b) :=
  match a, b with
  | finite a, finite b => inferInstanceAs (Decidable (a < b))
  | finite _, infinite negative => inferInstanceAs (Decidable (negative = false))
  | infinite negative, finite _ => inferInstanceAs (Decidable (negative = true))
  | infinite a, infinite b => inferInstanceAs (Decidable (a = true ∧ b = false))
  | nan, finite _ | nan, infinite _ | nan, nan | finite _, nan | infinite _, nan => .isFalse id

instance (a b : Binary64) : Decidable (a ≤ b) :=
  match a, b with
  | finite a, finite b => inferInstanceAs (Decidable (a ≤ b))
  | finite _, infinite negative => inferInstanceAs (Decidable (negative = false))
  | infinite negative, finite _ => inferInstanceAs (Decidable (negative = true))
  | infinite a, infinite b => inferInstanceAs (Decidable (a = true ∨ b = false))
  | nan, finite _ | nan, infinite _ | nan, nan | finite _, nan | infinite _, nan => .isFalse id

end Binary64

end Mailshot
