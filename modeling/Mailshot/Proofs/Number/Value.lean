import Mailshot.Proofs.Json.Number
import Mathlib.Algebra.Order.Field.Basic
import Mathlib.Data.Rat.Cast.Order
import Mathlib.Tactic.Ring

/-!
# The exact values of numbers

Numbers are ordered by an integer that counts units of the smallest positive number, and a text is
read as the number nearest to it.  Here both are put in terms of rational numbers.

* `Finite64.value` is what sign, exponent and fraction of the binary64 format stand for, and the
  order of numbers is the order of these values (`lt_iff`, `le_iff`).
* `Finite64.limit` is where the range ends, half a step above the greatest number.  Rounding leaves
  the range there and nowhere else (`le_roundRatio_iff`): a quotient is rounded on the grid that
  leaves it 53 binary places, and there is one grid only whose quotients may or may not come to the
  next power of two out of range (`le_rounded_iff`).
* So a text has no number just if it is no numeral or its exact value is not below that limit
  (`Finite64.ofText?_eq_none_iff`), however far its power of ten is out.
-/

set_option autoImplicit false

namespace Mailshot

namespace Finite64

/-! ## Values -/

/-- The exponent field. -/
def exponent (x : Finite64) : Nat := x.magnitude / 2 ^ 52

/-- The fraction field. -/
def fraction (x : Finite64) : Nat := x.magnitude % 2 ^ 52

/-- The exact absolute value: what exponent and fraction stand for in the binary64 format. -/
def size (x : Finite64) : ℚ :=
  if x.exponent = 0 then x.fraction * 2 ^ (-1074 : ℤ)
  else (2 ^ 52 + x.fraction) * 2 ^ ((x.exponent : ℤ) - 1075)

/-- The exact value. -/
def value (x : Finite64) : ℚ := if x.negative then -x.size else x.size

theorem size_eq (x : Finite64) : x.size = x.units * 2 ^ (-1074 : ℤ) := by
  have hunits : x.units =
      if x.exponent = 0 then x.fraction else (2 ^ 52 + x.fraction) * 2 ^ (x.exponent - 1) := rfl
  rw [size, hunits]
  split
  · rfl
  · next hexponent =>
    have hplace : (x.exponent : ℤ) - 1075 = (x.exponent - 1 : ℕ) + (-1074 : ℤ) := by omega
    simp only [hplace, zpow_add₀ (two_ne_zero : (2 : ℚ) ≠ 0), zpow_natCast, ← mul_assoc,
      Nat.cast_mul, Nat.cast_add, Nat.cast_pow, Nat.cast_ofNat]

/-- The exact value is a whole multiple of the smallest positive number. -/
theorem value_eq (x : Finite64) : x.value = x.scaled * 2 ^ (-1074 : ℤ) := by
  rw [value, scaled, size_eq]
  split
  · rw [Int.cast_neg, neg_mul, Int.cast_natCast]
  · rw [Int.cast_natCast]

theorem lt_iff (x y : Finite64) : x < y ↔ x.value < y.value := by
  rw [value_eq, value_eq, mul_lt_mul_iff_left₀ (zpow_pos two_pos _), Int.cast_lt]
  rfl

theorem le_iff (x y : Finite64) : x ≤ y ↔ x.value ≤ y.value := by
  rw [value_eq, value_eq, mul_le_mul_iff_left₀ (zpow_pos two_pos _), Int.cast_le]
  rfl

/-! ## Rounding out of range -/

theorem div_le_roundQuotient (n d : Nat) : n / d ≤ roundQuotient n d := by
  rw [roundQuotient]
  split
  · exact Nat.le_refl _
  · split
    · exact Nat.le_succ _
    · exact Nat.le_add_right _ _

theorem roundQuotient_le (n d : Nat) : roundQuotient n d ≤ n / d + 1 := by
  rw [roundQuotient]
  split
  · exact Nat.le_succ _
  · split
    · exact Nat.le_refl _
    · omega

/-- A quotient is rounded up to an even number from half a step below it on. -/
theorem le_roundQuotient_iff {n d m : Nat} (hd : 0 < d) (heven : m % 2 = 0) :
    m ≤ roundQuotient n d ↔ 2 * (m * d) ≤ 2 * n + d := by
  have hdiv := Nat.div_add_mod n d
  have hmod := Nat.mod_lt n hd
  rcases Nat.lt_trichotomy m (n / d + 1) with hle | rfl | hgt
  · have hmul : m * d ≤ d * (n / d) := by
      rw [Nat.mul_comm]
      exact Nat.mul_le_mul_left d (Nat.le_of_lt_succ hle)
    refine iff_of_true ((Nat.le_of_lt_succ hle).trans (div_le_roundQuotient n d)) ?_
    omega
  · have hmul : (n / d + 1) * d = d * (n / d) + d := by
      rw [Nat.succ_mul, Nat.mul_comm]
    rw [roundQuotient, hmul]
    split
    · omega
    · split <;> omega
  · have hmul : d * (n / d) + 2 * d ≤ m * d := by
      rw [Nat.mul_comm, ← Nat.add_mul]
      exact Nat.mul_le_mul_right d hgt
    refine iff_of_false (Nat.not_le_of_lt (Nat.lt_of_le_of_lt (roundQuotient_le n d) hgt)) ?_
    omega

section Places

/-- How many binary places are cut off a quotient that has 53 of them at least. -/
def placesOff (n den : Nat) : Nat := Nat.log2 (n / den) - 52

variable {n den : Nat}

theorem quotient_lt (n den : Nat) : n / (den * 2 ^ placesOff n den) < 2 ^ 53 := by
  rw [← Nat.div_div_eq_div_mul, Nat.div_lt_iff_lt_mul (Nat.two_pow_pos _), ← Nat.pow_add]
  have hlog : n / den < 2 ^ (Nat.log2 (n / den) + 1) := Nat.lt_log2_self
  have hle : Nat.log2 (n / den) + 1 ≤ 53 + placesOff n den := by
    unfold placesOff
    omega
  exact Nat.lt_of_lt_of_le hlog (Nat.pow_le_pow_right Nat.two_pos hle)

theorem le_quotient (h : 2 ^ 52 ≤ n / den) : 2 ^ 52 ≤ n / (den * 2 ^ placesOff n den) := by
  have hne : n / den ≠ 0 := Nat.ne_of_gt (Nat.lt_of_lt_of_le (Nat.two_pow_pos 52) h)
  have hlog : 52 ≤ Nat.log2 (n / den) := (Nat.le_log2 hne).2 h
  have hplaces : 52 + placesOff n den = Nat.log2 (n / den) := by
    unfold placesOff
    omega
  rw [← Nat.div_div_eq_div_mul, Nat.le_div_iff_mul_le (Nat.two_pow_pos _), ← Nat.pow_add, hplaces]
  exact Nat.log2_self_le hne

/-- The greater the quotient, the more is cut off. -/
theorem le_placesOff_iff {k : Nat} (hk : 0 < k) :
    k ≤ placesOff n den ↔ 2 ^ (k + 52) ≤ n / den := by
  by_cases hzero : n / den = 0
  · have hlog : Nat.log2 0 = 0 := Nat.log2_zero
    rw [placesOff, hzero, hlog]
    exact iff_of_false (Nat.not_le_of_lt hk) (Nat.not_le_of_lt (Nat.two_pow_pos _))
  · rw [← Nat.le_log2 hzero, placesOff]
    omega

/-- The rounded quotient comes to the magnitude of a power of two from half a step below it on, the
step being that of the quotients below this power. -/
theorem le_rounded_iff (e : Nat) (hden : 0 < den) :
    (e + 3) * 2 ^ 52 ≤
        placesOff n den * 2 ^ 52 + roundQuotient n (den * 2 ^ placesOff n den) ↔
      (2 ^ 54 - 1) * 2 ^ e ≤ n / den := by
  have hmore : e + 1 ≤ placesOff n den ↔ 2 ^ 53 * 2 ^ e ≤ n / den := by
    rw [le_placesOff_iff (k := e + 1) (Nat.succ_pos e), Nat.add_assoc, Nat.pow_add, Nat.mul_comm]
  have hmost : e + 2 ≤ placesOff n den ↔ 2 ^ 54 * 2 ^ e ≤ n / den := by
    rw [le_placesOff_iff (k := e + 2) (Nat.succ_pos _), Nat.add_assoc, Nat.pow_add, Nat.mul_comm]
  have hpos : 0 < 2 ^ e := Nat.two_pow_pos e
  have hlt := quotient_lt n den
  rcases Nat.lt_trichotomy (placesOff n den) (e + 1) with hfine | hgrid | hcoarse
  · -- the greatest quotient of this grid does not come to it
    have hupper := roundQuotient_le n (den * 2 ^ placesOff n den)
    have hless : ¬ 2 ^ 53 * 2 ^ e ≤ n / den := fun h => Nat.not_le_of_lt hfine (hmore.2 h)
    refine iff_of_false ?_ ?_
    · omega
    · omega
  · -- of this grid, it is the next power of two
    have hplaces : den * 2 ^ (e + 1) = 2 * (2 ^ e * den) := by
      rw [Nat.pow_succ]
      ring
    have hround := le_roundQuotient_iff (n := n) (d := den * 2 ^ (e + 1)) (m := 2 ^ 53)
      (Nat.mul_pos hden (Nat.two_pow_pos _)) (by decide)
    have hcarry : (e + 3) * 2 ^ 52 ≤ (e + 1) * 2 ^ 52 + roundQuotient n (den * 2 ^ (e + 1)) ↔
        2 ^ 53 ≤ roundQuotient n (den * 2 ^ (e + 1)) := by omega
    rw [hgrid, hcarry, hround, hplaces, Nat.le_div_iff_mul_le hden, Nat.mul_assoc]
    omega
  · -- the smallest quotient of this grid comes to it
    have hlower := div_le_roundQuotient n (den * 2 ^ placesOff n den)
    have hmuch := hmost.1 hcoarse
    have hleast : 2 ^ 52 ≤ n / (den * 2 ^ placesOff n den) := le_quotient (by omega)
    refine iff_of_true ?_ ?_
    · omega
    · omega

end Places

/-- Where the range ends: half a step above the greatest number. -/
def limit : Nat := (2 ^ 54 - 1) * 2 ^ 970

/-- **What is rounded out of range** is what lies there, or further. -/
theorem le_roundRatio_iff {num den : Nat} (hden : 0 < den) :
    2047 * 2 ^ 52 ≤ roundRatio num den ↔ limit * den ≤ num := by
  -- the ratio is looked at in units of the smallest positive number
  have hscaled (e k : Nat) :
      (e + k + 3) * 2 ^ 52 ≤ placesOff (num * 2 ^ k) den * 2 ^ 52 +
          roundQuotient (num * 2 ^ k) (den * 2 ^ placesOff (num * 2 ^ k) den) ↔
        (2 ^ 54 - 1) * 2 ^ e * den ≤ num := by
    rw [le_rounded_iff (e + k) hden, Nat.le_div_iff_mul_le hden, Nat.pow_add,
      ← Nat.mul_assoc, Nat.mul_right_comm, Nat.mul_le_mul_right_iff (Nat.two_pow_pos k)]
  exact hscaled 970 1074

/-- A ratio has no nearest number just if it is out of range. -/
theorem ofRatio?_eq_none_iff (negative : Bool) {num den : Nat} (hden : 0 < den) :
    ofRatio? negative num den = none ↔ (limit : ℚ) ≤ num / den := by
  have hpos : (0 : ℚ) < den := Nat.cast_pos.2 hden
  rw [le_div_iff₀ hpos, ← Nat.cast_mul, Nat.cast_le, ← le_roundRatio_iff hden, ofRatio?,
    ofMagnitude?]
  split
  · next h => exact iff_of_false (fun h => by cases h) (Nat.not_le_of_lt h)
  · next h => exact iff_of_true rfl (Nat.le_of_not_lt h)

theorem ofMagnitude?_zero (negative : Bool) : ofMagnitude? negative 0 ≠ none := by
  rw [ofMagnitude?, dif_pos (by decide)]
  exact Option.some_ne_none _

theorem one_le_limit : (1 : ℚ) ≤ limit := by
  rw [← Nat.cast_one, Nat.cast_le]
  decide +kernel

theorem limit_le_pow : (limit : ℚ) ≤ 10 ^ (310 : ℤ) := by
  have h : limit ≤ 10 ^ 310 := by decide +kernel
  exact_mod_cast h

end Finite64

/-! ## Decimal numerals -/

namespace Decimal

/-- The exact absolute value. -/
def size (d : Decimal) : ℚ := d.digits * 10 ^ d.exponent

theorem pow_width_le {n : Nat} (hn : n ≠ 0) :
    0 < width n ∧ 10 ^ (width n - 1) ≤ n ∧ n < 10 ^ width n := by
  rw [width, if_neg hn]
  have hpos : 0 < (Nat.toDigits 10 n).length := Nat.length_toDigits_pos
  refine ⟨hpos, Nat.le_of_not_lt fun hlt => ?_,
    (Nat.length_toDigits_le_iff (by decide) hpos).1 (Nat.le_refl _)⟩
  by_cases hone : (Nat.toDigits 10 n).length - 1 = 0
  · rw [hone] at hlt
    omega
  · have hle := (Nat.length_toDigits_le_iff (by decide) (Nat.pos_of_ne_zero hone)).2 hlt
    omega

/-- The place of the first digit tells the size up to a factor of ten. -/
theorem size_bounds {d : Decimal} (h : d.digits ≠ 0) :
    (10 : ℚ) ^ (d.exponent + width d.digits - 1) ≤ d.size ∧
      d.size < 10 ^ (d.exponent + width d.digits) := by
  obtain ⟨hpos, hlow, hhigh⟩ := pow_width_le h
  have hlow' : (10 : ℚ) ^ (width d.digits - 1) ≤ d.digits := by exact_mod_cast hlow
  have hhigh' : (d.digits : ℚ) < 10 ^ width d.digits := by exact_mod_cast hhigh
  have hscale : (0 : ℚ) < 10 ^ d.exponent := zpow_pos (by norm_num) _
  have hplace : d.exponent + width d.digits - 1 = (width d.digits - 1 : ℕ) + d.exponent := by omega
  rw [size]
  constructor
  · rw [hplace, zpow_add₀ (by norm_num), zpow_natCast]
    exact mul_le_mul_of_nonneg_right hlow' hscale.le
  · rw [add_comm, zpow_add₀ (by norm_num), zpow_natCast]
    exact mul_lt_mul_of_pos_right hhigh' hscale

/-- **A numeral has no nearest number just if its value is out of range.** -/
theorem toFinite64?_eq_none_iff (d : Decimal) :
    d.toFinite64? = none ↔ (Finite64.limit : ℚ) ≤ d.size := by
  rw [toFinite64?]
  by_cases hzero : d.digits = 0
  · rw [if_pos hzero, size, hzero, Nat.cast_zero, zero_mul]
    refine iff_of_false (Finite64.ofMagnitude?_zero _) (not_le.2 ?_)
    exact lt_of_lt_of_le one_pos Finite64.one_le_limit
  rw [if_neg hzero]
  obtain ⟨hlow, hhigh⟩ := size_bounds hzero
  have hten : (1 : ℚ) ≤ 10 := by norm_num
  split
  · next hfar =>
    refine iff_of_true rfl (Finite64.limit_le_pow.trans (le_trans ?_ hlow))
    exact zpow_le_zpow_right₀ hten (by omega)
  · split
    · next hnear =>
      refine iff_of_false (Finite64.ofMagnitude?_zero _) (not_le.2 (hhigh.trans_le ?_))
      refine le_trans ?_ Finite64.one_le_limit
      exact zpow_le_one_of_nonpos₀ hten (by omega)
    · split
      · next hwhole =>
        have hpower : (10 : ℚ) ^ d.exponent = 10 ^ d.exponent.toNat := by
          rw [← zpow_natCast, Int.toNat_of_nonneg hwhole]
        rw [Finite64.ofRatio?_eq_none_iff _ Nat.one_pos, size, hpower, Nat.cast_one, div_one,
          Nat.pow_eq, Nat.cast_mul, Nat.cast_pow, Nat.cast_ofNat]
      · next hpart =>
        have hpower : (10 : ℚ) ^ d.exponent = (10 ^ (-d.exponent).toNat)⁻¹ := by
          rw [← zpow_natCast, Int.toNat_of_nonneg (by omega), zpow_neg, inv_inv]
        have hpos : 0 < Nat.pow 10 (-d.exponent).toNat := Nat.pow_pos (by decide)
        rw [Finite64.ofRatio?_eq_none_iff _ hpos, size, hpower, div_eq_mul_inv, Nat.pow_eq,
          Nat.cast_pow, Nat.cast_ofNat]

/-! ## Texts -/

theorem numeric_of_spanSign {cs : List Char} (h : Numeric (spanSign cs).2) : Numeric cs := by
  rw [spanSign.eq_def] at h
  split at h
  · exact .cons rfl h
  · exact .cons rfl h
  · exact h

theorem numeric_of_spanDigits {cs : List Char} (h : Numeric (spanDigits cs).2) : Numeric cs := by
  have hdigits : Numeric (cs.takeWhile Char.isDigit) := fun c hc => by
    have hdigit : c.isDigit = true := List.mem_takeWhile_imp hc
    simp [Json.Reader.isNumeral, hdigit]
  rw [← List.takeWhile_append_dropWhile (p := Char.isDigit) (l := cs)]
  exact hdigits.append h

theorem numeric_of_spanFraction {cs : List Char} (h : Numeric (spanFraction cs).2) :
    Numeric cs := by
  rw [spanFraction.eq_def] at h
  split at h
  · exact .cons rfl (numeric_of_spanDigits h)
  · exact h

theorem power?_cons (c : Char) (cs : List Char) :
    power? (c :: cs) =
      if c = 'e' ∨ c = 'E' then
        let digits := spanDigits (spanSign cs).2
        if digits.1.isEmpty || !digits.2.isEmpty then none
        else some (if (spanSign cs).1 then -(ofDigits digits.1 : Int) else ofDigits digits.1)
      else none := rfl

theorem numeric_of_power? {cs : List Char} {p : Int} (h : power? cs = some p) : Numeric cs := by
  cases cs with
  | nil => exact numeric_nil
  | cons c cs =>
    rw [power?_cons] at h
    obtain ⟨hmark, h⟩ := Option.ite_none_right_eq_some.1 h
    obtain ⟨hends, -⟩ := Option.ite_none_left_eq_some.1 h
    have hc : Json.Reader.isNumeral c = true := by rcases hmark with rfl | rfl <;> rfl
    have hrest : (spanDigits (spanSign cs).2).2 = [] := by
      simp only [Bool.or_eq_true, not_or, Bool.not_eq_true, Bool.not_eq_false',
        List.isEmpty_iff] at hends
      exact hends.2
    refine .cons hc (numeric_of_spanSign (numeric_of_spanDigits ?_))
    rw [hrest]
    exact numeric_nil

theorem ofChars?_eq (cs : List Char) :
    ofChars? cs =
      let whole := spanDigits (spanSign cs).2
      let fraction := spanFraction whole.2
      if whole.1.isEmpty && fraction.1.isEmpty then none
      else (power? fraction.2).map fun p =>
        ⟨(spanSign cs).1, ofDigits (whole.1 ++ fraction.1), p - fraction.1.length⟩ := rfl

/-- **A numeral has no characters but digits, signs, a point and the mark of a power of ten**, so
that no word is one. -/
theorem numeric_of_ofChars? {cs : List Char} {d : Decimal} (h : ofChars? cs = some d) :
    Numeric cs := by
  rw [ofChars?_eq] at h
  obtain ⟨-, h⟩ := Option.ite_none_left_eq_some.1 h
  obtain ⟨p, hp, -⟩ := Option.map_eq_some_iff.1 h
  exact numeric_of_spanSign (numeric_of_spanDigits (numeric_of_spanFraction (numeric_of_power? hp)))

end Decimal

/-- **A text has no number just if it is no numeral, or one that is out of range.** -/
theorem Finite64.ofText?_eq_none_iff (s : String) :
    Finite64.ofText? s = none ↔
      ∀ d, Decimal.ofChars? s.toList = some d → (Finite64.limit : ℚ) ≤ d.size := by
  rw [ofText?, Option.bind_eq_none_iff]
  simp only [Decimal.toFinite64?_eq_none_iff]

end Mailshot
