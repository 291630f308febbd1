import Mathlib.Data.List.TakeWhile
import Mathlib.Tactic.IntervalCases
import Mailshot.Json.Reader
import Mailshot.Text.Blank

/-!
# The text of a number

However a number is written, with or without a point or a power of ten, its text has characters of
a numeral only (`JsonNumber.numeric_text`).  So it has no blank, and the reader of documents takes
all of it for one numeral.

`JsonNumber.ReadsBack` says that this numeral stands for the number again.  It does for every whole
number (`JsonNumber.readsBack_natural`, `JsonNumber.readsBack_negative`).  Of the others it cannot
be said of all: their text is the shortest that has them as the nearest number, and the reader does
not always come to the nearest one.
-/

set_option autoImplicit false

namespace Mailshot

open Json.Reader (isNumeral)

/-- All characters can belong to a numeral. -/
def Numeric (cs : List Char) : Prop := ∀ c ∈ cs, isNumeral c = true

theorem numeric_nil : Numeric [] := fun _ h => by cases h

theorem Numeric.cons {c : Char} {cs : List Char} (hc : isNumeral c = true) (h : Numeric cs) :
    Numeric (c :: cs) := by
  intro d hd
  rcases List.mem_cons.1 hd with rfl | hd
  · exact hc
  · exact h d hd

theorem Numeric.append {as bs : List Char} (ha : Numeric as) (hb : Numeric bs) :
    Numeric (as ++ bs) := fun c hc => (List.mem_append.1 hc).elim (ha c) (hb c)

theorem Numeric.mono {as bs : List Char} (h : Numeric bs) (hs : as ⊆ bs) : Numeric as :=
  fun c hc => h c (hs hc)

/-- No blank belongs to a numeral. -/
theorem isBlank_of_isNumeral {c : Char} (h : isNumeral c = true) : isBlank c = false := by
  have hn : (48 ≤ c.toNat ∧ c.toNat ≤ 57) ∨ c.toNat = 45 ∨ c.toNat = 43 ∨ c.toNat = 46 ∨
      c.toNat = 101 ∨ c.toNat = 69 := by
    simp only [isNumeral, Bool.or_eq_true, beq_iff_eq] at h
    rcases h with ((((h | rfl) | rfl) | rfl) | rfl) | rfl
    · simp only [Char.isDigit, Bool.and_eq_true, decide_eq_true_eq] at h
      exact .inl ⟨UInt32.le_iff_toNat_le.1 h.1, UInt32.le_iff_toNat_le.1 h.2⟩
    all_goals decide
  simp only [isBlank, Bool.or_eq_false_iff, Bool.and_eq_false_iff, decide_eq_false_iff_not,
    beq_eq_false_iff_ne]
  omega

/-! ## The texts -/

theorem numeric_toDigits (n : Nat) : Numeric (Nat.toDigits 10 n) := fun c hc => by
  have hd : c.isDigit = true := Nat.isDigit_of_mem_toDigits (by decide) (by decide) hc
  simp [isNumeral, hd]

theorem numeric_toString (n : Nat) : Numeric (toString n).toList := by
  rw [Nat.toString_eq_ofList_toDigits, String.toList_ofList]
  exact numeric_toDigits n

/-- The fixed parts of a layout are checked by running the test. -/
theorem numeric_of_all {cs : List Char} (h : cs.all isNumeral = true) : Numeric cs :=
  List.all_eq_true.1 h

theorem numeric_zeros (n : Nat) : Numeric (List.replicate n '0') := fun c hc => by
  rw [List.eq_of_mem_replicate hc]
  decide

theorem Finite64.numeric_layout (digits : Nat) (exponent : Int) :
    Numeric (layout digits exponent).toList := by
  have hds := numeric_toDigits digits
  simp only [layout]
  split
  · split
    · rw [String.toList_append, String.toList_ofList]
      exact (hds.append (numeric_zeros _)).append (numeric_of_all (by decide))
    · simp only [String.toList_append, String.toList_ofList]
      exact ((hds.mono (List.take_subset _ _)).append (numeric_of_all (by decide))).append
        (hds.mono (List.drop_subset _ _))
  · split
    · simp only [String.toList_append, String.toList_ofList]
      exact (numeric_of_all (by decide)).append ((numeric_zeros _).append hds)
    · rw [String.toList_append, String.toList_append]
      refine (Numeric.append ?_ ?_).append (numeric_toString _)
      · split
        · next d heq =>
          rw [String.toList_ofList, ← heq]
          exact hds
        · next d rest _ heq =>
          rw [String.toList_ofList]
          rw [heq] at hds
          exact (Numeric.cons (by decide) (hds.mono (List.subset_cons_self d rest))).cons
            (hds d (List.mem_cons_self))
        · exact numeric_nil
      · split <;> exact numeric_of_all (by decide)

theorem Finite64.numeric_text (x : Finite64) : Numeric x.text.toList := by
  have hsign : Numeric (if x.negative then "-" else "").toList := by
    split
    · exact Numeric.cons (by decide) numeric_nil
    · exact numeric_nil
  simp only [text]
  split
  · rw [String.toList_append]
    exact hsign.append (numeric_of_all (by decide))
  · rw [String.toList_append]
    exact hsign.append (numeric_layout _ _)

namespace JsonNumber

theorem numeric_text (n : JsonNumber) : Numeric n.text.toList := by
  cases n with
  | natural n _ => exact numeric_toString n
  | negative n _ =>
    rw [text, String.toList_append]
    exact (Numeric.cons (by decide) numeric_nil).append (numeric_toString n)
  | real x => exact x.numeric_text

/-- The text of a number has no blanks to cut off. -/
theorem trim_text (n : JsonNumber) : trim n.text = n.text :=
  trim_eq_self fun _ hc => isBlank_of_isNumeral (n.numeric_text _ hc)

/-! ## Reading back -/

/-- A number is what its text is read as. -/
def ReadsBack (n : JsonNumber) : Prop :=
  (Numeral.ofChars? n.text.toList).bind ofNumeral? = some n

instance (n : JsonNumber) : Decidable n.ReadsBack :=
  inferInstanceAs (Decidable ((Numeral.ofChars? n.text.toList).bind ofNumeral? = some n))

theorem isDigit_of_mem_toDigits {n : Nat} {c : Char} (h : c ∈ Nat.toDigits 10 n) :
    c.isDigit = true := Nat.isDigit_of_mem_toDigits (by decide) (by decide) h

/-- The digits of a positive number do not start with a zero. -/
theorem head?_toDigits {n : Nat} (h : 0 < n) : (Nat.toDigits 10 n).head? ≠ some '0' := by
  induction n using Nat.strongRecOn with
  | ind n ih =>
    rcases Nat.lt_or_ge n 10 with hlt | hge
    · rw [Nat.toDigits_of_lt_base hlt, List.head?_cons]
      interval_cases n <;> decide
    · have hfirst := ih (n / 10) (by omega) (by omega)
      rw [Nat.toDigits_of_base_le (by decide) hge]
      cases hds : Nat.toDigits 10 (n / 10) with
      | nil => exact absurd hds Nat.toDigits_ne_nil
      | cons d ds =>
        rw [hds] at hfirst
        exact hfirst

/-- A whole number is taken in one piece. -/
theorem spanWhole?_toDigits (n : Nat) :
    spanWhole? (Nat.toDigits 10 n) = some (Nat.toDigits 10 n, []) := by
  rcases Nat.eq_zero_or_pos n with rfl | hpos
  · rfl
  · have hhead := head?_toDigits hpos
    have htake : (Nat.toDigits 10 n).takeWhile Char.isDigit = Nat.toDigits 10 n :=
      List.takeWhile_eq_self_iff.2 fun _ => isDigit_of_mem_toDigits
    have hdrop : (Nat.toDigits 10 n).dropWhile Char.isDigit = [] :=
      List.dropWhile_eq_nil_iff.2 fun _ => isDigit_of_mem_toDigits
    have hne : (Nat.toDigits 10 n).isEmpty = false := by
      rw [List.isEmpty_eq_false_iff]
      exact Nat.toDigits_ne_nil
    rw [spanWhole?]
    · simp only [Decimal.spanDigits, htake, hdrop, hne]
      rfl
    · intro cs hcs
      rw [hcs] at hhead
      exact hhead rfl

/-- More digits make a greater number. -/
theorem le_ofDigitChars (ds : List Char) (n : Nat) : n ≤ Nat.ofDigitChars 10 ds n := by
  induction ds generalizing n with
  | nil => exact Nat.le_refl n
  | cons d ds ih =>
    rw [Nat.ofDigitChars_cons]
    exact Nat.le_trans (by omega) (ih _)

/-- Digits are collected as long as they fit. -/
theorem collect_eq {significand taken : Nat} {ds : List Char}
    (h : Nat.ofDigitChars 10 ds significand < Nat.pow 2 64) :
    collect significand taken ds =
      (Nat.ofDigitChars 10 ds significand, taken + ds.length) := by
  induction ds generalizing significand taken with
  | nil => rfl
  | cons d ds ih =>
    rw [Nat.ofDigitChars_cons] at h ⊢
    rw [collect, if_pos (Nat.lt_of_le_of_lt (le_ofDigitChars ds _) h), ih h, List.length_cons,
      Nat.add_assoc, Nat.add_comm 1]

theorem ofNumeral?_whole {n : Nat} (minus : Bool) (h : n < Nat.pow 2 64) :
    ofNumeral? ⟨minus, Nat.toDigits 10 n, none, none⟩ = some (ofWhole minus n h) := by
  have hvalue : Nat.ofDigitChars 10 (Nat.toDigits 10 n) 0 = n := Nat.ofDigitChars_ten_toDigits
  have hcollect : collect 0 0 (Nat.toDigits 10 n) = (n, 0 + (Nat.toDigits 10 n).length) := by
    rw [collect_eq (by rwa [hvalue]), hvalue]
  simp only [ofNumeral?, hcollect, Nat.zero_add, Nat.sub_self]
  rw [dif_pos ⟨trivial, h⟩]

/-- Every whole number is read back. -/
theorem readsBack_natural (n : Nat) (fits : n < Nat.pow 2 64) : (natural n fits).ReadsBack := by
  have hparts : Numeral.ofChars? (Nat.toDigits 10 n) =
      some ⟨false, Nat.toDigits 10 n, none, none⟩ := by
    rw [Numeral.ofChars?, spanWhole?_toDigits]
    · rfl
    · intro cs hcs
      have hdigit := isDigit_of_mem_toDigits (n := n) (c := '-') (hcs ▸ List.mem_cons_self)
      cases hdigit
  rw [ReadsBack, text, Nat.toString_eq_ofList_toDigits, String.toList_ofList, hparts,
    Option.bind_some, ofNumeral?_whole false fits]
  rfl

theorem readsBack_negative (n : Nat) (fits : 0 < n ∧ n ≤ Nat.pow 2 63) :
    (negative n fits).ReadsBack := by
  have hlt : n < Nat.pow 2 64 := Nat.lt_of_le_of_lt fits.2 (by decide)
  have hparts : Numeral.ofChars? ('-' :: Nat.toDigits 10 n) =
      some ⟨true, Nat.toDigits 10 n, none, none⟩ := by
    simp only [Numeral.ofChars?, spanWhole?_toDigits]
    rfl
  have htext : (text (negative n fits)).toList = '-' :: Nat.toDigits 10 n := by
    rw [text, String.toList_append, Nat.toString_eq_ofList_toDigits,
      String.toList_ofList (l := Nat.toDigits 10 n)]
    rfl
  rw [ReadsBack, htext, hparts, Option.bind_some, ofNumeral?_whole true hlt, ofWhole, if_pos rfl,
    dif_pos fits]

/-- So all that is to be shown of some numbers is that those among them are read back that are not
whole. -/
theorem readsBack_of_real {l : List JsonNumber} (h : ∀ x, real x ∈ l → (real x).ReadsBack)
    (n : JsonNumber) (hn : n ∈ l) : n.ReadsBack := by
  cases n with
  | natural n fits => exact readsBack_natural n fits
  | negative n fits => exact readsBack_negative n fits
  | real x => exact h x hn

/-- A text that is read as a numeral starts with a minus sign or a digit. -/
theorem isNumeral_head {c : Char} {cs : List Char} {n : Numeral}
    (h : Numeral.ofChars? (c :: cs) = some n) : c = '-' ∨ c.isDigit = true := by
  by_contra hnot
  obtain ⟨hminus, hdigit⟩ := not_or.1 hnot
  have hspan : spanWhole? (c :: cs) = none := by
    rw [spanWhole?]
    · simp [Decimal.spanDigits, hdigit]
    · rintro cs' heq
      exact hdigit (by rw [(List.cons.inj heq).1]; rfl)
  rw [Numeral.ofChars?, hspan] at h
  · cases h
  · exact fun cs' heq => hminus (List.cons.inj heq).1

end JsonNumber
end Mailshot
