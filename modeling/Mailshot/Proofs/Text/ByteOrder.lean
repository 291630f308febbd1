import Mathlib.Data.String.Basic

/-!
# The order of texts is that of their bytes

Texts are compared code point by code point, and the tables are read in this order.  The bytes that
a text is encoded as compare alike (`toUTF8_lt_iff`), since of two characters the greater one has
the greater bytes, in front of whatever follows.
-/

set_option autoImplicit false

namespace Mailshot

/-- The bytes of a text are those of its characters. -/
theorem toList_toUTF8 (s : String) :
    s.toUTF8.data.toList = s.toList.flatMap String.utf8EncodeChar := by
  conv => lhs; rw [← String.ofList_toList (s := s)]
  rw [String.toUTF8_eq_toByteArray]
  exact List.toList_data_toByteArray

/-- Bytes are compared as numbers, the first one first. -/
theorem ofNat_cons_lt_iff {a b : Nat} {l l' : List UInt8} (ha : a < 256) (hb : b < 256) :
    UInt8.ofNat a :: l < UInt8.ofNat b :: l' ↔ a < b ∨ a = b ∧ l < l' := by
  rw [List.cons_lt_cons_iff, UInt8.lt_iff_toNat_lt, ← UInt8.toNat_inj, UInt8.toNat_ofNat',
    UInt8.toNat_ofNat', Nat.mod_eq_of_lt ha, Nat.mod_eq_of_lt hb]

/-- The bytes of a greater character are greater, whatever follows. -/
theorem utf8EncodeChar_append_lt {c d : Char} (h : c < d) (l l' : List UInt8) :
    String.utf8EncodeChar c ++ l < String.utf8EncodeChar d ++ l' := by
  have hlt : c.val.toNat < d.val.toNat := h
  have hd : d.val.toNat < 0x110000 := by
    rcases d.valid with hd | hd
    · exact lt_trans hd (by decide)
    · exact hd.2
  -- every byte takes six bits more off the number
  have hdiv (n : Nat) : n / 4096 = n / 64 / 64 ∧ n / 262144 = n / 64 / 64 / 64 := by omega
  simp only [String.utf8EncodeChar, (hdiv _).1, (hdiv _).2]
  generalize c.val.toNat = v at hlt
  generalize d.val.toNat = w at hlt hd
  -- either has one to four bytes, and the greater character does not have fewer
  split_ifs
  all_goals first
    | omega
    | simp only [List.cons_append, List.nil_append]
      repeat rw [ofNat_cons_lt_iff (by omega) (by omega)]
      omega

theorem flatMap_utf8EncodeChar_lt {cs ds : List Char} (h : cs < ds) :
    cs.flatMap String.utf8EncodeChar < ds.flatMap String.utf8EncodeChar := by
  induction h with
  | @nil d ds =>
    obtain ⟨b, bs, hb⟩ := List.exists_cons_of_ne_nil (String.utf8EncodeChar_ne_nil (c := d))
    rw [List.flatMap_nil, List.flatMap_cons, hb]
    exact .nil
  | @cons c cs ds _ ih =>
    rw [List.flatMap_cons, List.flatMap_cons]
    exact List.append_left_lt ih
  | rel h =>
    rw [List.flatMap_cons, List.flatMap_cons]
    exact utf8EncodeChar_append_lt h _ _

/-- **Texts are in the order of their bytes.** -/
theorem toUTF8_lt_iff {s t : String} : s.toUTF8.data.toList < t.toUTF8.data.toList ↔ s < t := by
  rw [toList_toUTF8, toList_toUTF8, String.lt_iff_toList_lt]
  refine ⟨fun h => ?_, flatMap_utf8EncodeChar_lt⟩
  rcases lt_trichotomy s.toList t.toList with hlt | heq | hgt
  · exact hlt
  · rw [heq] at h
    exact absurd h (List.lt_irrefl _)
  · exact absurd h (List.lt_asymm (flatMap_utf8EncodeChar_lt hgt))

end Mailshot
