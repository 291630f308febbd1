import Mathlib.Data.List.TakeWhile
import Mailshot.Mail.Redaction

/-!
# What a secret looks like

A `Secret` looks at the beginning of a text and says how much of it is a secret.  Here the three
kinds of secrets are described as texts of their own, without a text that they stand in:
`IsTwoPartKey`, `IsPlainKey` and `IsBearerToken`.  `Secret.Finds` ties the two together: what is
found at the beginning of a text is a secret, and if the text begins with a secret, however long,
then at least that much is found.  So what is found is the longest secret that the text begins with.

The runs that a secret is made of end by themselves: neither a dot nor a blank can belong to the run
in front of it, and there is only one way to take a secret apart.
-/

set_option autoImplicit false

namespace Mailshot
namespace Redaction

/-! ## Secrets as texts -/

/-- A text of at least so many characters, all of one kind. -/
structure IsRun (kind : Char → Bool) (least : Nat) (cs : List Char) : Prop where
  /-- It is long enough. -/
  least_le : least ≤ cs.length
  /-- All characters are of the kind. -/
  of_mem : ∀ c ∈ cs, kind c = true

/-- A key of two parts with a dot between them. -/
def IsTwoPartKey (m : List Char) : Prop :=
  ∃ first second, IsRun isPartChar 16 first ∧ IsRun isPartChar 16 second ∧
    m = "SG.".toList ++ (first ++ '.' :: second)

/-- A key of letters and digits. -/
def IsPlainKey (m : List Char) : Prop := ∃ key, IsRun isKeyChar 24 key ∧ m = "key-".toList ++ key

/-- A token with the word in front of it that announces one. -/
def IsBearerToken (m : List Char) : Prop :=
  ∃ gap token, IsRun isBlank 1 gap ∧ IsRun isTokenChar 16 token ∧
    m = "Bearer".toList ++ (gap ++ token)

/-- A key of either kind. -/
def IsKey (m : List Char) : Prop := IsTwoPartKey m ∨ IsPlainKey m

/-- A secret of any kind. -/
def IsSecret (m : List Char) : Prop := IsKey m ∨ IsBearerToken m

/-! ## Kinds of characters -/

theorem isTokenChar_of_isPartChar {c : Char} (h : isPartChar c = true) : isTokenChar c = true := by
  simp only [isPartChar, isTokenChar, Bool.or_eq_true] at h ⊢
  exact h.imp_left (·.imp_left .inl)

theorem isTokenChar_of_isKeyChar {c : Char} (h : isKeyChar c = true) : isTokenChar c = true := by
  simp only [isKeyChar, isTokenChar, Bool.or_eq_true] at h ⊢
  exact .inl (.inl (.inl h))

theorem bounds_of_isAlphanum {c : Char} (h : c.isAlphanum = true) :
    48 ≤ c.toNat ∧ c.toNat ≤ 122 := by
  have between {a b : Char} (ha : a.val ≤ c.val) (hb : c.val ≤ b.val) :
      a.toNat ≤ c.toNat ∧ c.toNat ≤ b.toNat :=
    ⟨UInt32.le_iff_toNat_le.1 ha, UInt32.le_iff_toNat_le.1 hb⟩
  have hkinds : ((decide (c.val ≥ 'A'.val ∧ c.val ≤ 'Z'.val) ||
      (decide (c.val ≥ 'a'.val) && decide (c.val ≤ 'z'.val))) ||
      (decide (c.val ≥ '0'.val) && decide (c.val ≤ '9'.val))) = true := h
  simp only [Bool.or_eq_true, Bool.and_eq_true, decide_eq_true_eq] at hkinds
  rcases hkinds with (⟨ha, hb⟩ | ⟨ha, hb⟩) | ⟨ha, hb⟩
  all_goals exact (between ha hb).imp (Nat.le_trans (by decide)) (Nat.le_trans · (by decide))

/-- No blank belongs to a token. -/
theorem isBlank_eq_false_of_isTokenChar {c : Char} (h : isTokenChar c = true) :
    isBlank c = false := by
  simp only [isTokenChar, Bool.or_eq_true, beq_iff_eq] at h
  rcases h with ((h | rfl) | rfl) | rfl
  · have hbounds := bounds_of_isAlphanum h
    simp only [isBlank, Bool.or_eq_false_iff, Bool.and_eq_false_iff, decide_eq_false_iff_not,
      beq_eq_false_iff_ne]
    omega
  all_goals decide

/-- A text of the characters of a token has no others. -/
theorem notMem_of_isTokenChar {c : Char} {m : List Char} (hm : ∀ d ∈ m, isTokenChar d = true)
    (hc : isTokenChar c = false) : c ∉ m := fun hmem => by
  rw [hm c hmem] at hc
  cases hc

/-- Every character of a key can belong to a token. -/
theorem IsKey.isTokenChar_of_mem {m : List Char} (h : IsKey m) :
    ∀ c ∈ m, isTokenChar c = true := by
  have hletters : ∀ c ∈ "SG.".toList ++ "key-".toList, isTokenChar c = true :=
    List.all_eq_true.1 (by decide)
  intro c hc
  rcases h with ⟨first, second, hfirst, hsecond, rfl⟩ | ⟨key, hkey, rfl⟩
  · rcases List.mem_append.1 hc with hc | hc
    · exact hletters c (List.mem_append_left _ hc)
    · rcases List.mem_append.1 hc with hc | hc
      · exact isTokenChar_of_isPartChar (hfirst.of_mem c hc)
      · rcases List.mem_cons.1 hc with rfl | hc
        · decide
        · exact isTokenChar_of_isPartChar (hsecond.of_mem c hc)
  · rcases List.mem_append.1 hc with hc | hc
    · exact hletters c (List.mem_append_right _ hc)
    · exact isTokenChar_of_isKeyChar (hkey.of_mem c hc)

/-- A key is longer than the shortest tokens. -/
theorem IsKey.lt_length {m : List Char} (h : IsKey m) : 27 < m.length := by
  rcases h with ⟨first, second, hfirst, hsecond, rfl⟩ | ⟨key, hkey, rfl⟩
  · have h1 := hfirst.least_le
    have h2 := hsecond.least_le
    simp only [List.length_append, List.length_cons]
    omega
  · have h1 := hkey.least_le
    have hword : "key-".toList.length = 4 := rfl
    rw [List.length_append]
    omega

theorem IsKey.ne_nil {m : List Char} (h : IsKey m) : m ≠ [] :=
  List.ne_nil_of_length_pos (Nat.zero_lt_of_lt h.lt_length)

/-! ## Runs at the beginning of a text -/

section Run

variable {kind : Char → Bool} {least n : Nat} {m cs : List Char}

theorem exists_of_run? (h : run? kind least cs = some n) :
    ∃ m rest, cs = m ++ rest ∧ m.length = n ∧ IsRun kind least m := by
  rw [run?] at h
  split at h
  · next hle =>
    exact ⟨cs.takeWhile kind, cs.dropWhile kind, List.takeWhile_append_dropWhile.symm,
      Option.some.inj h, hle, fun c hc => List.mem_takeWhile_imp hc⟩
  · cases h

/-- A run reaches at least as far as one that the text begins with. -/
theorem run?_append_le (h : IsRun kind least m) (rest : List Char) :
    ∃ n, run? kind least (m ++ rest) = some n ∧ m.length ≤ n := by
  have hlen : m.length ≤ ((m ++ rest).takeWhile kind).length := by
    rw [List.takeWhile_append_of_pos h.of_mem, List.length_append]
    omega
  exact ⟨_, by rw [run?, if_pos (Nat.le_trans h.least_le hlen)], hlen⟩

/-- A run ends in front of a character of another kind. -/
theorem run?_append (h : IsRun kind least m) {rest : List Char}
    (hrest : ∀ c, rest.head? = some c → kind c = false) :
    run? kind least (m ++ rest) = some m.length := by
  have hstop : rest.takeWhile kind = [] := by
    cases rest with
    | nil => rfl
    | cons c rest => exact List.takeWhile_cons_of_neg (by simp [hrest c rfl])
  rw [run?, List.takeWhile_append_of_pos h.of_mem, hstop, List.append_nil, if_pos h.least_le]

end Run

/-! ## What is found is the longest secret -/

/-- What is found at the beginning of a text is what a text of its own can be, and as long as can
be. -/
structure Secret.Finds (secret : Secret) (Is : List Char → Prop) : Prop where
  /-- There is something to be found. -/
  ne_nil : ∀ m, Is m → m ≠ []
  /-- What is found is such a text. -/
  exists_of_eq_some : ∀ cs n, secret cs = some n → ∃ m rest, cs = m ++ rest ∧ m.length = n ∧ Is m
  /-- If the text begins with one, at least that one is found. -/
  le_of_append : ∀ m rest, Is m → ∃ n, secret (m ++ rest) = some n ∧ m.length ≤ n

theorem finds_twoPartKey : twoPartKey.Finds IsTwoPartKey where
  ne_nil := by
    rintro m ⟨first, second, -, -, rfl⟩
    simp
  exists_of_eq_some := by
    intro cs n h
    rw [twoPartKey.eq_def] at h
    split at h
    · next cs =>
      obtain ⟨k, hk, h⟩ := Option.bind_eq_some_iff.1 h
      obtain ⟨first, rest, rfl, rfl, hfirst⟩ := exists_of_run? hk
      rw [List.drop_left] at h
      -- what ends the first part is the dot
      split at h
      · obtain ⟨l, hl, h⟩ := Option.bind_eq_some_iff.1 h
        obtain ⟨second, rest, rfl, rfl, hsecond⟩ := exists_of_run? hl
        refine ⟨_, rest, by simp, ?_, first, second, hfirst, hsecond, rfl⟩
        rw [← Option.some.inj h, List.length_append, List.length_append, List.length_cons]
        have hword : "SG.".toList.length = 3 := rfl
        omega
      · cases h
    · cases h
  le_of_append := by
    rintro m rest ⟨first, second, hfirst, hsecond, rfl⟩
    have hdot : run? isPartChar 16 (first ++ '.' :: (second ++ rest)) = some first.length :=
      run?_append hfirst fun c hc => by rw [← Option.some.inj hc]; decide
    obtain ⟨n, hn, hle⟩ := run?_append_le hsecond rest
    refine ⟨3 + first.length + 1 + n, by simp [twoPartKey, hdot, hn], ?_⟩
    have hword : "SG.".toList.length = 3 := rfl
    rw [List.length_append, List.length_append, List.length_cons]
    omega

theorem finds_plainKey : plainKey.Finds IsPlainKey where
  ne_nil := by
    rintro m ⟨key, -, rfl⟩
    simp
  exists_of_eq_some := by
    intro cs n h
    rw [plainKey.eq_def] at h
    split at h
    · next cs =>
      obtain ⟨k, hk, rfl⟩ := Option.map_eq_some_iff.1 h
      obtain ⟨key, rest, rfl, rfl, hkey⟩ := exists_of_run? hk
      exact ⟨_, rest, by simp, List.length_append, key, hkey, rfl⟩
    · cases h
  le_of_append := by
    rintro m rest ⟨key, hkey, rfl⟩
    obtain ⟨n, hn, hle⟩ := run?_append_le hkey rest
    refine ⟨4 + n, by simp [plainKey, hn], ?_⟩
    rw [List.length_append]
    exact Nat.add_le_add_left hle 4

/-- The gap in front of a token ends where the token begins. -/
theorem run?_isBlank_append {gap token : List Char} (hgap : IsRun isBlank 1 gap)
    (htoken : IsRun isTokenChar 16 token) (rest : List Char) :
    run? isBlank 1 (gap ++ (token ++ rest)) = some gap.length := by
  refine run?_append hgap fun c hc => ?_
  obtain ⟨d, ds, rfl⟩ : ∃ d ds, token = d :: ds :=
    List.exists_cons_of_length_pos (Nat.lt_of_lt_of_le (by decide) htoken.least_le)
  rw [← Option.some.inj hc]
  exact isBlank_eq_false_of_isTokenChar (htoken.of_mem d List.mem_cons_self)

theorem bearerToken_append {gap token rest : List Char} (hgap : IsRun isBlank 1 gap)
    (htoken : IsRun isTokenChar 16 token) {n : Nat}
    (hn : run? isTokenChar 16 (token ++ rest) = some n) :
    bearerToken ("Bearer".toList ++ (gap ++ (token ++ rest))) = some (6 + gap.length + n) := by
  simp [bearerToken, run?_isBlank_append hgap htoken rest, hn]

theorem finds_bearerToken : bearerToken.Finds IsBearerToken where
  ne_nil := by
    rintro m ⟨gap, token, -, -, rfl⟩
    simp
  exists_of_eq_some := by
    intro cs n h
    rw [bearerToken.eq_def] at h
    split at h
    · next cs =>
      obtain ⟨k, hk, h⟩ := Option.bind_eq_some_iff.1 h
      obtain ⟨gap, rest, rfl, rfl, hgap⟩ := exists_of_run? hk
      rw [List.drop_left] at h
      obtain ⟨l, hl, h⟩ := Option.bind_eq_some_iff.1 h
      obtain ⟨token, rest, rfl, rfl, htoken⟩ := exists_of_run? hl
      refine ⟨_, rest, by simp, ?_, gap, token, hgap, htoken, rfl⟩
      rw [← Option.some.inj h, List.length_append, List.length_append, Nat.add_assoc]
      rfl
    · cases h
  le_of_append := by
    rintro m rest ⟨gap, token, hgap, htoken, rfl⟩
    obtain ⟨n, hn, hle⟩ := run?_append_le htoken rest
    refine ⟨6 + gap.length + n, ?_, ?_⟩
    · rw [List.append_assoc, List.append_assoc]
      exact bearerToken_append hgap htoken hn
    · have hword : "Bearer".toList.length = 6 := rfl
      rw [List.length_append, List.length_append]
      omega

end Redaction
end Mailshot
