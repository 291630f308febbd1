import Mailshot.Proofs.Mail.Secret
import Mailshot.Proofs.Text.Words

/-!
# Cleaned texts hold no secrets

Three passes mask three kinds of secrets, one pass after the other, and then the text is cut.
`Masked` says what one pass makes of a text: from left to right, as much as possible is masked at a
time.  `masked_iff` is that a pass does just this.

The mask stands between brackets, and no secret has a bracket.  So a part of a masked text that has
no bracket and does not come out of the mask itself was a part of the text before
(`Masked.of_isInfix`), and it is not a secret of the masked kind.  This one fact is what carries the
three passes: a later one brings in no secret of an earlier kind, and no blanks that were not next
to each other before.  Cutting a text only takes parts of it away.
-/

set_option autoImplicit false

namespace Mailshot
namespace Redaction

/-! ## What one pass makes of a text -/

/-- A text with everything of a kind masked, from left to right and as much as possible at a
time. -/
inductive Masked (Is : List Char → Prop) : List Char → List Char → Prop
  /-- The end. -/
  | nil : Masked Is [] []
  /-- Nothing of the kind begins here. -/
  | keep {c : Char} {cs out : List Char} (hnone : ∀ m, Is m → ¬ m <+: c :: cs)
      (h : Masked Is cs out) : Masked Is (c :: cs) (c :: out)
  /-- Something of the kind begins here, and nothing longer does. -/
  | hide {m cs out : List Char} (hm : Is m)
      (hlongest : ∀ m', Is m' → m' <+: m ++ cs → m'.length ≤ m.length) (h : Masked Is cs out) :
      Masked Is (m ++ cs) (mask ++ out)

section Pass

variable {secret : Secret} {Is : List Char → Prop} {cs out : List Char}

theorem maskFrom_eq_drop (secret : Secret) (skip : Nat) (cs : List Char) :
    maskFrom secret skip cs = maskFrom secret 0 (cs.drop skip) := by
  induction cs generalizing skip with
  | nil => simp [maskFrom]
  | cons c cs ih =>
    cases skip with
    | zero => rfl
    | succ skip => rw [maskFrom, List.drop_succ_cons, ih]

/-- What is found at the beginning of a text is masked, and the rest is gone on with. -/
theorem maskFrom_append {m : List Char} (hne : m ≠ []) (rest : List Char)
    (h : secret (m ++ rest) = some m.length) :
    maskFrom secret 0 (m ++ rest) = mask ++ maskFrom secret 0 rest := by
  obtain ⟨c, m, rfl⟩ := List.exists_cons_of_ne_nil hne
  rw [List.cons_append] at h ⊢
  rw [maskFrom, h]
  simp only [List.length_cons, Nat.add_sub_cancel]
  rw [maskFrom_eq_drop, List.drop_left]

theorem masked_maskFrom (h : secret.Finds Is) (cs : List Char) :
    Masked Is cs (maskFrom secret 0 cs) := by
  induction hn : cs.length using Nat.strongRecOn generalizing cs with
  | ind n ih =>
    subst hn
    cases cs with
    | nil => exact .nil
    | cons c cs =>
      cases hs : secret (c :: cs) with
      | none =>
        rw [maskFrom, hs]
        refine .keep ?_ (ih cs.length (by simp) cs rfl)
        rintro m hm ⟨rest, heq⟩
        obtain ⟨n, hsome, -⟩ := h.le_of_append m rest hm
        rw [heq, hs] at hsome
        cases hsome
      | some n =>
        obtain ⟨m, rest, heq, rfl, hm⟩ := h.exists_of_eq_some _ _ hs
        have hpos : 0 < m.length := List.length_pos_iff.2 (h.ne_nil m hm)
        have hlen := congrArg List.length heq
        rw [List.length_append] at hlen
        rw [heq] at hs ⊢
        rw [maskFrom_append (h.ne_nil m hm) rest hs]
        refine .hide hm ?_ (ih rest.length (by omega) rest rfl)
        rintro m' hm' ⟨rest', heq'⟩
        obtain ⟨n, hsome, hle⟩ := h.le_of_append m' rest' hm'
        rw [heq', hs] at hsome
        exact hle.trans_eq (Option.some.inj hsome).symm

theorem Masked.maskFrom_eq (hfinds : secret.Finds Is) (h : Masked Is cs out) :
    maskFrom secret 0 cs = out := by
  induction h with
  | nil => rfl
  | @keep c cs out hnone _ ih =>
    have hs : secret (c :: cs) = none := by
      cases hs : secret (c :: cs) with
      | none => rfl
      | some n =>
        obtain ⟨m, rest, heq, -, hm⟩ := hfinds.exists_of_eq_some _ _ hs
        exact absurd ⟨rest, heq.symm⟩ (hnone m hm)
    rw [maskFrom, hs]
    exact congrArg _ ih
  | @hide m cs out hm hlongest _ ih =>
    obtain ⟨n, hs, hle⟩ := hfinds.le_of_append m cs hm
    obtain ⟨m', rest, heq, rfl, hm'⟩ := hfinds.exists_of_eq_some _ _ hs
    rw [Nat.le_antisymm (hlongest m' hm' ⟨rest, heq.symm⟩) hle] at hs
    rw [maskFrom_append (hfinds.ne_nil m hm) cs hs, ih]

/-- **A pass masks what is found, from left to right and as much as possible at a time**, and that
leaves it no choice. -/
theorem masked_iff (h : secret.Finds Is) : Masked Is cs out ↔ maskFrom secret 0 cs = out :=
  ⟨Masked.maskFrom_eq h, fun heq => heq ▸ masked_maskFrom h cs⟩

end Pass

/-! ## What a masked text is made of -/

/-- A text is foreign to the mask: it has no bracket, and does not come out of the word between the
brackets either. -/
structure IsForeign (m : List Char) : Prop where
  /-- It has no opening bracket. -/
  opening_notMem : '[' ∉ m
  /-- It has no closing bracket. -/
  closing_notMem : ']' ∉ m
  /-- It is no part of the word. -/
  not_isInfix : ¬ m <:+: "REDACTED".toList

/-- A part without a certain character lies on one side of it. -/
theorem infix_or_infix_of_notMem {x : Char} {m a b : List Char} (hx : x ∉ m)
    (h : m <:+: a ++ x :: b) : m <:+: a ∨ m <:+: b := by
  -- a prefix of what begins with the character can only be empty
  have hnil : ∀ l, l <+: x :: b → x ∉ l → l = [] := fun l hl hxl => by
    cases l with
    | nil => rfl
    | cons d l => exact absurd ((List.cons_prefix_cons.1 hl).1 ▸ List.mem_cons_self) hxl
  rcases List.infix_append_iff.1 h with h | h | ⟨front, back, rfl, hfront, hback⟩
  · exact .inl h
  · rcases List.infix_cons_iff.1 h with h | h
    · rw [hnil m h hx]
      exact .inl List.nil_infix
    · exact .inr h
  · rw [hnil back hback fun hmem => hx (List.mem_append_right _ hmem), List.append_nil]
    exact .inl hfront.isInfix

namespace Masked

variable {Is : List Char → Prop} {cs out m : List Char}

/-- What a masked text begins with, as far as there is no mask, the text began with. -/
theorem of_isPrefix (h : Masked Is cs out) (hm : m <+: out) (hopening : '[' ∉ m) : m <+: cs := by
  induction h generalizing m with
  | nil => exact hm
  | keep _ _ ih =>
    cases m with
    | nil => exact List.nil_prefix
    | cons d m =>
      obtain ⟨rfl, hrest⟩ := List.cons_prefix_cons.1 hm
      have hno : '[' ∉ m := fun hmem => hopening (List.mem_cons_of_mem _ hmem)
      exact List.cons_prefix_cons.2 ⟨rfl, ih hrest hno⟩
  | hide =>
    cases m with
    | nil => exact List.nil_prefix
    | cons d m =>
      have hd : d = '[' := (List.cons_prefix_cons.1 hm).1
      exact absurd (hd ▸ List.mem_cons_self) hopening

/-- **A part of a masked text that is foreign to the mask was a part of the text before**, and is
nothing that is masked. -/
theorem of_isInfix (h : Masked Is cs out) (hm : m <:+: out) (hforeign : IsForeign m) :
    m <:+: cs ∧ ¬ Is m := by
  induction h with
  | nil =>
    obtain rfl := List.infix_nil.1 hm
    exact absurd List.nil_infix hforeign.not_isInfix
  | @keep c cs out hnone h ih =>
    rcases List.infix_cons_iff.1 hm with hm | hm
    · have hpre : m <+: c :: cs := (Masked.keep hnone h).of_isPrefix hm hforeign.opening_notMem
      exact ⟨hpre.isInfix, fun his => hnone m his hpre⟩
    · exact (ih hm).imp_left List.infix_cons
  | @hide m' cs out _ _ _ ih =>
    have hmask : mask ++ out = [] ++ '[' :: ("REDACTED".toList ++ ']' :: out) := rfl
    rw [hmask] at hm
    rcases infix_or_infix_of_notMem hforeign.opening_notMem hm with hm | hm
    · obtain rfl := List.infix_nil.1 hm
      exact absurd List.nil_infix hforeign.not_isInfix
    · rcases infix_or_infix_of_notMem hforeign.closing_notMem hm with hm | hm
      · exact absurd hm hforeign.not_isInfix
      · exact (ih hm).imp_left List.infix_append_of_infix_right

theorem mem_or_mem (h : Masked Is cs out) {c : Char} (hc : c ∈ out) : c ∈ mask ∨ c ∈ cs := by
  induction h with
  | nil => cases hc
  | keep _ _ ih =>
    rcases List.mem_cons.1 hc with rfl | hc
    · exact .inr List.mem_cons_self
    · exact (ih hc).imp_right (List.mem_cons_of_mem _)
  | hide _ _ _ ih =>
    rcases List.mem_append.1 hc with hc | hc
    · exact .inl hc
    · exact (ih hc).imp_right (List.mem_append_right _)

/-- A text in which there is nothing to be masked stays as it is. -/
theorem self (h : ∀ m, m <:+: cs → ¬ Is m) : Masked Is cs cs := by
  induction cs with
  | nil => exact .nil
  | cons c cs ih =>
    exact .keep (fun m hm hpre => h m hpre.isInfix hm) (ih fun m hm => h m (List.infix_cons hm))

end Masked

/-! ## Secrets are foreign to the mask -/

/-- A text without brackets is foreign to the mask if it has a character that the mask does not
have. -/
theorem isForeign_of_mem {m : List Char} (hopening : '[' ∉ m) (hclosing : ']' ∉ m) {c : Char}
    (hc : c ∈ m) (hmask : c ∉ mask) : IsForeign m :=
  ⟨hopening, hclosing, fun hin =>
    hmask (List.mem_cons_of_mem _ (List.mem_append_left [']'] (hin.subset hc)))⟩

theorem IsKey.isForeign {m : List Char} (h : IsKey m) : IsForeign m := by
  have hopening : '[' ∉ m := notMem_of_isTokenChar h.isTokenChar_of_mem (by decide)
  have hclosing : ']' ∉ m := notMem_of_isTokenChar h.isTokenChar_of_mem (by decide)
  rcases h with ⟨first, second, -, -, rfl⟩ | ⟨key, -, rfl⟩
  · exact isForeign_of_mem (c := 'S') hopening hclosing (by simp) (by decide)
  · exact isForeign_of_mem (c := 'k') hopening hclosing (by simp) (by decide)

theorem IsBearerToken.isForeign {m : List Char} (h : IsBearerToken m) : IsForeign m := by
  obtain ⟨gap, token, hgap, htoken, rfl⟩ := h
  have hno {c : Char} (hblank : isBlank c = false) (htok : isTokenChar c = false)
      (hword : c ∉ "Bearer".toList) : c ∉ "Bearer".toList ++ (gap ++ token) := fun hmem => by
    rcases List.mem_append.1 hmem with hmem | hmem
    · exact hword hmem
    · rcases List.mem_append.1 hmem with hmem | hmem
      · rw [hgap.of_mem c hmem] at hblank
        cases hblank
      · rw [htoken.of_mem c hmem] at htok
        cases htok
  exact isForeign_of_mem (c := 'B') (hno (by decide) (by decide) (by decide))
    (hno (by decide) (by decide) (by decide)) (by simp) (by decide)

theorem IsSecret.isForeign {m : List Char} (h : IsSecret m) : IsForeign m :=
  h.elim IsKey.isForeign IsBearerToken.isForeign

/-! ## All passes -/

section Passes

variable {cs once twice redacted : List Char}

/-- The three passes one after the other. -/
theorem exists_masked (cs : List Char) : ∃ once twice, Masked IsTwoPartKey cs once ∧
    Masked IsPlainKey once twice ∧ Masked IsBearerToken twice (maskAll cs) :=
  ⟨_, _, masked_maskFrom finds_twoPartKey cs, masked_maskFrom finds_plainKey _,
    masked_maskFrom finds_bearerToken _⟩

variable (htwo : Masked IsTwoPartKey cs once) (hplain : Masked IsPlainKey once twice)
  (hbearer : Masked IsBearerToken twice redacted)
include htwo hplain hbearer

theorem infix_of_infix_redacted {m : List Char} (hm : m <:+: redacted) (hforeign : IsForeign m) :
    m <:+: cs :=
  (htwo.of_isInfix (hplain.of_isInfix (hbearer.of_isInfix hm hforeign).1 hforeign).1 hforeign).1

theorem maskAll_eq : maskAll cs = redacted := by
  simp only [maskAll, List.foldl_cons, List.foldl_nil, htwo.maskFrom_eq finds_twoPartKey,
    hplain.maskFrom_eq finds_plainKey, hbearer.maskFrom_eq finds_bearerToken]

/-- **After all passes there is no secret of any kind left.** -/
theorem not_isSecret_of_infix_redacted {m : List Char} (hm : m <:+: redacted) : ¬ IsSecret m := by
  intro h
  have hforeign := h.isForeign
  obtain ⟨htwice, hnoBearer⟩ := hbearer.of_isInfix hm hforeign
  obtain ⟨honce, hnoPlain⟩ := hplain.of_isInfix htwice hforeign
  rcases h with (h | h) | h
  · exact (htwo.of_isInfix honce hforeign).2 h
  · exact hnoPlain h
  · exact hnoBearer h

theorem mem_of_mem_redacted {c : Char} (hc : c ∈ redacted) : c ∈ mask ∨ c ∈ cs := by
  rcases hbearer.mem_or_mem hc with hc | hc
  · exact .inl hc
  · rcases hplain.mem_or_mem hc with hc | hc
    · exact .inl hc
    · exact htwo.mem_or_mem hc

end Passes

/-! ## Cleaned texts -/

theorem shorten_eq (cs : List Char) :
    shorten cs = cs.take 256 ++ if 256 < cs.length then "...[truncated]".toList else [] := by
  rw [shorten, kept]
  split
  · rfl
  · rw [List.take_of_length_le (by omega), List.append_nil]

/-- **Cleaned texts are redacted and bounded.**  The words of a text are put together with one space
between neighbours, and two-part keys, plain keys and tokens are masked in this order.  Of what is
left then, 256 characters are kept at most, and it is said behind them if there were more.  No part
of what is kept is a secret of any kind, spaces are the only blanks in it, and nowhere are there two
in a row.  A text that is short enough and holds no secret comes out with nothing done to it but
that its words are put together. -/
theorem clean_redacted_bounded (text : String) :
    ∃ ws once twice redacted, HasWords text.toList ws ∧
      Masked IsTwoPartKey ([' '].intercalate ws) once ∧ Masked IsPlainKey once twice ∧
      Masked IsBearerToken twice redacted ∧
      (clean text).toList =
        redacted.take 256 ++ (if 256 < redacted.length then "...[truncated]".toList else []) ∧
      (∀ m, m <:+: redacted.take 256 → ¬ IsSecret m) ∧
      (∀ c ∈ redacted.take 256, isBlank c = true → c = ' ') ∧
      ¬ [' ', ' '] <:+: redacted.take 256 ∧
      (([' '].intercalate ws).length ≤ 256 →
        (∀ m, m <:+: [' '].intercalate ws → ¬ IsSecret m) →
        (clean text).toList = [' '].intercalate ws) := by
  have hwords := hasWords_words text.toList
  have hclean : (clean text).toList = shorten (maskAll (collapse text.toList)) :=
    String.toList_ofList
  rw [collapse] at hclean
  generalize words text.toList = ws at hwords hclean
  obtain ⟨once, twice, htwo, hplain, hbearer⟩ := exists_masked ([' '].intercalate ws)
  refine ⟨ws, once, twice, _, hwords, htwo, hplain, hbearer, ?_, fun m hm => ?_,
    fun c hc hblank => ?_, fun hspaces => ?_, fun hshort hnone => ?_⟩
  · rw [hclean, shorten_eq]
  · exact not_isSecret_of_infix_redacted htwo hplain hbearer
      (hm.trans (List.take_prefix 256 _).isInfix)
  · rcases mem_of_mem_redacted htwo hplain hbearer (List.mem_of_mem_take hc) with hc | hc
    · have hmask : ∀ c ∈ mask, (!isBlank c) = true := List.all_eq_true.1 (by decide)
      have hno := hmask c hc
      rw [hblank] at hno
      cases hno
    · exact eq_space_of_mem_intercalate hwords.isWord_of_mem hc hblank
  · -- the two spaces would have been next to each other before
    have hforeign : IsForeign [' ', ' '] :=
      isForeign_of_mem (by decide) (by decide) List.mem_cons_self (by decide)
    exact not_two_spaces_infix_intercalate hwords.isWord_of_mem
      (infix_of_infix_redacted htwo hplain hbearer
        (hspaces.trans (List.take_prefix 256 _).isInfix) hforeign)
  · have hself : maskAll ([' '].intercalate ws) = [' '].intercalate ws :=
      maskAll_eq (.self fun m hm h => hnone m hm (.inl (.inl h)))
        (.self fun m hm h => hnone m hm (.inl (.inr h))) (.self fun m hm h => hnone m hm (.inr h))
    rw [hclean, hself, shorten_eq, List.take_of_length_le hshort, if_neg (by omega),
      List.append_nil]

end Redaction
end Mailshot
