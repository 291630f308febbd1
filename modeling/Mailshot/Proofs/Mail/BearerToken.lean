import Mailshot.Proofs.Mail.Redaction

/-!
# What is left of a token

The passes for keys come before the one for tokens.  If they mask a key inside of a token, the word
in front is no longer followed by a token, and what stands beside the key is shown.
`token_leaves_no_trace_iff` is that this is all that can happen: a token in which no key stands is
masked with its word, and nothing of the cleaned text depends on it.

A text is taken apart into what stands in front of the word, the word, the token, and what stands
behind.  Nothing that is masked lies across one of these borders (`Cut`), so every pass can be taken
on each part by itself (`Masked.append`).
-/

set_option autoImplicit false

namespace Mailshot
namespace Redaction

/-- A text that is a token and nothing else. -/
def IsToken (t : String) : Prop := IsRun isTokenChar 16 t.toList

/-- A key of either kind stands somewhere in the text. -/
def HoldsKey (t : String) : Prop := ∃ m, IsKey m ∧ m <:+: t.toList

/-- What comes behind a text cannot go on with a token in it. -/
def EndsOutside (a : List Char) : Prop := ∀ c, a.getLast? = some c → isTokenChar c = false

/-- A text cannot go on with a token in front of it. -/
def StartsOutside (b : List Char) : Prop := ∀ c, b.head? = some c → isTokenChar c = false

theorem endsOutside_nil : EndsOutside [] := fun _ hc => nomatch hc

theorem startsOutside_nil : StartsOutside [] := fun _ hc => nomatch hc

/-- What announces a token. -/
def word : List Char := "Bearer ".toList

theorem word_eq : word = "Bearer".toList ++ [' '] := by decide

theorem isTokenChar_of_mem_bearer : ∀ c ∈ "Bearer".toList, isTokenChar c = true :=
  List.all_eq_true.1 (by decide)

theorem head?_word_append (x : List Char) : (word ++ x).head? = some 'B' := rfl

/-! ## Borders that nothing lies across -/

/-- Nothing of a kind has one part at the end of a text and the other at the beginning of the
next. -/
def Cut (Is : List Char → Prop) (a b : List Char) : Prop :=
  ∀ front back, Is (front ++ back) → front <:+ a → back <+: b → front = [] ∨ back = []

theorem prefix_or_exists_of_prefix_append {m a b : List Char} (h : m <+: a ++ b) :
    m <+: a ∨ ∃ back, m = a ++ back ∧ back <+: b := by
  rcases List.prefix_or_prefix_of_prefix h (List.prefix_append a b) with hm | ⟨back, rfl⟩
  · exact .inl hm
  · exact .inr ⟨back, rfl, (List.prefix_append_right_inj a).1 h⟩

section Cut

variable {Is : List Char → Prop} {a b m : List Char}

/-- With no one lying across, what begins in the first text is all in it. -/
theorem Cut.prefix_of_prefix_append (h : Cut Is a b) (hne : a ≠ []) (hm : Is m)
    (hpre : m <+: a ++ b) : m <+: a := by
  rcases prefix_or_exists_of_prefix_append hpre with hpre | ⟨back, rfl, hback⟩
  · exact hpre
  · rcases h a back hm List.suffix_rfl hback with hnil | rfl
    · exact absurd hnil hne
    · exact ⟨[], by simp⟩

theorem Cut.of_suffix (h : Cut Is a b) (hm : m <:+ a) : Cut Is m b :=
  fun front back his hfront hback => h front back his (hfront.trans hm) hback

/-- **Masking two texts is masking each**, with nothing to be masked across the border. -/
theorem Masked.append {out out' : List Char} (ha : Masked Is a out) (hb : Masked Is b out')
    (hne : ∀ m, Is m → m ≠ []) (hcut : Cut Is a b) : Masked Is (a ++ b) (out ++ out') := by
  induction ha with
  | nil => exact hb
  | @keep c cs out hnone _ ih =>
    refine .keep (fun m hm hpre => hnone m hm ?_) (ih (hcut.of_suffix (List.suffix_cons c cs)))
    exact hcut.prefix_of_prefix_append (by simp) hm hpre
  | @hide m cs out hm hlongest _ ih =>
    rw [List.append_assoc, List.append_assoc]
    refine .hide hm (fun m' hm' hpre => hlongest m' hm' ?_)
      (ih (hcut.of_suffix (List.suffix_append m cs)))
    rw [← List.append_assoc] at hpre
    exact hcut.prefix_of_prefix_append (by simp [hne m hm]) hm' hpre

theorem getLast?_of_suffix {front : List Char} (h : front <:+ a) (hne : front ≠ []) :
    ∃ c, a.getLast? = some c ∧ front.getLast? = some c := by
  obtain ⟨before, rfl⟩ := h
  refine ⟨front.getLast hne, ?_, List.getLast?_eq_some_getLast hne⟩
  rw [List.getLast?_append, List.getLast?_eq_some_getLast hne]
  rfl

theorem Cut.of_endsOutside (h : EndsOutside a)
    (hIs : ∀ m, Is m → ∀ c ∈ m, isTokenChar c = true) : Cut Is a b := by
  refine fun front back his hfront _ => or_iff_not_imp_left.2 fun hne => ?_
  obtain ⟨c, hlast, hc⟩ := getLast?_of_suffix hfront hne
  have hmem : c ∈ front ++ back := List.mem_append_left _ (List.mem_of_getLast? hc)
  exact absurd hmem (notMem_of_isTokenChar (hIs _ his) (h c hlast))

theorem Cut.of_startsOutside (h : StartsOutside b)
    (hIs : ∀ m, Is m → ∀ c ∈ m, isTokenChar c = true) : Cut Is a b := by
  refine fun front back his _ hback => ?_
  cases back with
  | nil => exact .inr rfl
  | cons c back =>
    obtain ⟨rest, rfl⟩ := hback
    have hmem : c ∈ front ++ c :: back := List.mem_append_right _ List.mem_cons_self
    exact absurd hmem (notMem_of_isTokenChar (hIs _ his) (h c rfl))

/-- A part at the end of two texts that holds no last character of the first is in the second. -/
theorem suffix_of_suffix_append {c : Char} (hlast : a.getLast? = some c) (hc : c ∉ m)
    (h : m <:+ a ++ b) : m <:+ b := by
  rcases List.suffix_or_suffix_of_suffix h (List.suffix_append a b) with hm | ⟨front, rfl⟩
  · exact hm
  · obtain ⟨l, hl⟩ := h
    rw [← List.append_assoc] at hl
    have hfront : front <:+ a := ⟨l, List.append_cancel_right hl⟩
    by_cases hne : front = []
    · subst hne
      exact List.suffix_rfl
    · obtain ⟨d, hd, hmem⟩ := getLast?_of_suffix hfront hne
      rw [hlast] at hd
      cases hd
      exact absurd (List.mem_append_left b (List.mem_of_getLast? hmem)) hc

/-- What stands in front of a word is not masked together with the token behind it. -/
theorem cut_word (h : EndsOutside a) (b : List Char) : Cut IsBearerToken a (word ++ b) := by
  rintro front back ⟨gap, token, hgap, htoken, heq⟩ hfront hback
  refine or_iff_not_imp_left.2 fun hne => ?_
  obtain ⟨c, hlast, hc⟩ := getLast?_of_suffix hfront hne
  have hno {l : List Char} (hl : ∀ d ∈ l, isTokenChar d = true) : c ∉ l :=
    notMem_of_isTokenChar hl (h c hlast)
  -- the last character in front is in the gap, so the token is all behind it
  obtain ⟨l, rfl⟩ : token <:+ back := by
    refine suffix_of_suffix_append hc (hno htoken.of_mem) ?_
    rw [heq, ← List.append_assoc]
    exact List.suffix_append _ token
  rw [← List.append_assoc, ← List.append_assoc] at heq
  have heq := List.append_cancel_right heq
  cases l with
  | nil =>
    -- the token would take in the space of the word
    have hlen : word.length ≤ token.length := Nat.le_trans (by decide) htoken.least_le
    have hword := List.prefix_of_prefix_length_le (List.prefix_append word b) hback hlen
    have hspace := htoken.of_mem ' ' (hword.subset (by decide))
    exact absurd hspace (by decide)
  | cons d l =>
    -- the gap would take in the first letter of the word
    obtain rfl : d = 'B' := (List.cons_prefix_cons.1 hback).1
    rcases List.append_eq_append_iff.1 heq with ⟨k, hk, -⟩ | ⟨k, -, rfl⟩
    · have hmem : c ∈ "Bearer".toList := hk ▸ List.mem_append_left k (List.mem_of_getLast? hc)
      exact absurd hmem (hno isTokenChar_of_mem_bearer)
    · have hblank := hgap.of_mem 'B' (List.mem_append_right k List.mem_cons_self)
      exact absurd hblank (by decide)

end Cut

/-! ## What masking does at the ends of a text -/

namespace Masked

variable {Is : List Char → Prop} {cs out m : List Char}

theorem eq_nil (h : Masked Is cs []) : cs = [] := by
  generalize hout : [] = out at h
  cases h with
  | nil => rfl
  | keep => cases hout
  | hide => cases hout

/-- At the end of a masked text stands the mask, or what stood there before. -/
theorem getLast?_or (h : Masked Is cs out) {c : Char} (hc : out.getLast? = some c) :
    c = ']' ∨ cs.getLast? = some c := by
  induction h with
  | nil => cases hc
  | @keep d cs out _ h ih =>
    cases out with
    | nil =>
      obtain rfl := h.eq_nil
      exact .inr hc
    | cons e out =>
      rw [List.getLast?_cons_cons] at hc
      refine (ih hc).imp_right fun hlast => ?_
      rw [List.getLast?_cons, hlast]
      rfl
  | @hide m cs out _ _ _ ih =>
    rw [List.getLast?_append] at hc
    cases hout : out.getLast? with
    | none =>
      rw [hout] at hc
      exact .inl (Option.some.inj hc).symm
    | some d =>
      rw [hout] at hc
      refine (ih (hout.trans hc)).imp_right fun hlast => ?_
      rw [List.getLast?_append, hlast]
      rfl

theorem endsOutside (h : Masked Is cs out) (hcs : EndsOutside cs) : EndsOutside out := by
  intro c hc
  rcases h.getLast?_or hc with rfl | hlast
  · decide
  · exact hcs c hlast

theorem startsOutside (h : Masked Is cs out) (hcs : StartsOutside cs) : StartsOutside out := by
  cases h with
  | nil => exact hcs
  | keep => exact hcs
  | hide =>
    intro c hc
    obtain rfl : '[' = c := Option.some.inj hc
    decide

/-- Only one text without the mask at its beginning comes out as the mask. -/
theorem of_eq_mask (h : Masked Is cs mask) (hhead : cs.head? ≠ some '[') : Is cs := by
  generalize hout : mask = out at h
  cases h with
  | nil => cases hout
  | keep => exact absurd (congrArg List.head? hout).symm hhead
  | @hide m cs out hm _ h =>
    obtain rfl := List.self_eq_append_right.1 hout
    rwa [h.eq_nil, List.append_nil]

/-- A text of which nothing was masked is there as it was. -/
theorem eq_of_opening_notMem (h : Masked Is cs out) (hopening : '[' ∉ out) : out = cs := by
  induction h with
  | nil => rfl
  | keep _ _ ih => rw [ih fun hmem => hopening (List.mem_cons_of_mem _ hmem)]
  | hide => exact absurd List.mem_cons_self hopening

theorem opening_mem (h : Masked Is cs out) (hm : Is m) (hne : m ≠ []) (hin : m <:+: cs) :
    '[' ∈ out := by
  induction h with
  | nil => exact absurd (List.infix_nil.1 hin) hne
  | keep hnone _ ih =>
    rcases List.infix_cons_iff.1 hin with hpre | hin
    · exact absurd hpre (hnone m hm)
    · exact List.mem_cons_of_mem _ (ih hin)
  | hide => exact List.mem_cons_self

end Masked

/-! ## A word with a token behind it -/

section Word

variable {lead x rest : List Char}

/-- A pass for keys does not look across the borders of a token and its word. -/
theorem Masked.around_word {Is : List Char → Prop} (hkey : ∀ m, Is m → IsKey m)
    {lead' x' rest' : List Char} (hlead : EndsOutside lead) (hrest : StartsOutside rest)
    (h : Masked Is lead lead') (hx : Masked Is x x') (h' : Masked Is rest rest') :
    Masked Is (lead ++ (word ++ (x ++ rest))) (lead' ++ (word ++ (x' ++ rest'))) := by
  have htok : ∀ m, Is m → ∀ c ∈ m, isTokenChar c = true := fun m hm =>
    (hkey m hm).isTokenChar_of_mem
  have hne : ∀ m, Is m → m ≠ [] := fun m hm => (hkey m hm).ne_nil
  have hword : Masked Is word word := .self fun m hin hm =>
    absurd (Nat.lt_of_lt_of_le (hkey m hm).lt_length hin.length_le) (by decide)
  have hspace : EndsOutside word := fun c hc => by
    obtain rfl : ' ' = c := Option.some.inj hc
    decide
  have htail := hx.append h' hne (.of_startsOutside hrest htok)
  exact h.append (hword.append htail hne (.of_endsOutside hspace htok)) hne
    (.of_endsOutside hlead htok)

/-- A token is masked with its word up to its end. -/
theorem maskFrom_word (hx : IsRun isTokenChar 16 x) (hrest : StartsOutside rest) :
    maskFrom bearerToken 0 (word ++ (x ++ rest)) = mask ++ maskFrom bearerToken 0 rest := by
  have hspace : IsRun isBlank 1 [' '] := ⟨Nat.le_refl 1, List.all_eq_true.1 (by decide)⟩
  have hfound : bearerToken ((word ++ x) ++ rest) = some (word ++ x).length := by
    rw [word_eq, List.append_assoc, List.append_assoc,
      bearerToken_append hspace hx (run?_append hx hrest), List.length_append]
    rfl
  rw [← List.append_assoc]
  exact maskFrom_append (List.append_ne_nil_of_left_ne_nil (by decide) x) rest hfound

/-- **A token in which no key stands is masked with its word**, and what stands around it is masked
by itself. -/
theorem maskAll_around_word (hlead : EndsOutside lead) (hrest : StartsOutside rest)
    (hx : IsRun isTokenChar 16 x) (hnone : ∀ m, IsKey m → ¬ m <:+: x) :
    maskAll (lead ++ (word ++ (x ++ rest))) = maskAll lead ++ (mask ++ maskAll rest) := by
  obtain ⟨lead₁, lead₂, hlead₁, hlead₂, hlead₃⟩ := exists_masked lead
  obtain ⟨rest₁, rest₂, hrest₁, hrest₂, hrest₃⟩ := exists_masked rest
  have hself₁ : Masked IsTwoPartKey x x := .self fun m hin hm => hnone m (.inl hm) hin
  have hself₂ : Masked IsPlainKey x x := .self fun m hin hm => hnone m (.inr hm) hin
  have hends := hlead₂.endsOutside (hlead₁.endsOutside hlead)
  have hstarts := hrest₂.startsOutside (hrest₁.startsOutside hrest)
  have hword : Masked IsBearerToken (word ++ (x ++ rest₂)) (mask ++ maskAll rest) := by
    rw [masked_iff finds_bearerToken, maskFrom_word hx hstarts,
      hrest₃.maskFrom_eq finds_bearerToken]
  exact maskAll_eq (hlead₁.around_word (fun _ => .inl) hlead hrest hself₁ hrest₁)
    (hlead₂.around_word (fun _ => .inr) (hlead₁.endsOutside hlead) (hrest₁.startsOutside hrest)
      hself₂ hrest₂)
    (hlead₃.append hword finds_bearerToken.ne_nil (cut_word hends _))

/-- A token in which a key stands is not masked with its word. -/
theorem maskAll_word_ne_mask {m : List Char} (hm : IsKey m) (hin : m <:+: x) :
    maskAll (word ++ x) ≠ mask := by
  obtain ⟨x₁, x₂, hx₁, hx₂, -⟩ := exists_masked x
  have hopening : '[' ∈ x₂ := by
    have hne : m ≠ [] := hm.ne_nil
    by_contra hno
    have heq := hx₂.eq_of_opening_notMem hno
    rcases hm with hm | hm
    · exact hno (heq ▸ hx₁.opening_mem hm hne hin)
    · have heq' := hx₁.eq_of_opening_notMem (heq ▸ hno)
      exact hno (hx₂.opening_mem hm hne (heq' ▸ hin))
  have h₁ := Masked.nil.around_word (fun _ => .inl) endsOutside_nil startsOutside_nil hx₁ .nil
  have h₂ := Masked.nil.around_word (fun _ => .inr) endsOutside_nil startsOutside_nil hx₂ .nil
  simp only [List.nil_append, List.append_nil] at h₁ h₂
  intro heq
  have h₃ : Masked IsBearerToken (word ++ x₂) mask := by
    rw [← heq, maskAll_eq h₁ h₂ (masked_maskFrom finds_bearerToken _)]
    exact masked_maskFrom finds_bearerToken _
  have hsecret : IsBearerToken (word ++ x₂) := h₃.of_eq_mask (by
    rw [head?_word_append]
    decide)
  exact hsecret.isForeign.opening_notMem (List.mem_append_right _ hopening)

theorem IsRun.isWord (hx : IsRun isTokenChar 16 x) : IsWord x where
  ne_nil := List.ne_nil_of_length_pos (Nat.lt_of_lt_of_le (by decide) hx.least_le)
  not_blank c hc := isBlank_eq_false_of_isTokenChar (hx.of_mem c hc)

/-- The words of a text in front of which the word and its token stand. -/
theorem hasWords_word {ws : List (List Char)} (h : HasWords x ws) :
    HasWords (word ++ x) ("Bearer".toList :: ws) := by
  have hword : IsWord "Bearer".toList :=
    ⟨by decide, fun c hc => isBlank_eq_false_of_isTokenChar (isTokenChar_of_mem_bearer c hc)⟩
  refine .word hword (fun c hc => ?_) (.blank (c := ' ') (by decide) h)
  obtain rfl : ' ' = c := Option.some.inj hc
  decide

/-- The word and the token stay as they are when the words of a text are put together, and what is
in front of them and behind them does not depend on the token. -/
theorem exists_collapse_eq {p s : List Char} (hp : ∀ c, p.getLast? = some c → isBlank c = true)
    (hs : StartsOutside s) :
    ∃ lead rest, EndsOutside lead ∧ StartsOutside rest ∧ ∀ x, IsRun isTokenChar 16 x →
      collapse (p ++ (word ++ (x ++ s))) = lead ++ (word ++ (x ++ rest)) := by
  obtain ⟨more, vs, hmore, hvs⟩ := (hasWords_words s).exists_word_append
  have hspace : isTokenChar ' ' = false := by decide
  refine ⟨(words p).flatMap (· ++ [' ']), more ++ vs.flatMap (' ' :: ·), fun c hc => ?_,
    fun c hc => ?_, fun x hx => ?_⟩
  · rw [List.getLast?_flatMap] at hc
    obtain ⟨w, -, hw⟩ := List.exists_of_findSome?_eq_some hc
    rw [List.getLast?_concat] at hw
    rwa [← Option.some.inj hw]
  · cases more with
    | nil =>
      rw [List.nil_append, List.head?_flatMap] at hc
      obtain ⟨v, -, hv⟩ := List.exists_of_findSome?_eq_some hc
      rwa [← Option.some.inj hv]
    | cons d more => exact hs c (hmore c hc)
  · have hwords := (hasWords_words p).append hp (hasWords_word (hvs x hx.isWord))
    rw [collapse, hwords.words_eq, intercalate_append_cons, intercalate_cons_eq]
    simp [word_eq]

/-- With nothing around them there is nothing to be put together. -/
theorem collapse_word (hx : IsRun isTokenChar 16 x) : collapse (word ++ x) = word ++ x := by
  have hwords : HasWords x [x] := by
    have := HasWords.word hx.isWord (by simp) .nil
    rwa [List.append_nil] at this
  rw [collapse, (hasWords_word hwords).words_eq, intercalate_cons_eq]
  simp [word_eq]

end Word

/-! ## Two tokens -/

theorem shorten_ne_mask {cs : List Char} (h : cs ≠ mask) : shorten cs ≠ mask := by
  rw [shorten_eq]
  split
  · next hlong =>
    have hlen : mask.length = 10 := rfl
    refine fun heq => absurd (congrArg List.length heq) ?_
    rw [List.length_append, List.length_take]
    omega
  · next hshort => rwa [List.append_nil, List.take_of_length_le (Nat.le_of_not_lt hshort)]

/-- **A token leaves no trace just if no key stands in it.**  Say that two texts are the same but
for the token behind the word, and that the token of one of them holds no key.  Whatever stands in
front of the word and behind the token, the cleaned texts are the same, unless a key stands in the
other token.  If one does, the token can be told from the first. -/
theorem token_leaves_no_trace_iff {x y : String} (hx : IsToken x) (hy : IsToken y)
    (hplain : ¬ HoldsKey y) :
    (∀ p s : String, (∀ c, p.toList.getLast? = some c → isBlank c = true) →
      (∀ c, s.toList.head? = some c → isTokenChar c = false) →
      clean (p ++ "Bearer " ++ x ++ s) = clean (p ++ "Bearer " ++ y ++ s)) ↔ ¬ HoldsKey x := by
  have htoList (p x s : String) :
      (p ++ "Bearer " ++ x ++ s).toList = p.toList ++ (word ++ (x.toList ++ s.toList)) := by
    simp only [String.toList_append, List.append_assoc]
    rfl
  constructor
  · rintro h ⟨m, hm, hin⟩
    have hclean (t : String) (ht : IsToken t) :
        clean ("" ++ "Bearer " ++ t ++ "") =
          String.ofList (shorten (maskAll (word ++ t.toList))) := by
      rw [clean, htoList, String.toList_empty, List.append_nil, List.nil_append, collapse_word ht]
    have hy' : maskAll (word ++ y.toList) = mask := by
      have := maskAll_around_word endsOutside_nil startsOutside_nil hy
        fun m hm hin => hplain ⟨m, hm, hin⟩
      rwa [List.append_nil] at this
    have heq := h "" "" (by simp) (by simp)
    rw [hclean x hx, hclean y hy, hy', String.ofList_inj] at heq
    exact shorten_ne_mask (maskAll_word_ne_mask hm hin) heq
  · intro hx' p s hp hs
    obtain ⟨lead, rest, hlead, hrest, hcollapse⟩ := exists_collapse_eq hp hs
    have hmasked (t : String) (ht : IsToken t) (hnone : ¬ HoldsKey t) :
        clean (p ++ "Bearer " ++ t ++ s) =
          String.ofList (shorten (maskAll lead ++ (mask ++ maskAll rest))) := by
      rw [clean, htoList, hcollapse _ ht,
        maskAll_around_word hlead hrest ht fun m hm hin => hnone ⟨m, hm, hin⟩]
    rw [hmasked x hx hx', hmasked y hy hplain]

theorem token_leaves_no_trace_of_two :
    IsToken "0123456789abcdef" ∧ IsToken "fedcba9876543210" ∧ ¬ HoldsKey "fedcba9876543210" ∧
      ((∀ p s : String, (∀ c, p.toList.getLast? = some c → isBlank c = true) →
        (∀ c, s.toList.head? = some c → isTokenChar c = false) →
        clean (p ++ "Bearer " ++ "0123456789abcdef" ++ s) =
          clean (p ++ "Bearer " ++ "fedcba9876543210" ++ s)) ↔ ¬ HoldsKey "0123456789abcdef") := by
  have hx : IsToken "0123456789abcdef" := ⟨by decide, List.all_eq_true.1 (by decide)⟩
  have hy : IsToken "fedcba9876543210" := ⟨by decide, List.all_eq_true.1 (by decide)⟩
  have hnone : ¬ HoldsKey "fedcba9876543210" := by
    rintro ⟨m, hm, hin⟩
    have hlt : 27 < 16 := Nat.lt_of_lt_of_le hm.lt_length hin.length_le
    exact absurd hlt (by decide)
  exact ⟨hx, hy, hnone, token_leaves_no_trace_iff hx hy hnone⟩

/-- What stands behind a key in a token is shown, however long it is, and it would be a token. -/
theorem token_shown_behind_key :
    IsToken "SG.0123456789abcdef.0123456789abcdef.abcdefghijklmnopqrstuvwxyz" ∧
      IsToken "abcdefghijklmnopqrstuvwxyz" ∧
      (∀ c, "denied for ".toList.getLast? = some c → isBlank c = true) ∧
      clean ("denied for " ++ "Bearer " ++
        "SG.0123456789abcdef.0123456789abcdef.abcdefghijklmnopqrstuvwxyz" ++ "") =
        "denied for Bearer [REDACTED].abcdefghijklmnopqrstuvwxyz" ∧
      clean ("denied for " ++ "Bearer " ++ "abcdefghijklmnopqrstuvwxyz" ++ "") =
        "denied for [REDACTED]" := by
  refine ⟨⟨by decide, List.all_eq_true.1 (by decide)⟩, ⟨by decide, List.all_eq_true.1 (by decide)⟩,
    fun c hc => ?_, by decide +kernel, by decide +kernel⟩
  obtain rfl : ' ' = c := Option.some.inj hc
  decide

end Redaction
end Mailshot
