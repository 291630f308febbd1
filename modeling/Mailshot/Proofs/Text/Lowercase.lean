import Mathlib.Data.List.Basic
import Mailshot.Text.Lowercase

/-!
# Lowercasing a part of a text

Lowercasing does not go character by character: the capital sigma looks at what stands around it,
so a part of a text need not become the same inside of the text as by itself.  What it becomes there
is `lowercaseBetween`, which has the neighbours as arguments, and a text that is put together from
parts is lowercased part by part in this way (`lowercaseChars_append`).

Nothing but the form of its sigmas distinguishes a part in its place from the part by itself: the
two are equal just if every sigma ends a word in both or in neither (`lowercaseBetween_eq_iff`), and
they are always equal when the two forms of the small sigma are taken for one (`map_oneSigma_eq`).
None of this looks into the tables of letters.
-/

set_option autoImplicit false

namespace Mailshot

/-- Whether a word ends between the characters `before` (in reverse) and `after`. -/
def endsWord (before after : List Char) : Bool := nextHasCase before && !nextHasCase after

/-- Lowercases a list between the characters `before` (in reverse) and `after`. -/
def lowercaseBetween (before after : List Char) : List Char → List Char
  | [] => []
  | c :: cs => lowercaseAt before c (cs ++ after) ++ lowercaseBetween (c :: before) after cs

/-! ## Putting texts together -/

theorem lowercaseFrom_append (before cs after : List Char) :
    lowercaseFrom before (cs ++ after) =
      lowercaseBetween before after cs ++ lowercaseFrom (cs.reverse ++ before) after := by
  induction cs generalizing before with
  | nil => rfl
  | cons c cs ih =>
    rw [List.cons_append, lowercaseFrom, lowercaseBetween, ih, List.append_assoc,
      List.reverse_cons, List.append_assoc]
    rfl

/-- By itself a text has nothing around it. -/
theorem lowercaseBetween_nil (cs : List Char) : lowercaseBetween [] [] cs = lowercaseChars cs := by
  have h := lowercaseFrom_append [] cs []
  rw [lowercaseFrom, List.append_nil, List.append_nil] at h
  exact h.symm

theorem toList_lowercase (s : String) : (lowercase s).toList = lowercaseChars s.toList :=
  String.toList_ofList

/-- A part of a text is lowercased in its place, where it has the rest of the text around it. -/
theorem lowercaseChars_append (before cs after : List Char) :
    lowercaseChars (before ++ (cs ++ after)) =
      lowercaseBetween [] (cs ++ after) before ++
        (lowercaseBetween before.reverse after cs ++
          lowercaseFrom (cs.reverse ++ before.reverse) after) := by
  rw [lowercaseChars, lowercaseFrom_append, List.append_nil, lowercaseFrom_append]

/-! ## One character -/

theorem lowercaseAt_sigma (before after : List Char) :
    lowercaseAt before 'Σ' after = if endsWord before after then ['ς'] else ['σ'] := by
  rw [lowercaseAt, if_pos rfl]
  rfl

/-- Other characters do not look around. -/
theorem lowercaseAt_of_ne {c : Char} (h : c ≠ 'Σ') (before after before' after' : List Char) :
    lowercaseAt before c after = lowercaseAt before' c after' := by
  simp [lowercaseAt, h]

theorem length_lowercaseAt (c : Char) (before after before' after' : List Char) :
    (lowercaseAt before c after).length = (lowercaseAt before' c after').length := by
  by_cases h : c = 'Σ'
  · subst h
    rw [lowercaseAt_sigma, lowercaseAt_sigma]
    cases endsWord before after <;> cases endsWord before' after' <;> rfl
  · rw [lowercaseAt_of_ne h]

theorem lowercaseAt_eq_iff {c : Char} {before after before' after' : List Char} :
    lowercaseAt before c after = lowercaseAt before' c after' ↔
      (c = 'Σ' → endsWord before after = endsWord before' after') := by
  by_cases h : c = 'Σ'
  · subst h
    rw [lowercaseAt_sigma, lowercaseAt_sigma]
    cases endsWord before after <;> cases endsWord before' after' <;> simp
  · exact ⟨fun _ hc => absurd hc h, fun _ => lowercaseAt_of_ne h _ _ _ _⟩

/-! ## A part in its place and by itself -/

/-- Every capital sigma of a list ends a word in one place just if it does in another. -/
def SameSigmas (before after before' after' cs : List Char) : Prop :=
  ∀ front back, cs = front ++ 'Σ' :: back →
    endsWord (front.reverse ++ before) (back ++ after) =
      endsWord (front.reverse ++ before') (back ++ after')

theorem sameSigmas_cons_iff {before after before' after' cs : List Char} {c : Char} :
    SameSigmas before after before' after' (c :: cs) ↔
      (c = 'Σ' → endsWord before (cs ++ after) = endsWord before' (cs ++ after')) ∧
        SameSigmas (c :: before) after (c :: before') after' cs := by
  constructor
  · refine fun h => ⟨?_, ?_⟩
    · rintro rfl
      exact h [] cs rfl
    · rintro front back rfl
      simpa using h (c :: front) back rfl
  · rintro ⟨hhead, htail⟩ front back heq
    cases front with
    | nil =>
      obtain ⟨rfl, rfl⟩ := List.cons.inj heq
      exact hhead rfl
    | cons d front =>
      obtain ⟨rfl, rfl⟩ := List.cons.inj heq
      simpa using htail front back rfl

instance decidableSameSigmas (before after before' after' cs : List Char) :
    Decidable (SameSigmas before after before' after' cs) :=
  match cs with
  | [] => isTrue fun front back h => by simp at h
  | c :: cs =>
    have := decidableSameSigmas (c :: before) after (c :: before') after' cs
    decidable_of_iff _ sameSigmas_cons_iff.symm

/-- **A list becomes the same in two places just if its sigmas do.** -/
theorem lowercaseBetween_eq_iff {before after before' after' cs : List Char} :
    lowercaseBetween before after cs = lowercaseBetween before' after' cs ↔
      SameSigmas before after before' after' cs := by
  induction cs generalizing before before' with
  | nil => exact ⟨fun _ front back h => by simp at h, fun _ => rfl⟩
  | cons c cs ih =>
    rw [sameSigmas_cons_iff, ← ih, ← lowercaseAt_eq_iff]
    -- what the first character becomes has a length of its own, so it can be told from the rest
    exact ⟨fun h => List.append_inj h (length_lowercaseAt c ..), fun h => congrArg₂ _ h.1 h.2⟩

/-- A list without a capital sigma becomes the same everywhere. -/
theorem sameSigmas_of_notMem {before after before' after' cs : List Char} (h : 'Σ' ∉ cs) :
    SameSigmas before after before' after' cs := by
  rintro front back rfl
  exact absurd List.mem_append_cons_self h

/-- The one form of the small sigma in the place of the other. -/
def oneSigma (c : Char) : Char := if c = 'ς' then 'σ' else c

/-- But for the form of its sigmas a list becomes the same everywhere. -/
theorem map_oneSigma_eq (before after before' after' cs : List Char) :
    (lowercaseBetween before after cs).map oneSigma =
      (lowercaseBetween before' after' cs).map oneSigma := by
  induction cs generalizing before before' with
  | nil => rfl
  | cons c cs ih =>
    have hfirst : (lowercaseAt before c (cs ++ after)).map oneSigma =
        (lowercaseAt before' c (cs ++ after')).map oneSigma := by
      by_cases h : c = 'Σ'
      · subst h
        rw [lowercaseAt_sigma, lowercaseAt_sigma]
        split <;> split <;> rfl
      · rw [lowercaseAt_of_ne h]
    rw [lowercaseBetween, lowercaseBetween, List.map_append, List.map_append, hfirst, ih]

end Mailshot
