import Mailshot.Text.Blank

/-!
# The words of a text

`words` takes a text apart one character after the other and keeps the word that it is in the middle
of.  `HasWords` says which the words are without that: blanks are passed over, and a word reaches as
far as the next blank.  A text has exactly the words that `words` finds (`hasWords_iff`), so a text
can be taken apart where a word ends, in as many steps as there are parts, and nothing needs to be
known about how far a reader of characters has come.

The words with one space between neighbours hold no other blank (`eq_space_of_mem_intercalate`) and
nowhere two spaces in a row (`not_two_spaces_infix_intercalate`).
-/

set_option autoImplicit false

namespace Mailshot

/-- At least one character, and no blank. -/
structure IsWord (w : List Char) : Prop where
  /-- There is a character. -/
  ne_nil : w ≠ []
  /-- None is a blank. -/
  not_blank : ∀ c ∈ w, isBlank c = false

/-- The words of a text in their order: each reaches up to a blank, or to the end. -/
inductive HasWords : List Char → List (List Char) → Prop
  /-- There is nothing. -/
  | nil : HasWords [] []
  /-- A blank belongs to no word. -/
  | blank {c : Char} {cs : List Char} {ws : List (List Char)} (hc : isBlank c = true)
      (h : HasWords cs ws) : HasWords (c :: cs) ws
  /-- A word. -/
  | word {w cs : List Char} {ws : List (List Char)} (hw : IsWord w)
      (hend : ∀ c, cs.head? = some c → isBlank c = true) (h : HasWords cs ws) :
      HasWords (w ++ cs) (w :: ws)

/-! ## Every text has the words that are found -/

/-- A word in the middle of which the reader is goes on up to the next blank. -/
theorem wordsFrom_append {w : List Char} (hw : ∀ c ∈ w, isBlank c = false)
    (current cs : List Char) :
    wordsFrom current (w ++ cs) = wordsFrom (w.reverse ++ current) cs := by
  induction w generalizing current with
  | nil => rfl
  | cons c w ih =>
    obtain ⟨hc, hw⟩ := List.forall_mem_cons.1 hw
    rw [List.cons_append, wordsFrom, if_neg (by simp [hc]), ih hw]
    simp

theorem hasWords_wordsFrom {current : List Char} (h : ∀ c ∈ current, isBlank c = false)
    (cs : List Char) : HasWords (current.reverse ++ cs) (wordsFrom current cs) := by
  induction cs generalizing current with
  | nil =>
    rw [wordsFrom]
    cases current with
    | nil => exact .nil
    | cons d ds => exact .word ⟨by simp, by simpa [or_comm] using h⟩ (by simp) .nil
  | cons c cs ih =>
    rw [wordsFrom]
    split
    · next hc =>
      have hrest : HasWords (c :: cs) (wordsFrom [] cs) := .blank hc (ih (List.forall_mem_nil _))
      cases current with
      | nil => exact hrest
      | cons d ds =>
        refine .word ⟨by simp, by simpa [or_comm] using h⟩ (fun e he => ?_) hrest
        rwa [← Option.some.inj he]
    · next hc =>
      have hgrown : ∀ e ∈ c :: current, isBlank e = false :=
        List.forall_mem_cons.2 ⟨Bool.eq_false_iff.2 hc, h⟩
      have := ih hgrown
      rwa [List.reverse_cons, List.append_assoc] at this

theorem HasWords.words_eq {cs : List Char} {ws : List (List Char)} (h : HasWords cs ws) :
    words cs = ws := by
  induction h with
  | nil => rfl
  | blank hc _ ih => rw [words, wordsFrom, if_pos hc]; exact ih
  | @word w cs ws hw hend _ ih =>
    have hne : w.reverse.isEmpty = false := by simpa using hw.ne_nil
    rw [words, wordsFrom_append hw.not_blank, List.append_nil]
    cases cs with
    | nil =>
      rw [wordsFrom, hne, ← ih]
      simp [words, wordsFrom]
    | cons c cs =>
      have hc : isBlank c = true := hend c rfl
      rw [words, wordsFrom, if_pos hc] at ih
      rw [wordsFrom, if_pos hc, hne, ← ih]
      simp

theorem hasWords_words (cs : List Char) : HasWords cs (words cs) :=
  hasWords_wordsFrom (List.forall_mem_nil _) cs

/-- **A text has the words that are found in it, and no others.** -/
theorem hasWords_iff {cs : List Char} {ws : List (List Char)} : HasWords cs ws ↔ words cs = ws :=
  ⟨HasWords.words_eq, fun h => h ▸ hasWords_words cs⟩

namespace HasWords

variable {cs : List Char} {ws : List (List Char)}

theorem isWord_of_mem (h : HasWords cs ws) : ∀ w ∈ ws, IsWord w := by
  induction h with
  | nil => simp
  | blank _ _ ih => exact ih
  | word hw _ _ ih => exact List.forall_mem_cons.2 ⟨hw, ih⟩

/-- Behind a blank, the words of a text are those of what stands there. -/
theorem append (h : HasWords cs ws) (hlast : ∀ c, cs.getLast? = some c → isBlank c = true)
    {ds : List Char} {vs : List (List Char)} (hds : HasWords ds vs) :
    HasWords (cs ++ ds) (ws ++ vs) := by
  induction h with
  | nil => exact hds
  | @blank c cs ws hc _ ih =>
    refine .blank hc (ih fun d hd => hlast d ?_)
    rw [List.getLast?_cons, hd]
    rfl
  | @word w cs ws hw hend _ ih =>
    -- the word ends in front of a blank, so something stands behind it
    have hne : cs ≠ [] := by
      rintro rfl
      have hmem := List.getLast_mem hw.ne_nil
      have hb := hlast _ (by rw [List.append_nil, List.getLast?_eq_some_getLast hw.ne_nil])
      rw [hw.not_blank _ hmem] at hb
      cases hb
    have hrest : HasWords (cs ++ ds) (ws ++ vs) := ih fun c hc => hlast c (by
      rw [List.getLast?_append, hc]
      rfl)
    rw [List.append_assoc]
    refine .word hw (fun c hc => hend c ?_) hrest
    obtain ⟨d, cs, rfl⟩ := List.exists_cons_of_ne_nil hne
    exact hc

/-- A word in front of a text takes in what stands behind it up to the next blank, whichever word it
is. -/
theorem exists_word_append (h : HasWords cs ws) :
    ∃ more vs, (∀ c, more.head? = some c → cs.head? = some c) ∧
      ∀ w, IsWord w → HasWords (w ++ cs) ((w ++ more) :: vs) := by
  cases h with
  | nil => exact ⟨[], [], by simp, fun w hw => by simpa using HasWords.word hw (by simp) .nil⟩
  | @blank c cs ws hc h =>
    refine ⟨[], ws, by simp, fun w hw => ?_⟩
    rw [List.append_nil]
    refine .word hw (fun d hd => ?_) (.blank hc h)
    rwa [← Option.some.inj hd]
  | @word v cs ws hv hend h =>
    refine ⟨v, ws, fun c hc => ?_, fun w hw => ?_⟩
    · rw [List.head?_append, hc]
      rfl
    · rw [← List.append_assoc]
      refine .word ⟨by simp [hw.ne_nil], fun c hc => ?_⟩ hend h
      rcases List.mem_append.1 hc with hc | hc
      · exact hw.not_blank c hc
      · exact hv.not_blank c hc

end HasWords

/-! ## One space between neighbours -/

section Collapse

variable {ws : List (List Char)}

theorem intercalate_cons_eq (w : List Char) (ws : List (List Char)) :
    [' '].intercalate (w :: ws) = w ++ ws.flatMap (' ' :: ·) := by
  induction ws generalizing w with
  | nil => simp
  | cons v vs ih => simp [ih]

theorem intercalate_append_cons (ws : List (List Char)) (v : List Char) (vs : List (List Char)) :
    [' '].intercalate (ws ++ v :: vs) =
      ws.flatMap (· ++ [' ']) ++ [' '].intercalate (v :: vs) := by
  induction ws with
  | nil => rfl
  | cons w ws ih =>
    rw [List.cons_append, List.intercalate_cons_of_ne_nil (by simp), ih]
    simp

/-- Between words there are no other blanks than spaces. -/
theorem eq_space_of_mem_intercalate (h : ∀ w ∈ ws, IsWord w) {c : Char}
    (hmem : c ∈ [' '].intercalate ws) (hc : isBlank c = true) : c = ' ' := by
  cases ws with
  | nil => cases hmem
  | cons w ws =>
    obtain ⟨hw, hws⟩ := List.forall_mem_cons.1 h
    rw [intercalate_cons_eq, List.mem_append, List.mem_flatMap] at hmem
    rcases hmem with hmem | ⟨v, hv, hmem⟩
    · rw [hw.not_blank c hmem] at hc
      cases hc
    · rcases List.mem_cons.1 hmem with rfl | hmem
      · rfl
      · rw [(hws v hv).not_blank c hmem] at hc
        cases hc

theorem IsWord.space_notMem {w : List Char} (hw : IsWord w) : ' ' ∉ w := fun hmem =>
  absurd (hw.not_blank ' ' hmem) (by decide)

/-- Between words there are nowhere two spaces in a row. -/
theorem not_two_spaces_infix_intercalate (h : ∀ w ∈ ws, IsWord w) :
    ¬ [' ', ' '] <:+: [' '].intercalate ws := by
  induction ws with
  | nil => simp
  | cons w ws ih =>
    obtain ⟨hw, hws⟩ := List.forall_mem_cons.1 h
    cases ws with
    | nil =>
      rw [List.intercalate_singleton]
      exact fun hin => hw.space_notMem (hin.subset List.mem_cons_self)
    | cons v vs =>
      obtain ⟨hv, -⟩ := List.forall_mem_cons.1 hws
      -- the next word does not begin with a space
      have hfront : ¬ [' ', ' '] <+: ' ' :: [' '].intercalate (v :: vs) := by
        obtain ⟨d, v, rfl⟩ := List.exists_cons_of_ne_nil hv.ne_nil
        rw [List.intercalate_cons_cons_left]
        intro hpre
        have hd : ' ' = d := (List.cons_prefix_cons.1 (List.cons_prefix_cons.1 hpre).2).1
        exact hv.space_notMem (hd ▸ List.mem_cons_self)
      rw [List.intercalate_cons_cons, List.append_assoc, List.singleton_append,
        List.infix_append_iff, List.infix_cons_iff]
      rintro (hin | (hpre | hin) | ⟨front, back, heq, hfrontOf, hback⟩)
      · exact hw.space_notMem (hin.subset List.mem_cons_self)
      · exact hfront hpre
      · exact ih hws hin
      · cases front with
        | nil => exact hfront (heq ▸ hback)
        | cons d front =>
          have hd : ' ' = d := (List.cons.inj heq).1
          exact hw.space_notMem (hd ▸ hfrontOf.subset List.mem_cons_self)

end Collapse

end Mailshot
