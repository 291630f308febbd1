/-!
# Blanks

The characters with the Unicode property White_Space, and what is built on them: cutting blanks off
both ends of a text, and taking a text apart into its words.
-/

set_option autoImplicit false

namespace Mailshot

/-- Whether a character has the property White_Space. -/
def isBlank (c : Char) : Bool :=
  let n := c.toNat
  (9 ≤ n && n ≤ 13) || n == 0x20 || n == 0x85 || n == 0xA0 || n == 0x1680 ||
    (0x2000 ≤ n && n ≤ 0x200A) || n == 0x2028 || n == 0x2029 || n == 0x202F || n == 0x205F ||
    n == 0x3000

/-! ## Cutting blanks off -/

/-- Drops the blanks in front. -/
def trimLeft (cs : List Char) : List Char := cs.dropWhile isBlank

/-- Drops the blanks at the end. -/
def trimRight (cs : List Char) : List Char := (cs.reverse.dropWhile isBlank).reverse

/-- Drops the blanks at both ends. -/
def trimChars (cs : List Char) : List Char := trimRight (trimLeft cs)

/-- Drops the blanks at both ends of a text. -/
def trim (s : String) : String := String.ofList (trimChars s.toList)

/-- Whether a text has nothing but blanks. -/
def blank (s : String) : Bool := (trim s).isEmpty

/-- Neither end of a list is a blank. -/
def Trimmed (cs : List Char) : Prop :=
  (∀ c, cs.head? = some c → isBlank c = false) ∧ ∀ c, cs.getLast? = some c → isBlank c = false

/-- What starts a list that lost the blanks in front is no blank. -/
theorem isBlank_of_head?_dropWhile {cs : List Char} {c : Char}
    (h : (cs.dropWhile isBlank).head? = some c) : isBlank c = false := by
  have hn := List.head?_dropWhile_not isBlank cs
  rw [h] at hn
  exact hn

theorem dropWhile_isBlank_eq_self {cs : List Char}
    (h : ∀ c, cs.head? = some c → isBlank c = false) : cs.dropWhile isBlank = cs := by
  cases cs with
  | nil => rfl
  | cons c cs => exact List.dropWhile_cons_of_neg (by simp [h c rfl])

/-- A list without a blank at either end has nothing to be cut off. -/
theorem Trimmed.trimChars_eq {cs : List Char} (h : Trimmed cs) : trimChars cs = cs := by
  rw [trimChars, trimLeft, dropWhile_isBlank_eq_self h.1, trimRight,
    dropWhile_isBlank_eq_self (by simpa [List.head?_reverse] using h.2), List.reverse_reverse]

theorem trimmed_trimChars (cs : List Char) : Trimmed (trimChars cs) := by
  refine ⟨fun c hc => ?_, fun c hc => ?_⟩
  · -- what is cut off at the end leaves the start where it was
    obtain ⟨rest, hrest⟩ : trimChars cs <+: trimLeft cs := by
      have hs := List.dropWhile_suffix (l := (trimLeft cs).reverse) isBlank
      simpa [trimChars, trimRight] using List.reverse_prefix.2 hs
    have hhead : (trimLeft cs).head? = some c := by
      rw [← hrest, List.head?_append, hc]
      rfl
    exact isBlank_of_head?_dropWhile hhead
  · rw [trimChars, trimRight, List.getLast?_reverse] at hc
    exact isBlank_of_head?_dropWhile hc

/-- Cutting blanks off twice is cutting them off once. -/
theorem trim_trim (s : String) : trim (trim s) = trim s := by
  rw [trim, trim, String.toList_ofList, (trimmed_trimChars s.toList).trimChars_eq]

/-- A text without any blank is left as it is. -/
theorem trim_eq_self {s : String} (h : ∀ c ∈ s.toList, isBlank c = false) : trim s = s := by
  have ht : Trimmed s.toList :=
    ⟨fun c hc => h c (List.mem_of_head? hc), fun c hc => h c (List.mem_of_getLast? hc)⟩
  rw [trim, ht.trimChars_eq, String.ofList_toList]

/-! ## Words -/

/-- The words of a text whose first characters, in reverse, are `current`. -/
def wordsFrom (current : List Char) : List Char → List (List Char)
  | [] => if current.isEmpty then [] else [current.reverse]
  | c :: cs =>
    if isBlank c then
      if current.isEmpty then wordsFrom [] cs else current.reverse :: wordsFrom [] cs
    else wordsFrom (c :: current) cs

/-- The longest runs of characters other than blanks, in order. -/
def words (cs : List Char) : List (List Char) := wordsFrom [] cs

/-- The words with one space between neighbours. -/
def collapse (cs : List Char) : List Char := [' '].intercalate (words cs)

end Mailshot
