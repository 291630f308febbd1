import Mailshot.Text.CompositionData

/-!
# Composition

A letter with an accent can be written as one character, or as the letter and the accent, and
several marks of one letter in more than one order.  `composed` gives all these the same form: it
takes every character apart, puts marks in the order of their classes, and puts together what
belongs together, from the left to the right.

Characters that are nothing but another way to write a different one are not taken apart here.
-/

set_option autoImplicit false

namespace Mailshot
namespace Composition

/-- The class of a mark; zero for characters that stay where they are. -/
def markClass (c : Char) : Nat :=
  ((markClasses.find? fun r => r.1 ≤ c.toNat && c.toNat ≤ r.2.1).map (·.2.2)).getD 0

/-! ## Korean syllables

A syllable has a first letter, a vowel and perhaps a last letter, and the syllables are in the order
of these three. -/

/-- The two parts of a syllable: the first letter and the vowel, or both together and the last
letter. -/
def syllableParts? (c : Char) : Option (Char × Char) :=
  if 0xAC00 ≤ c.toNat ∧ c.toNat < 0xAC00 + 11172 then
    let place := c.toNat - 0xAC00
    if place % 28 = 0 then
      some (Char.ofNat (0x1100 + place / 588), Char.ofNat (0x1161 + place % 588 / 28))
    else some (Char.ofNat (c.toNat - place % 28), Char.ofNat (0x11A7 + place % 28))
  else none

/-- The syllable of two parts. -/
def syllable? (a b : Char) : Option Char :=
  let x := a.toNat
  let y := b.toNat
  if 0x1100 ≤ x ∧ x < 0x1100 + 19 ∧ 0x1161 ≤ y ∧ y < 0x1161 + 21 then
    some (Char.ofNat (0xAC00 + (x - 0x1100) * 588 + (y - 0x1161) * 28))
  else if 0xAC00 ≤ x ∧ x < 0xAC00 + 11172 ∧ (x - 0xAC00) % 28 = 0 ∧ 0x11A7 < y ∧
      y < 0x11A7 + 28 then
    some (Char.ofNat (x + (y - 0x11A7)))
  else none

/-! ## Parts -/

/-- The two parts of a character. -/
def parts? (c : Char) : Option (Char × Char) :=
  match syllableParts? c with
  | some parts => some parts
  | none =>
    match Substitution.lookup compositions c with
    | some [a, b] => some (a, b)
    | _ => none

/-- The character of two parts. -/
def whole? (a b : Char) : Option Char :=
  match syllable? a b with
  | some c => some c
  | none =>
    (compositions.find? fun s => s.image = [a.toNat, b.toNat]).map fun s => Char.ofNat s.first

/-- Takes a character apart, and so many times the first of its parts. -/
def takeApart : Nat → Char → List Char
  | 0, c => [c]
  | n + 1, c =>
    match parts? c with
    | some (a, b) => takeApart n a ++ [b]
    | none => [c]

/-- All parts of a character; there are at most four. -/
def allParts (c : Char) : List Char := if c.toNat < 0xC0 then [c] else takeApart 3 c

/-! ## The order of marks -/

/-- Puts a character in front of others, or behind the marks in front of them whose class is
lower. -/
def settle (c : Char) : List Char → List Char
  | [] => [c]
  | d :: ds =>
    if 0 < markClass d ∧ markClass d < markClass c then d :: settle c ds else c :: d :: ds

/-- Puts the marks of every letter in the order of their classes; marks of one class keep theirs. -/
def inOrder (cs : List Char) : List Char := cs.foldr settle []

/-! ## Putting together -/

/-- Puts characters together behind a letter and, in reverse, the marks behind it that did not go
together with it.  A mark is out of reach of the letter if one of its own class stands between. -/
def assemble (letter : Char) (kept : List Char) : List Char → List Char
  | [] => letter :: kept.reverse
  | c :: cs =>
    let reaches := kept.head?.all fun d => decide (markClass d < markClass c)
    match if reaches then whole? letter c else none with
    | some w => assemble w kept cs
    | none =>
      if markClass c = 0 then letter :: kept.reverse ++ assemble c [] cs
      else assemble letter (c :: kept) cs

/-- Puts characters together; marks without a letter stay as they are. -/
def assembled : List Char → List Char
  | [] => []
  | c :: cs => if markClass c = 0 then assemble c [] cs else c :: assembled cs

/-- The form that all ways to write a text have in common. -/
def composed (cs : List Char) : List Char := assembled (inOrder (cs.flatMap allParts))

end Composition
end Mailshot
