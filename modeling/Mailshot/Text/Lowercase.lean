import Mailshot.Text.CaseData

/-!
# Lowercasing

Full lowercasing of a text: every capital goes to its small letter, the dotted capital I to an `i`
with a dot above, and a capital sigma to the final form at the end of a word.  The end of a word is
read off the neighbours: a letter with case stands before, and none follows, where characters that
case passes over do not count.
-/

set_option autoImplicit false

namespace Mailshot

/-- The small letter of a character that has exactly one, and else the character. -/
def smallLetter (c : Char) : Char :=
  if c.toNat < 0x80 then c.toLower
  else
    match lowerRuns.find? (fun r => r.first ≤ c.toNat && c.toNat ≤ r.last) with
    | some r => if (c.toNat - r.first) % r.step = 0 then Char.ofNat (c.toNat + r.shift).toNat else c
    | none => c

/-- Whether the first character that case does not pass over has case. -/
def nextHasCase : List Char → Bool
  | [] => false
  | c :: cs =>
    if inRanges caseIgnorableRanges c.toNat then nextHasCase cs else inRanges casedRanges c.toNat

/-- What a character becomes between the characters `before` (in reverse) and `after`. -/
def lowercaseAt (before : List Char) (c : Char) (after : List Char) : List Char :=
  if c = 'Σ' then
    if nextHasCase before && !nextHasCase after then ['ς'] else ['σ']
  else if c = 'İ' then ['i', '\u0307']
  else [smallLetter c]

/-- Lowercases a list behind the characters `before`, which are in reverse. -/
def lowercaseFrom (before : List Char) : List Char → List Char
  | [] => []
  | c :: cs => lowercaseAt before c cs ++ lowercaseFrom (c :: before) cs

/-- Lowercases a list of characters. -/
def lowercaseChars (cs : List Char) : List Char := lowercaseFrom [] cs

/-- Lowercases a text. -/
def lowercase (s : String) : String := String.ofList (lowercaseChars s.toList)

end Mailshot
