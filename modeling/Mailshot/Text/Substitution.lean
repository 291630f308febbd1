import Mailshot.Text.Blank

/-!
# Tables of substitutions

What some characters stand for, in a table that is written as a text.  Each word of the text is one
entry: the character, a colon, and the characters that it stands for with plus signs between them,
all as numbers in base 16.  An entry for several characters has the first and the last one, and
behind a slash the distance between neighbours if that is not one; what they stand for is then as
far apart as they are.
-/

set_option autoImplicit false

namespace Mailshot

/-- Every `step`-th character from `first` to `last` stands for others. -/
structure Substitution where
  /-- The first character. -/
  first : Nat
  /-- The last character. -/
  last : Nat
  /-- The distance between neighbours. -/
  step : Nat
  /-- What the first character stands for. -/
  image : List Nat
deriving DecidableEq, Inhabited

namespace Substitution

/-- The value of a digit in base 16, with capital letters. -/
def digit (c : Char) : Nat := if c.isDigit then c.toNat - '0'.toNat else c.toNat - 'A'.toNat + 10

/-- A number in base 16. -/
def number (cs : List Char) : Nat := cs.foldl (fun n c => 16 * n + digit c) 0

/-- What stands in front of the first sign of a kind, and what stands behind it. -/
def cut (sign : Char) (cs : List Char) : List Char × List Char :=
  (cs.takeWhile (· ≠ sign), (cs.dropWhile (· ≠ sign)).drop 1)

/-- Numbers with plus signs between them, behind the number `n`, some of whose digits are read. -/
def numbersFrom (n : Nat) : List Char → List Nat
  | [] => [n]
  | c :: cs => if c = '+' then n :: numbersFrom 0 cs else numbersFrom (16 * n + digit c) cs

/-- One entry. -/
def ofWord (word : List Char) : Substitution :=
  let (source, image) := cut ':' word
  let (range, step) := cut '/' source
  let (first, last) := cut '-' range
  { first := number first
    last := if last.isEmpty then number first else number last
    step := if step.isEmpty then 1 else number step
    image := numbersFrom 0 image }

/-- The table that is written as a text. -/
def table (text : String) : List Substitution := (words text.toList).map ofWord

/-- What a character stands for by one entry. -/
def image? (s : Substitution) (c : Char) : Option (List Char) :=
  if s.first ≤ c.toNat ∧ c.toNat ≤ s.last ∧ (c.toNat - s.first) % s.step = 0 then
    some (s.image.map fun n => Char.ofNat (n + (c.toNat - s.first)))
  else none

/-- What a character stands for by a table. -/
def lookup (table : List Substitution) (c : Char) : Option (List Char) :=
  table.findSome? (·.image? c)

end Substitution

end Mailshot
