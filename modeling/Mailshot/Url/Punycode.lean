/-!
# Names beyond ASCII

The bootstring encoding that host names use: the ASCII characters of a label come first, and behind
a hyphen stand the places and values of all others, as differences in a number system of base 36
whose digits adapt to what came before.

`encode` writes a label, and `decode?` reads what was written.
-/

set_option autoImplicit false

namespace Mailshot
namespace Punycode

/-- The digit of a value below 36. -/
def digit (n : Nat) : Char := Char.ofNat (if n < 26 then 0x61 + n else 0x30 + n - 26)

/-- The value of a digit. -/
def value? (c : Char) : Option Nat :=
  if 'a' ≤ c ∧ c ≤ 'z' then some (c.toNat - 0x61)
  else if 'A' ≤ c ∧ c ≤ 'Z' then some (c.toNat - 0x41)
  else if c.isDigit then some (c.toNat - 0x30 + 26)
  else none

/-- The least value that a digit in this place must have for another one to follow. -/
def threshold (place bias : Nat) : Nat := max 1 (min 26 (place - bias))

theorem threshold_bounds (place bias : Nat) :
    1 ≤ threshold place bias ∧ threshold place bias ≤ 26 := by
  unfold threshold
  omega

/-- Divides by 35 until a difference is small, counting the steps. -/
def shrink (delta : Nat) : Nat × Nat :=
  if 455 < delta then
    let (d, k) := shrink (delta / 35)
    (d, k + 36)
  else (delta, 0)
termination_by delta

/-- The bias after a difference, when so many characters are written. -/
def adapt (delta points : Nat) (first : Bool) : Nat :=
  let delta := if first then delta / 700 else delta / 2
  let (d, k) := shrink (delta + delta / points)
  k + 36 * d / (d + 38)

/-- The digits of a difference. -/
def digits (bias place q : Nat) : List Char :=
  let t := threshold place bias
  if q < t then [digit q]
  else digit (t + (q - t) % (36 - t)) :: digits bias (place + 36) ((q - t) / (36 - t))
termination_by q
decreasing_by
  have := threshold_bounds place bias
  exact Nat.lt_of_le_of_lt (Nat.div_le_self _ _) (by omega)

/-- The state of an encoder. -/
structure Encoder where
  /-- What is written, in reverse. -/
  written : List Char
  /-- The difference so far. -/
  delta : Nat
  /-- The bias. -/
  bias : Nat
  /-- How many characters are written. -/
  points : Nat

/-- Passes one character of the label while characters with the code `n` are written. -/
def Encoder.pass (basic n : Nat) (e : Encoder) (c : Char) : Encoder :=
  if c.toNat < n then { e with delta := e.delta + 1 }
  else if c.toNat = n then
    { written := (digits e.bias 36 e.delta).reverse ++ e.written
      delta := 0
      bias := adapt e.delta (e.points + 1) (e.points == basic)
      points := e.points + 1 }
  else e

/-- Writes the characters with these codes, one code after the other; `next` is the least code that
is left. -/
def Encoder.codes (label : List Char) (basic next : Nat) (e : Encoder) : List Nat → Encoder
  | [] => e
  | n :: ns =>
    let e := { e with delta := e.delta + (n - next) * (e.points + 1) }
    let e := label.foldl (Encoder.pass basic n) e
    Encoder.codes label basic (n + 1) { e with delta := e.delta + 1 } ns

/-- Writes a label in ASCII, without a mark in front. -/
def encode (label : List Char) : List Char :=
  let ascii := label.filter (·.toNat < 128)
  let codes := ((label.map (·.toNat)).filter (128 ≤ ·)).eraseDups.mergeSort
  let e := Encoder.codes label ascii.length 128 ⟨[], 0, 72, ascii.length⟩ codes
  ascii ++ (if ascii.isEmpty then [] else ['-']) ++ e.written.reverse

/-- The state of a decoder. -/
structure Decoder where
  /-- The characters so far. -/
  label : List Char
  /-- The place of the next character. -/
  index : Nat
  /-- The code of the last character. -/
  code : Nat
  /-- The bias. -/
  bias : Nat
  /-- Whether no difference is read yet. -/
  first : Bool
  /-- The place of the next digit, the weight of it, and the difference so far. -/
  number : Nat × Nat × Nat

/-- The greatest number that a decoder counts to. -/
def greatest : Nat := Nat.pow 2 32 - 1

/-- Reads digits up to the end, each complete difference as a character. -/
def Decoder.read? (d : Decoder) : List Char → Option (List Char)
  | [] => if d.number.1 = 36 then some d.label else none
  | c :: cs => do
    let v ← value? c
    let (place, weight, delta) := d.number
    let delta := delta + v * weight
    let t := threshold place d.bias
    if greatest < d.index + delta then none
    else if v < t then
      let points := d.label.length + 1
      let code := d.code + (d.index + delta) / points
      let index := (d.index + delta) % points
      if (Nat.isValidChar code : Bool) then
        Decoder.read?
          { label := d.label.insertIdx index (Char.ofNat code), index := index + 1, code
            bias := adapt delta points d.first, first := false, number := (36, 1, 0) } cs
      else none
    else if greatest < weight * (36 - t) then none
    else Decoder.read? { d with number := (place + 36, weight * (36 - t), delta) } cs

/-- The label that a text, without the mark in front, stands for.  What stands in front of the last
hyphen is ASCII, and a hyphen with nothing in front of it is none. -/
def decode? (cs : List Char) : Option (List Char) :=
  let tail := (cs.reverse.takeWhile (· ≠ '-')).reverse
  let front := cs.take (cs.length - tail.length)
  if front = ['-'] then none
  else Decoder.read? ⟨front.dropLast, 0, 128, 72, true, (36, 1, 0)⟩ tail

end Punycode
end Mailshot
