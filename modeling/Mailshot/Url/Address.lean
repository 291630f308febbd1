import Mailshot.Number.Decimal
import Mailshot.Url.Fault
import Mailshot.Url.Percent

/-!
# Numeric addresses

IPv4 addresses are read generously: one to four numbers, each decimal, octal or hexadecimal, the
last of which fills all bytes that are left.  IPv6 addresses are read as they are written, and
written with the longest run of zeros left out.
-/

set_option autoImplicit false

namespace Mailshot
namespace Url

/-- The parts of a list between the occurrences of a character. -/
def splitAt (sep : Char) : List Char → List (List Char)
  | [] => [[]]
  | c :: cs =>
    if c = sep then [] :: splitAt sep cs
    else
      match splitAt sep cs with
      | part :: parts => (c :: part) :: parts
      | [] => [[c]]

/-- A whole number in some base below 17; nothing if a character is no digit of it. -/
def numberOf? (base : Nat) (cs : List Char) : Option Nat :=
  cs.foldlM (fun n c =>
    match hexValue? c with
    | some d => if d < base then some (base * n + d) else none
    | none => none) 0

/-! ## IPv4 -/

/-- One number of an IPv4 address. -/
def ipv4Part? : List Char → Option Nat
  | [] => none
  | '0' :: 'x' :: cs => numberOf? 16 cs
  | '0' :: 'X' :: cs => numberOf? 16 cs
  | '0' :: c :: cs => numberOf? 8 (c :: cs)
  | cs => numberOf? 10 cs

/-- The labels of a name, a dot at the end left out. -/
def labels (cs : List Char) : List (List Char) :=
  let parts := splitAt '.' cs
  if 1 < parts.length ∧ parts.getLast? = some [] then parts.dropLast else parts

/-- Whether the last label of a name is a number, so that the name has to be an IPv4 address. -/
def endsInNumber (cs : List Char) : Bool :=
  match (labels cs).getLast? with
  | some last =>
    (!last.isEmpty && last.all Char.isDigit) ||
      (match last with
        | '0' :: x :: rest => (x == 'x' || x == 'X') && (numberOf? 16 rest).isSome
        | _ => false)
  | none => false

/-- The number that an IPv4 address stands for. -/
def ipv4? (cs : List Char) : Option Nat := do
  let parts ← (labels cs).mapM ipv4Part?
  if 4 < parts.length then none
  else
    let last ← parts.getLast?
    let front := parts.dropLast
    if front.all (· ≤ 255) ∧ last < Nat.pow 256 (4 - front.length) then
      return front.foldl (fun n p => 256 * n + p) 0 * Nat.pow 256 (4 - front.length) + last
    else none

/-- An IPv4 address with dots. -/
def ipv4Text (n : Nat) : String :=
  String.intercalate "."
    ([Nat.pow 2 24, Nat.pow 2 16, Nat.pow 2 8, 1].map fun unit => toString (n / unit % 256))

/-! ## IPv6 -/

/-- A group of an IPv6 address. -/
def ipv6Group? (cs : List Char) : Option Nat :=
  if 1 ≤ cs.length ∧ cs.length ≤ 4 then numberOf? 16 cs else none

/-- A number of the four at the end of an IPv6 address: decimal, without zeros in front. -/
def byteOf? (cs : List Char) : Option Nat :=
  if cs.isEmpty ∨ cs.any (!·.isDigit) ∨ (1 < cs.length ∧ cs.head? = some '0') then none
  else
    let n := Decimal.ofDigits cs
    if n ≤ 255 then some n else none

/-- The groups of a part of an IPv6 address.  The last one may be four numbers with dots. -/
def ipv6Groups? (cs : List Char) : Option (List Nat) :=
  if cs.isEmpty then some []
  else
    let parts := splitAt ':' cs
    match parts.getLast? with
    | none => none
    | some last =>
      if last.contains '.' then do
        let front ← parts.dropLast.mapM ipv6Group?
        match ← (splitAt '.' last).mapM byteOf? with
        | [a, b, c, d] => return front ++ [256 * a + b, 256 * c + d]
        | _ => none
      else parts.mapM ipv6Group?

/-- What stands in front of the first two colons in a row and what stands behind them. -/
def splitColons? : List Char → Option (List Char × List Char)
  | ':' :: ':' :: cs => some ([], cs)
  | [] => none
  | c :: cs => (splitColons? cs).map fun p => (c :: p.1, p.2)

/-- The eight groups of an IPv6 address. -/
def ipv6? (cs : List Char) : Option (List Nat) :=
  match splitColons? cs with
  | none => (ipv6Groups? cs).filter (·.length = 8)
  | some (left, right) => do
    let l ← ipv6Groups? left
    let r ← ipv6Groups? right
    if l.length + r.length ≤ 7 ∧ !left.contains '.' then
      return l ++ List.replicate (8 - l.length - r.length) 0 ++ r
    else none

/-- The length of the run of zeros that starts here. -/
def zeros (groups : List Nat) : Nat := (groups.takeWhile (· = 0)).length

/-- The first of the longest runs of zeros: its place and its length. -/
def longestRun : List Nat → Nat × Nat
  | [] => (0, 0)
  | g :: gs =>
    let here := zeros (g :: gs)
    let (place, length) := longestRun gs
    if length ≤ here then (0, here) else (place + 1, length)

/-- Groups with colons between them. -/
def groupsText (groups : List Nat) : String :=
  String.intercalate ":" (groups.map fun g => String.ofList (Nat.toDigits 16 g))

/-- An IPv6 address in brackets. -/
def ipv6Text (groups : List Nat) : String :=
  let (place, length) := longestRun groups
  if length < 2 then "[" ++ groupsText groups ++ "]"
  else
    "[" ++ groupsText (groups.take place) ++ "::" ++
      groupsText (groups.drop (place + length)) ++ "]"

end Url
end Mailshot
