import Mailshot.Text.Charset

/-!
# Percent signs

In a URL a byte can be written as a percent sign and two hexadecimal digits.  Which characters must
be written so depends on the part of the URL (`EncodeSet`); characters beyond ASCII always are, byte
for byte.
-/

set_option autoImplicit false

namespace Mailshot
namespace Url

/-- The ASCII characters that are written with percent signs in some part of a URL. -/
abbrev EncodeSet := Char → Bool

/-- Controls. -/
def controlSet : EncodeSet := fun c => decide (c.toNat < 0x20) || decide (0x7F ≤ c.toNat)

/-- What is encoded in a fragment. -/
def fragmentSet : EncodeSet := fun c => controlSet c || c ∈ [' ', '"', '<', '>', '\x60']

/-- What is encoded in a path. -/
def pathSet : EncodeSet := fun c => fragmentSet c || c ∈ ['#', '?', '\x7b', '\x7d']

/-- What is encoded in a user name and in a password. -/
def userSet : EncodeSet := fun c =>
  pathSet c || c ∈ ['/', ':', ';', '=', '@', '[', '\\', ']', '^', '|']

/-- What is encoded in a query. -/
def querySet : EncodeSet := fun c => controlSet c || c ∈ [' ', '"', '#', '<', '>']

/-- What is encoded in a query of the schemes with a host. -/
def specialQuerySet : EncodeSet := fun c => querySet c || c == '\''

/-- A hexadecimal digit, with capital letters. -/
def hexChar (n : Nat) : Char := (Nat.digitChar n).toUpper

/-- One byte with a percent sign. -/
def encodeByte (b : UInt8) : List Char :=
  ['%', hexChar (b.toNat / 16), hexChar (b.toNat % 16)]

/-- Encodes one character if it belongs to a set. -/
def encodeChar (set : EncodeSet) (c : Char) : List Char :=
  if set c then (String.utf8EncodeChar c).flatMap encodeByte else [c]

/-- Encodes all characters that belong to a set. -/
def encode (set : EncodeSet) (cs : List Char) : String :=
  String.ofList (cs.flatMap (encodeChar set))

/-- The value of a hexadecimal digit. -/
def hexValue? (c : Char) : Option Nat :=
  if c.isDigit then some (c.toNat - '0'.toNat)
  else if 'a' ≤ c ∧ c ≤ 'f' then some (c.toNat - 'a'.toNat + 10)
  else if 'A' ≤ c ∧ c ≤ 'F' then some (c.toNat - 'A'.toNat + 10)
  else none

/-- The bytes of a text, with percent signs resolved.  A percent sign without two digits behind it
stands for itself. -/
def decodeBytes : List Char → List UInt8
  | [] => []
  | '%' :: a :: b :: cs =>
    match hexValue? a, hexValue? b with
    | some x, some y => UInt8.ofNat (16 * x + y) :: decodeBytes cs
    | _, _ => 0x25 :: decodeBytes (a :: b :: cs)
  | c :: cs => String.utf8EncodeChar c ++ decodeBytes cs

end Url
end Mailshot
