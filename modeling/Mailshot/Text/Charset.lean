import Mailshot.Text.CharsetData
import Mailshot.Text.MultiByte

/-!
# From bytes to text

A `Charset` says how bytes stand for characters.  Decoding never fails: bytes that stand for nothing
become replacement characters, one for each longest piece that could have been the beginning of a
character.

A byte-order mark in front of the bytes decides the character set, whatever else was said about it,
and does not belong to the text.
-/

set_option autoImplicit false

namespace Mailshot

/-- How bytes stand for characters. -/
inductive Charset where
  /-- UTF-8. -/
  | utf8
  /-- UTF-16, the more significant byte first or last. -/
  | utf16 (bigEndian : Bool)
  /-- One byte for each character; the list gives the upper half. -/
  | singleByte (upper : List Char)
  /-- One byte for the characters of ASCII, and more for others. -/
  | multiByte (set : Charset.MultiByte)
  /-- A set that is known and not decoded, since it could hide markup: all bytes together stand for
  one replacement character. -/
  | withheld

namespace Charset

/-! ## UTF-8 -/

/-- A character of which some bytes are read. -/
structure Partial where
  /-- The number of bytes that are missing. -/
  missing : Nat
  /-- The least value of the next byte. -/
  low : Nat
  /-- The greatest value of the next byte. -/
  high : Nat
  /-- The bits so far. -/
  value : Nat

/-- The first byte of a character: a whole character, or the beginning of one. -/
def startUtf8 (b : Nat) : List Char × Option Partial :=
  if b < 0x80 then ([Char.ofNat b], none)
  else if 0xC2 ≤ b ∧ b ≤ 0xDF then ([], some ⟨1, 0x80, 0xBF, b % 0x20⟩)
  else if 0xE0 ≤ b ∧ b ≤ 0xEF then
    ([], some ⟨2, if b = 0xE0 then 0xA0 else 0x80, if b = 0xED then 0x9F else 0xBF, b % 0x10⟩)
  else if 0xF0 ≤ b ∧ b ≤ 0xF4 then
    ([], some ⟨3, if b = 0xF0 then 0x90 else 0x80, if b = 0xF4 then 0x8F else 0xBF, b % 0x08⟩)
  else ([replacement], none)

/-- One more byte. -/
def stepUtf8 (pending : Option Partial) (b : Nat) : List Char × Option Partial :=
  match pending with
  | none => startUtf8 b
  | some p =>
    if p.low ≤ b ∧ b ≤ p.high then
      let value := 64 * p.value + b % 64
      if p.missing = 1 then ([Char.ofNat value], none)
      else ([], some ⟨p.missing - 1, 0x80, 0xBF, value⟩)
    else
      let (cs, next) := startUtf8 b
      (replacement :: cs, next)

/-- Decodes UTF-8 behind some bytes of a character. -/
def decodeUtf8 (pending : Option Partial) : List UInt8 → List Char
  | [] => if pending.isSome then [replacement] else []
  | b :: bs =>
    let (cs, next) := stepUtf8 pending b.toNat
    cs ++ decodeUtf8 next bs

/-- The text of bytes that are UTF-8 throughout. -/
def utf8Text? (bytes : List UInt8) : Option String :=
  String.fromUTF8? (ByteArray.mk bytes.toArray)

/-! ## UTF-16 -/

/-- Decodes UTF-16; `high` is the first half of a pair that waits for the second.  Half a pair and
half a unit at the end share one replacement character. -/
def decodeUtf16 (bigEndian : Bool) (high : Option Nat) : List UInt8 → List Char
  | [] => if high.isSome then [replacement] else []
  | [_] => [replacement]
  | a :: b :: bs =>
    let u := if bigEndian then 256 * a.toNat + b.toNat else 256 * b.toNat + a.toNat
    let unpaired := if high.isSome then [replacement] else []
    if 0xD800 ≤ u ∧ u ≤ 0xDBFF then unpaired ++ decodeUtf16 bigEndian (some u) bs
    else if 0xDC00 ≤ u ∧ u ≤ 0xDFFF then
      match high with
      | some h =>
        Char.ofNat (0x10000 + (h - 0xD800) * 0x400 + (u - 0xDC00)) :: decodeUtf16 bigEndian none bs
      | none => replacement :: decodeUtf16 bigEndian none bs
    else unpaired ++ Char.ofNat u :: decodeUtf16 bigEndian none bs

/-! ## All character sets -/

/-- Decodes bytes. -/
def decode : Charset → List UInt8 → List Char
  | utf8, bytes => decodeUtf8 none bytes
  | utf16 bigEndian, bytes => decodeUtf16 bigEndian none bytes
  | singleByte upper, bytes =>
    bytes.map fun b =>
      if b.toNat < 0x80 then Char.ofNat b.toNat else upper.getD (b.toNat - 0x80) replacement
  | multiByte set, bytes => set.automaton.run bytes
  | withheld, bytes => if bytes.isEmpty then [] else [replacement]

/-- The set whose upper half is for private use. -/
def privateUse : Charset := singleByte ((List.range 0x80).map fun i => Char.ofNat (0xF780 + i))

/-- A text with small letters for the capital ones of ASCII. -/
def smallAscii (s : String) : String := String.ofList (s.toList.map Char.toLower)

/-- The character set of a label. -/
def ofLabel? (label : String) : Option Charset :=
  let isGap (c : Char) : Bool := c ∈ [' ', '\t', '\n', '\x0c', '\r']
  let cs := ((label.toList.dropWhile isGap).reverse.dropWhile isGap).reverse
  let name := smallAscii (String.ofList cs)
  if name ∈ ["unicode-1-1-utf-8", "unicode11utf8", "unicode20utf8", "utf-8", "utf8",
      "x-unicode20utf8"] then some .utf8
  else if name ∈ ["unicodefffe", "utf-16be"] then some (.utf16 true)
  else if name ∈ ["csunicode", "iso-10646-ucs-2", "ucs-2", "unicode", "unicodefeff", "utf-16",
      "utf-16le"] then some (.utf16 false)
  else if name ∈ ["csiso2022kr", "hz-gb-2312", "iso-2022-cn", "iso-2022-cn-ext", "iso-2022-kr",
      "replacement"] then some .withheld
  else if name = "x-user-defined" then some .privateUse
  else
    match MultiByte.all.find? fun set => name ∈ set.labels with
    | some set => some (.multiByte set)
    | none =>
      (byteSets.find? fun set => name ∈ set.labels).map fun set => .singleByte set.upper.toList

/-- The text of bytes for which a character set was announced. -/
def text (announced : Charset) (bytes : List UInt8) : String :=
  String.ofList <|
    match bytes with
    | 0xEF :: 0xBB :: 0xBF :: rest => utf8.decode rest
    | 0xFF :: 0xFE :: rest => (utf16 false).decode rest
    | 0xFE :: 0xFF :: rest => (utf16 true).decode rest
    | bytes => announced.decode bytes

end Charset

end Mailshot
