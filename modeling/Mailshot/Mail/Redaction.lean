import Mailshot.Text.Blank

/-!
# Error texts without secrets

What a relay answers to a message that it refuses is shown to people and stored, so it is cleaned
first: runs of blanks become single spaces, keys and tokens are replaced, and what is left is cut
after 256 characters.

A `Secret` says how much of the beginning of a text is a secret.  A secret always reaches as far as
its characters do.
-/

set_option autoImplicit false

namespace Mailshot
namespace Redaction

/-- How many characters at the beginning of a text are a secret; nothing if it begins with none. -/
abbrev Secret := List Char → Option Nat

/-- Whether a character is a letter or a digit of ASCII. -/
def isKeyChar (c : Char) : Bool := c.isAlphanum

/-- Whether a character can belong to a part of a key with two parts. -/
def isPartChar (c : Char) : Bool := c.isAlphanum || c == '_' || c == '-'

/-- Whether a character can belong to a token. -/
def isTokenChar (c : Char) : Bool := c.isAlphanum || c == '.' || c == '_' || c == '-'

/-- The length of the run of characters of a kind at the beginning of a text, if it is not shorter
than `least`. -/
def run? (kind : Char → Bool) (least : Nat) (cs : List Char) : Option Nat :=
  let n := (cs.takeWhile kind).length
  if least ≤ n then some n else none

/-- A key of two parts of at least 16 characters: `SG.….…`. -/
def twoPartKey : Secret
  | 'S' :: 'G' :: '.' :: cs => do
    let first ← run? isPartChar 16 cs
    match cs.drop first with
    | '.' :: rest =>
      let second ← run? isPartChar 16 rest
      return 3 + first + 1 + second
    | _ => none
  | _ => none

/-- A key of at least 24 characters: `key-…`. -/
def plainKey : Secret
  | 'k' :: 'e' :: 'y' :: '-' :: cs => (run? isKeyChar 24 cs).map (4 + ·)
  | _ => none

/-- A token of at least 16 characters: `Bearer …`. -/
def bearerToken : Secret
  | 'B' :: 'e' :: 'a' :: 'r' :: 'e' :: 'r' :: cs => do
    let gap ← run? isBlank 1 cs
    let token ← run? isTokenChar 16 (cs.drop gap)
    return 6 + gap + token
  | _ => none

/-- What stands in the place of a secret. -/
def mask : List Char := "[REDACTED]".toList

/-- Masks every secret of a kind, from left to right; the first `skip` characters belong to one that
is masked already. -/
def maskFrom (secret : Secret) : Nat → List Char → List Char
  | _, [] => []
  | skip + 1, _ :: cs => maskFrom secret skip cs
  | 0, c :: cs =>
    match secret (c :: cs) with
    | some n => mask ++ maskFrom secret (n - 1) cs
    | none => c :: maskFrom secret 0 cs

/-- Masks every secret, one kind after the other. -/
def maskAll (cs : List Char) : List Char :=
  [twoPartKey, plainKey, bearerToken].foldl (fun cs secret => maskFrom secret 0 cs) cs

/-- How many characters are kept. -/
def kept : Nat := 256

/-- Cuts a text that is too long, and says so at its end. -/
def shorten (cs : List Char) : List Char :=
  if kept < cs.length then cs.take kept ++ "...[truncated]".toList else cs

/-- Cleans the text of an answer. -/
def clean (s : String) : String := String.ofList (shorten (maskAll (collapse s.toList)))

end Redaction
end Mailshot
