import Mailshot.Json.Value

/-!
# Writing JSON

`Json.print` writes a value without blanks, `Json.pretty` with one item or member a line, indented
by two spaces a level.  Strings escape quotes, backslashes and controls, and nothing else.
-/

set_option autoImplicit false

namespace Mailshot
namespace Json

/-! ## Strings -/

/-- A digit of a number below sixteen. -/
def hexChar (n : Nat) : Char := (Nat.toDigits 16 n).headD '0'

/-- One character inside a string. -/
def escapeChar (c : Char) : List Char :=
  match c with
  | '"' => ['\\', '"']
  | '\\' => ['\\', '\\']
  | '\x08' => ['\\', 'b']
  | '\x0c' => ['\\', 'f']
  | '\n' => ['\\', 'n']
  | '\r' => ['\\', 'r']
  | '\t' => ['\\', 't']
  | c =>
    if c.toNat < 0x20 then ['\\', 'u', '0', '0', hexChar (c.toNat / 16), hexChar (c.toNat % 16)]
    else [c]

/-- A string with its quotes. -/
def printString (s : String) : List Char := '"' :: (s.toList.flatMap escapeChar ++ ['"'])

/-! ## Without blanks -/

mutual

/-- The characters of a value. -/
def printChars : Json → List Char
  | .null => ['n', 'u', 'l', 'l']
  | .bool true => ['t', 'r', 'u', 'e']
  | .bool false => ['f', 'a', 'l', 's', 'e']
  | .number n => n.text.toList
  | .string s => printString s
  | .array items => '[' :: (printItems items ++ [']'])
  | .object members => '\x7b' :: (printMembers members ++ ['\x7d'])

/-- Items with commas between them. -/
def printItems : List Json → List Char
  | [] => []
  | v :: vs => v.printChars ++ printMoreItems vs

/-- Items with a comma in front of each. -/
def printMoreItems : List Json → List Char
  | [] => []
  | v :: vs => ',' :: (v.printChars ++ printMoreItems vs)

/-- Members with commas between them. -/
def printMembers : List (String × Json) → List Char
  | [] => []
  | (k, v) :: ms => printString k ++ ':' :: (v.printChars ++ printMoreMembers ms)

/-- Members with a comma in front of each. -/
def printMoreMembers : List (String × Json) → List Char
  | [] => []
  | (k, v) :: ms => ',' :: (printString k ++ ':' :: (v.printChars ++ printMoreMembers ms))

end

/-- The text of a value, without blanks. -/
def print (v : Json) : String := String.ofList v.printChars

/-! ## One item a line -/

/-- A line break and the indentation of a level. -/
def newLine (level : Nat) : List Char := '\n' :: List.replicate (2 * level) ' '

mutual

/-- The characters of a value that stands at a level of indentation. -/
def prettyChars (level : Nat) : Json → List Char
  | .array [] => ['[', ']']
  | .array (v :: vs) =>
    '[' :: (newLine (level + 1) ++ v.prettyChars (level + 1) ++ prettyItems (level + 1) vs ++
      newLine level ++ [']'])
  | .object [] => ['\x7b', '\x7d']
  | .object ((k, v) :: ms) =>
    '\x7b' :: (newLine (level + 1) ++ printString k ++ [':', ' '] ++ v.prettyChars (level + 1) ++
      prettyMembers (level + 1) ms ++ newLine level ++ ['\x7d'])
  | v => v.printChars

/-- Further items, each behind a comma on a line of its own. -/
def prettyItems (level : Nat) : List Json → List Char
  | [] => []
  | v :: vs => ',' :: (newLine level ++ v.prettyChars level ++ prettyItems level vs)

/-- Further members, each behind a comma on a line of its own. -/
def prettyMembers (level : Nat) : List (String × Json) → List Char
  | [] => []
  | (k, v) :: ms =>
    ',' :: (newLine level ++ printString k ++ [':', ' '] ++ v.prettyChars level ++
      prettyMembers level ms)

end

/-- The text of a value, one item or member a line. -/
def pretty (v : Json) : String := String.ofList (v.prettyChars 0)

end Json
end Mailshot
