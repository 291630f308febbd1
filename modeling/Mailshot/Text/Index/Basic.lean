/-!
# Indexes of characters

Character sets of more than one byte number their characters, and bytes stand for numbers.  An
`Index` holds the characters in the order of their numbers, and a replacement character for each
number that stands for none.
-/

set_option autoImplicit false

namespace Mailshot
namespace Charset

/-- The character that stands for what cannot be decoded. -/
def replacement : Char := '\ufffd'

/-- The characters of a set in the order of their numbers. -/
structure Index where
  /-- The characters, from number zero on. -/
  chars : Array Char

namespace Index

/-- Characters that are given as a text, in which a point is a gap and line breaks do not count. -/
def characters (text : String) : List Char :=
  (text.toList.filter fun c => c ≠ '\n' && c ≠ ' ').map fun c => if c = '.' then replacement else c

/-- So many characters with consecutive codes. -/
def codes (first count : Nat) : List Char :=
  (List.range count).map fun i => Char.ofNat (first + i)

/-- The index of some runs of characters, each with the number of its first character, in ascending
order. -/
def ofRuns (runs : List (Nat × List Char)) : Index :=
  ⟨runs.foldl (fun chars run =>
    chars ++ Array.replicate (run.1 - chars.size) replacement ++ run.2.toArray) #[]⟩

/-- The character with a number. -/
def find? (index : Index) (n : Nat) : Option Char := (index.chars[n]?).filter (· ≠ replacement)

end Index

end Charset
end Mailshot
