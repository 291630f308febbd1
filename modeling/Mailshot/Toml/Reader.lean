import Mailshot.Number.Decimal
import Mailshot.Toml.Value

/-!
# Reading TOML

Readers take a value off the front of a text and return what is left.  `Toml.ofText?` reads a whole
document: lines that are blank, a comment, a header, or a key with its value.

Lists and tables in braces may stand inside each other, so their readers call each other.  Each call
stands further back in the text than the one before, so a bound on the number of calls is taken from
the length of the text (`fuel`); how deep they may stand is limited on its own (`room`).
-/

set_option autoImplicit false

namespace Mailshot
namespace Toml

/-- How many lists and tables in braces may stand inside each other. -/
def depthLimit : Nat := 79

/-- How many parts a key may have. -/
def keyLimit : Nat := 79

/-! ## Characters -/

/-- Whether a character is a blank inside a line. -/
def isGap (c : Char) : Bool := c == ' ' || c == '\t'

/-- Whether a character may stand in a comment, and in a text on one line. -/
def isPlain (c : Char) : Bool := c == '\t' || (decide (0x20 ≤ c.toNat) && c ≠ '\x7f')

/-- Drops blanks. -/
def skipGap (cs : List Char) : List Char := cs.dropWhile isGap

/-- Takes a line break. -/
def newline? : List Char → Option (List Char)
  | '\n' :: cs => some cs
  | '\r' :: '\n' :: cs => some cs
  | _ => none

/-- Drops a comment. -/
def skipComment : List Char → List Char
  | '#' :: cs => cs.dropWhile isPlain
  | cs => cs

/-- Takes the rest of a line in which nothing but a comment is left. -/
def endLine? (cs : List Char) : Option (List Char) :=
  match skipComment (skipGap cs) with
  | [] => some []
  | cs => newline? cs

/-- Drops blanks, comments and line breaks; a comment has to end with its line. -/
def skipLines (fuel : Nat) (cs : List Char) : List Char :=
  let cs := skipGap cs
  match fuel, newline? (skipComment cs) with
  | fuel + 1, some rest => skipLines fuel rest
  | _, _ => cs

/-! ## Texts -/

/-- What a letter behind a backslash stands for. -/
def escaped? : Char → Option Char
  | 'b' => some '\x08'
  | 't' => some '\t'
  | 'n' => some '\n'
  | 'f' => some '\x0c'
  | 'r' => some '\r'
  | '"' => some '"'
  | '\\' => some '\\'
  | _ => none

/-- The value of hexadecimal digits. -/
def hex? (cs : List Char) : Option Nat :=
  cs.foldlM (fun n c =>
    if c.isDigit then some (16 * n + (c.toNat - '0'.toNat))
    else if 'a' ≤ c ∧ c ≤ 'f' then some (16 * n + (c.toNat - 'a'.toNat + 10))
    else if 'A' ≤ c ∧ c ≤ 'F' then some (16 * n + (c.toNat - 'A'.toNat + 10))
    else none) 0

/-- Takes a character that is written as its number, in so many digits. -/
def numbered? (width : Nat) (cs : List Char) : Option (Char × List Char) := do
  if cs.length < width then none
  else
    let n ← hex? (cs.take width)
    if n.isValidChar then return (Char.ofNat n, cs.drop width) else none

/-- Takes what stands behind a backslash. -/
def escape? : List Char → Option (Char × List Char)
  | 'u' :: cs => numbered? 4 cs
  | 'U' :: cs => numbered? 8 cs
  | c :: cs => (escaped? c).map fun e => (e, cs)
  | [] => none

/-- Takes a text on one line up to its closing quote. -/
def basic? (fuel : Nat) (read : List Char) (cs : List Char) : Option (String × List Char) :=
  match fuel, cs with
  | _, '"' :: cs => some (String.ofList read.reverse, cs)
  | fuel + 1, '\\' :: cs => (escape? cs).bind fun (e, cs) => basic? fuel (e :: read) cs
  | fuel + 1, c :: cs => if isPlain c then basic? fuel (c :: read) cs else none
  | _, _ => none

/-- Takes a text without escapes on one line up to its closing quote. -/
def literal? (read : List Char) : List Char → Option (String × List Char)
  | '\'' :: cs => some (String.ofList read.reverse, cs)
  | c :: cs => if isPlain c then literal? (c :: read) cs else none
  | [] => none

/-- Takes the three quotes that close a text of several lines; one or two more in front of them
belong to the text. -/
def closing? (quote : Char) (read cs : List Char) : Option (String × List Char) :=
  let n := (cs.takeWhile (· = quote)).length
  if n < 3 then none
  else
    let own := min (n - 3) 2
    some (String.ofList (List.replicate own quote ++ read).reverse, cs.drop (3 + own))

/-- Drops blanks and line breaks. -/
def skipBreaks : List Char → List Char
  | '\r' :: '\n' :: cs => skipBreaks cs
  | c :: cs => if isGap c || c == '\n' then skipBreaks cs else c :: cs
  | [] => []

/-- Takes a text of several lines up to its closing quotes.  A backslash at the end of a line drops
all blanks and line breaks that follow. -/
def multiBasic? (fuel : Nat) (read : List Char) (cs : List Char) : Option (String × List Char) :=
  match fuel with
  | 0 => none
  | fuel + 1 =>
    match closing? '"' read cs with
    | some done => some done
    | none =>
      match cs with
      | '\\' :: rest =>
        match newline? (skipGap rest) with
        | some next => multiBasic? fuel read (skipBreaks next)
        | none => (escape? rest).bind fun (e, rest) => multiBasic? fuel (e :: read) rest
      | c :: rest =>
        match newline? cs with
        | some next => multiBasic? fuel ('\n' :: read) next
        | none => if isPlain c then multiBasic? fuel (c :: read) rest else none
      | [] => none

/-- Takes a text of several lines without escapes up to its closing quotes. -/
def multiLiteral? (fuel : Nat) (read : List Char) (cs : List Char) : Option (String × List Char) :=
  match fuel with
  | 0 => none
  | fuel + 1 =>
    match closing? '\'' read cs with
    | some done => some done
    | none =>
      match newline? cs, cs with
      | some next, _ => multiLiteral? fuel ('\n' :: read) next
      | none, c :: rest => if isPlain c then multiLiteral? fuel (c :: read) rest else none
      | none, [] => none

/-- Drops the line break right behind opening quotes. -/
def skipFirstNewline (cs : List Char) : List Char := (newline? cs).getD cs

/-- Takes a text in any of the four forms. -/
def text? : List Char → Option (String × List Char)
  | '"' :: '"' :: '"' :: cs => multiBasic? (cs.length + 1) [] (skipFirstNewline cs)
  | '"' :: cs => basic? cs.length [] cs
  | '\'' :: '\'' :: '\'' :: cs => multiLiteral? (cs.length + 1) [] (skipFirstNewline cs)
  | '\'' :: cs => literal? [] cs
  | _ => none

/-! ## Keys -/

/-- Whether a character can belong to a key without quotes. -/
def isKeyChar (c : Char) : Bool := c.isAlphanum || c == '_' || c == '-'

/-- Takes one part of a key. -/
def keyPart? (cs : List Char) : Option (String × List Char) :=
  match cs with
  | '"' :: rest => basic? rest.length [] rest
  | '\'' :: rest => literal? [] rest
  | cs =>
    let name := cs.takeWhile isKeyChar
    if name.isEmpty then none else some (String.ofList name, cs.dropWhile isKeyChar)

/-- Takes the parts of a key with the blanks around them. -/
def keyParts? (fuel : Nat) (cs : List Char) : Option (List String × List Char) :=
  match fuel with
  | 0 => none
  | fuel + 1 => do
    let (part, cs) ← keyPart? (skipGap cs)
    match skipGap cs with
    | '.' :: cs =>
      let (parts, cs) ← keyParts? fuel cs
      return (part :: parts, cs)
    | cs => return ([part], cs)

/-- Takes a key: what stands in front of its last dot, and its last part. -/
def key? (cs : List Char) : Option (List String × String × List Char) := do
  let (parts, cs) ← keyParts? (cs.length + 1) cs
  let last ← parts.getLast?
  if parts.length ≤ keyLimit then return (parts.dropLast, last, cs) else none

/-! ## Numbers, dates and times -/

/-- Takes digits of a kind, with single underscores between them. -/
def digits? (kind : Char → Bool) (cs : List Char) : Option (List Char × List Char) :=
  match cs with
  | [] => none
  | c :: cs => if kind c then more [c] cs else none
where
  /-- Takes further digits. -/
  more (read : List Char) : List Char → Option (List Char × List Char)
    | '_' :: c :: cs => if kind c then more (c :: read) cs else none
    | '_' :: [] => none
    | c :: cs => if kind c then more (c :: read) cs else some (read.reverse, c :: cs)
    | [] => some (read.reverse, [])

/-- Takes a sign. -/
def sign? : List Char → Option Char × List Char
  | '+' :: cs => (some '+', cs)
  | '-' :: cs => (some '-', cs)
  | cs => (none, cs)

/-- Takes digits of a whole number; a zero in front stands alone. -/
def wholeDigits? (cs : List Char) : Option (List Char × List Char) :=
  match cs with
  | '0' :: cs => some (['0'], cs)
  | cs => digits? Char.isDigit cs

/-- Whether a whole number fits 64 bits with a sign. -/
def fits (n : Int) : Bool := decide (-(Nat.pow 2 63 : Int) ≤ n ∧ n < Nat.pow 2 63)

/-- Takes a whole number. -/
def integer? (cs : List Char) : Option (Value × List Char) := do
  let based (kind : Char → Bool) (base : Nat) (cs : List Char) : Option (Value × List Char) := do
    let (ds, cs) ← digits? kind cs
    let n := ds.foldl (fun n c => base * n + ((hex? [c]).getD 0)) 0
    if fits n then return (.integer n, cs) else none
  match cs with
  | '0' :: 'x' :: cs => based (fun c => (hex? [c]).isSome) 16 cs
  | '0' :: 'o' :: cs => based (fun c => decide ('0' ≤ c ∧ c ≤ '7')) 8 cs
  | '0' :: 'b' :: cs => based (fun c => c == '0' || c == '1') 2 cs
  | cs =>
    let (sign, cs) := sign? cs
    let (ds, cs) ← wholeDigits? cs
    let n : Int := Decimal.ofDigits ds
    let n := if sign = some '-' then -n else n
    if fits n then return (.integer n, cs) else none

/-- Takes the power of ten of a number. -/
def exponent? : List Char → Option (List Char × List Char)
  | c :: cs =>
    if c = 'e' ∨ c = 'E' then do
      let (sign, cs) := sign? cs
      let (ds, cs) ← digits? Char.isDigit cs
      return ('e' :: (sign.toList ++ ds), cs)
    else none
  | [] => none

/-- Takes a number with a point or a power of ten; one that is too large has to be negative. -/
def float? (cs : List Char) : Option (Value × List Char) := do
  let (sign, cs) := sign? cs
  match cs with
  | 'i' :: 'n' :: 'f' :: cs => return (.float (String.ofList (sign.toList ++ ['i', 'n', 'f'])), cs)
  | 'n' :: 'a' :: 'n' :: cs => return (.float (String.ofList (sign.toList ++ ['n', 'a', 'n'])), cs)
  | cs =>
    let (whole, cs) ← wholeDigits? cs
    let (fraction, cs) ← match cs with
      | '.' :: cs => (digits? Char.isDigit cs).map fun (ds, cs) => ('.' :: ds, cs)
      | cs => some ([], cs)
    let (power, cs) ← match cs with
      | 'e' :: _ => exponent? cs
      | 'E' :: _ => exponent? cs
      | cs => some ([], cs)
    if fraction.isEmpty && power.isEmpty then none
    else
      let text := String.ofList (sign.toList ++ whole ++ fraction ++ power)
      if (Finite64.ofText? text).isSome || sign = some '-' then return (.float text, cs) else none

/-- Takes a number of so many digits that lies in a range. -/
def ranged? (width low high : Nat) (cs : List Char) : Option (Nat × List Char) :=
  let ds := cs.take width
  if ds.length = width ∧ ds.all Char.isDigit then
    let n := Decimal.ofDigits ds
    if low ≤ n ∧ n ≤ high then some (n, cs.drop width) else none
  else none

/-- Takes a character. -/
def char? (c : Char) : List Char → Option (List Char)
  | d :: cs => if c = d then some cs else none
  | [] => none

/-- Takes a date. -/
def date? (cs : List Char) : Option (List Char) := do
  let (year, cs) ← ranged? 4 0 9999 cs
  let (month, cs) ← ranged? 2 1 12 (← char? '-' cs)
  let (day, cs) ← ranged? 2 1 31 (← char? '-' cs)
  let leap := year % 4 = 0 ∧ (year % 100 ≠ 0 ∨ year % 400 = 0)
  let last := if month = 2 then (if leap then 29 else 28)
    else if month ∈ [4, 6, 9, 11] then 30 else 31
  if day ≤ last then return cs else none

/-- Takes a time. -/
def time? (cs : List Char) : Option (List Char) := do
  let (_, cs) ← ranged? 2 0 23 cs
  let (_, cs) ← ranged? 2 0 59 (← char? ':' cs)
  let (_, cs) ← ranged? 2 0 60 (← char? ':' cs)
  match cs with
  | '.' :: d :: rest => if d.isDigit then return rest.dropWhile Char.isDigit else none
  | '.' :: [] => none
  | cs => return cs

/-- Takes an offset from universal time, if there is one. -/
def offset? : List Char → Option (List Char)
  | 'Z' :: cs => some cs
  | 'z' :: cs => some cs
  | c :: cs =>
    if c = '+' ∨ c = '-' then do
      let (_, cs) ← ranged? 2 0 23 cs
      let (_, cs) ← ranged? 2 0 59 (← char? ':' cs)
      return cs
    else some (c :: cs)
  | [] => some []

/-- Takes a date, a time, or both. -/
def datetime? (cs : List Char) : Option (Value × List Char) := do
  let rest ← match date? cs with
    | none => time? cs
    | some afterDate =>
      match afterDate with
      | c :: more =>
        if c = 'T' ∨ c = 't' ∨ c = ' ' then
          match time? more with
          | some afterTime => offset? afterTime
          | none => some afterDate
        else some afterDate
      | [] => some []
  return (.datetime (String.ofList (cs.take (cs.length - rest.length))), rest)

/-- Takes a number, a date or a time. -/
def number? (cs : List Char) : Option (Value × List Char) :=
  match datetime? cs with
  | some r => some r
  | none =>
    match float? cs with
    | some r => some r
    | none => integer? cs

/-! ## Values -/

mutual

/-- Takes a value. -/
def value? (fuel room : Nat) (cs : List Char) : Option (Value × List Char) :=
  match fuel with
  | 0 => none
  | fuel + 1 =>
    match cs with
    | '[' :: cs => if room = 0 then none else items? fuel (room - 1) [] (skipLines cs.length cs)
    | '\x7b' :: cs =>
      if room = 0 then none
      else
        match skipGap cs with
        | '\x7d' :: cs => some (.table [], cs)
        | cs => pairs? fuel (room - 1) .empty cs
    | 't' :: 'r' :: 'u' :: 'e' :: cs => some (.boolean true, cs)
    | 'f' :: 'a' :: 'l' :: 's' :: 'e' :: cs => some (.boolean false, cs)
    | c :: _ =>
      if c = '"' ∨ c = '\'' then (text? cs).map fun (s, cs) => (.string s, cs) else number? cs
    | [] => none

/-- Takes the items of a list up to its end; blanks and comments in front of them are dropped. -/
def items? (fuel room : Nat) (read : List Value) (cs : List Char) : Option (Value × List Char) :=
  match fuel with
  | 0 => none
  | fuel + 1 =>
    match cs with
    | ']' :: cs => some (.array read.reverse, cs)
    | cs =>
      match value? fuel room cs with
      | none => none
      | some (v, cs) =>
        match skipLines cs.length cs with
        | ',' :: cs => items? fuel room (v :: read) (skipLines cs.length cs)
        | ']' :: cs => some (.array (v :: read).reverse, cs)
        | _ => none

/-- Takes the pairs of a table in braces up to its end. -/
def pairs? (fuel room : Nat) (read : Table) (cs : List Char) : Option (Value × List Char) :=
  match fuel with
  | 0 => none
  | fuel + 1 =>
    match key? cs with
    | some (path, key, '=' :: cs) =>
      match value? fuel room (skipGap cs) with
      | none => none
      | some (v, cs) =>
        match read.addValue path key v with
        | none => none
        | some read =>
          match skipGap cs with
          | ',' :: cs => pairs? fuel room read cs
          | '\x7d' :: cs => some (.table read.toEntries, cs)
          | _ => none
    | _ => none

end

/-! ## Documents -/

/-- What is read of a document: its table, and the path of the last header. -/
structure Document where
  /-- The table. -/
  root : Table
  /-- The path of the last header. -/
  header : List String

/-- Takes a header with what closes it, and does with its key what it asks for. -/
def header? (closing : List Char) (d : Document) (cs : List Char)
    (act : Table → List String → String → Option Table) : Option (Document × List Char) := do
  let (path, key, cs) ← key? cs
  if closing.isPrefixOf cs then
    let cs ← endLine? (cs.drop closing.length)
    let root ← act d.root path key
    return (⟨root, path ++ [key]⟩, cs)
  else none

/-- Takes a line that is not blank. -/
def line? (d : Document) (cs : List Char) : Option (Document × List Char) :=
  match cs with
  | '[' :: '[' :: cs => header? [']', ']'] d cs Table.addTable
  | '[' :: cs => header? [']'] d cs Table.openTable
  | cs =>
    match key? cs with
    | some (path, key, '=' :: cs) => do
      let (v, cs) ← value? (2 * cs.length + 2) depthLimit (skipGap cs)
      let cs ← endLine? cs
      let root ← d.root.addBelow d.header path key v
      return ({ d with root }, cs)
    | _ => none

/-- Takes lines up to the end of the text. -/
def lines? (fuel : Nat) (d : Document) (cs : List Char) : Option Document :=
  match skipGap cs with
  | [] => some d
  | c :: rest =>
    match fuel with
    | 0 => none
    | fuel + 1 =>
      match endLine? (c :: rest) with
      | some cs => lines? fuel d cs
      | none =>
        match line? d (c :: rest) with
        | some (d, cs) => lines? fuel d cs
        | none => none

/-- The named values of a document; nothing if the text is none.  A byte-order mark in front of it
does not count. -/
def ofText? (s : String) : Option (List (String × Value)) :=
  let cs := match s.toList with
    | '\ufeff' :: cs => cs
    | cs => cs
  (lines? (cs.length + 1) ⟨.empty, []⟩ cs).map (·.root.toEntries)

end Toml
end Mailshot
