import Mailshot.Text.Charset

/-!
# Media types

A media type such as `text/plain; charset=utf-8`: two words with a slash between them, and
parameters behind semicolons.  A value may stand in quotes.  Blanks may stand in front of a
parameter and behind a value in quotes, and nowhere else; a text with a fault anywhere is no media
type.
-/

set_option autoImplicit false

namespace Mailshot
namespace MediaType

/-- Whether a character can belong to a word. -/
def isWordChar (c : Char) : Bool :=
  c.isAlphanum ||
    c ∈ ['!', '#', '$', '%', '&', '\'', '*', '+', '-', '.', '^', '_', '\x60', '|', '~']

/-- Where the reader of parameters stands. -/
inductive Place where
  /-- In front of a name. -/
  | start
  /-- In a name; its characters in reverse. -/
  | name (read : List Char)
  /-- In a value without quotes. -/
  | value (name : String) (read : List Char)
  /-- In a value with quotes. -/
  | inQuotes (name : String) (read : List Char)
  /-- Behind a value with quotes. -/
  | afterQuotes

/-- Reads parameters. -/
def readParameters? : Place → List Char → Option (List (String × String))
  | .start, [] => some []
  | .name _, [] => none
  | .value name read, [] => some [(name, String.ofList read.reverse)]
  | .inQuotes _ _, [] => none
  | .afterQuotes, [] => some []
  | .start, c :: cs =>
    if c = ' ' then readParameters? .start cs
    else if isWordChar c then readParameters? (.name [c]) cs
    else none
  | .name read, c :: cs =>
    if c = '=' then readParameters? (.value (String.ofList read.reverse) []) cs
    else if isWordChar c then readParameters? (.name (c :: read)) cs
    else none
  | .value name read, c :: cs =>
    if c = '"' ∧ read.isEmpty then readParameters? (.inQuotes name []) cs
    else if c = ';' ∧ !read.isEmpty then
      (readParameters? .start cs).map ((name, String.ofList read.reverse) :: ·)
    else if isWordChar c then readParameters? (.value name (c :: read)) cs
    else none
  | .inQuotes name read, c :: cs =>
    if c = '"' ∧ !read.isEmpty then
      (readParameters? .afterQuotes cs).map ((name, String.ofList read.reverse) :: ·)
    else if 31 < c.toNat ∧ c.toNat ≠ 127 then readParameters? (.inQuotes name (c :: read)) cs
    else none
  | .afterQuotes, c :: cs =>
    if c = ';' then readParameters? .start cs
    else if c = ' ' then readParameters? .afterQuotes cs
    else none

/-- The parameters of a media type, in order. -/
def parameters? (s : String) : Option (List (String × String)) :=
  let cs := s.toList
  let main := cs.takeWhile isWordChar
  match cs.dropWhile isWordChar with
  | '/' :: rest =>
    let sub := rest.takeWhile isWordChar
    match rest.dropWhile isWordChar with
    | [] => if main.isEmpty then none else some []
    | ';' :: rest =>
      if main.isEmpty || sub.isEmpty then none else readParameters? .start rest
    | _ => none
  | _ => none

/-- The character set that a media type announces; UTF-8 if it announces none that is known. -/
def charset (s : String) : Charset :=
  let visible := s.toList.all fun c => c = '\t' || (32 ≤ c.toNat && c.toNat < 127)
  let ps := if visible then (parameters? s).getD [] else []
  ((ps.find? fun p => Charset.smallAscii p.1 = "charset").bind fun p =>
    Charset.ofLabel? p.2).getD .utf8

end MediaType
end Mailshot
