import Mailshot.Dictionary
import Mailshot.Settings.Config
import Mailshot.Text.Alphanumeric
import Mailshot.Text.Blank

/-!
# Files of variables

A file of variables holds one variable a line, in the form `NAME=value`.  Quotes, and a backslash at
the end of a line, let a value go on in the next line, so the lines of the file are first put
together (`EnvFile.lines?`), and then each is taken apart (`EnvFile.addLine?`).  A value can refer
to variables of the environment and of the lines before it.
-/

set_option autoImplicit false

namespace Mailshot
namespace EnvFile

/-! ## Lines -/

/-- What the characters so far mean for the next one. -/
inductive Quoting where
  /-- Nothing. -/
  | plain
  /-- A blank came last, so that a comment may start. -/
  | blank
  /-- A backslash came last. -/
  | escape
  /-- Single quotes are open. -/
  | strong
  /-- A backslash came last, in single quotes. -/
  | strongEscape
  /-- Double quotes are open. -/
  | weak
  /-- A backslash came last, in double quotes. -/
  | weakEscape
deriving DecidableEq

/-- What a character changes; a number sign after a blank is not met here. -/
def Quoting.next : Quoting → Char → Quoting
  | .escape, _ => .plain
  | .weakEscape, _ => .weak
  | .strongEscape, _ => .strong
  | .weak, c => if c = '\\' then .weakEscape else if c = '"' then .plain else .weak
  | .strong, c => if c = '\\' then .strongEscape else if c = '\'' then .plain else .strong
  | q, c =>
    if c = '\\' then .escape
    else if c = '"' then .weak
    else if c = '\'' then .strong
    else if q = .plain ∧ isBlank c ∧ c ≠ '\n' ∧ c ≠ '\r' then .blank
    else .plain

/-- Goes through a line.  The result is what stands in front of a comment and nothing, or all of the
line and what it means for the next one. -/
def scan (q : Quoting) (read : List Char) : List Char → List Char × Option Quoting
  | [] => (read.reverse, some q)
  | c :: cs =>
    if q = .blank ∧ c = '#' then (read.reverse, none) else scan (q.next c) (c :: read) cs

/-- The lines of a text with the line breaks that end them. -/
def rawLines (cs : List Char) : List (List Char) := go [] cs
where
  /-- The same behind the start of a line. -/
  go (read : List Char) : List Char → List (List Char)
    | [] => if read.isEmpty then [] else [read.reverse]
    | c :: cs => if c = '\n' then (c :: read).reverse :: go [] cs else go (c :: read) cs

/-- A line without the line break at its end. -/
def chomp (cs : List Char) : List Char :=
  match cs.reverse with
  | '\n' :: '\r' :: before => before.reverse
  | '\n' :: before => before.reverse
  | _ => cs

/-- Puts lines together that belong together: `pending` came before them and still waits for its
end. There is no result if the end is missing. -/
def lines? (pending : List Char) (q : Quoting) : List (List Char) → Option (List (List Char))
  | [] => if q = .plain then some [] else none
  | line :: rest =>
    let whole := pending ++ line
    if (trimLeft whole).head? = some '#' then (lines? [] .plain rest).map ([] :: ·)
    else
      match scan q [] line with
      | (kept, none) => (lines? [] .plain rest).map ((pending ++ kept) :: ·)
      | (_, some .plain) => (lines? [] .plain rest).map (chomp whole :: ·)
      | (_, some q) => lines? whole q rest

/-! ## Values -/

/-- What a character of a value is read as. -/
inductive Mode where
  /-- As itself. -/
  | text
  /-- Behind a backslash. -/
  | escaped
  /-- Inside single quotes. -/
  | strong
  /-- Behind a dollar sign; these are the characters of a name, the last one first. -/
  | bare (name : List Char)
  /-- Behind a dollar sign and a brace. -/
  | braced (name : List Char)
  /-- Behind the end of the value. -/
  | ended

/-- What a character behind a backslash stands for. -/
def escaped? : Char → Option Char
  | 'n' => some '\n'
  | c => if c ∈ ['\\', '\'', '"', '$', ' '] then some c else none

/-- Takes a value apart.  `refer` gives the values of variables, `weak` says whether double quotes
are open, and `read` is the value so far, its last character first. -/
def value? (refer : List Char → List Char) :
    Mode → (weak : Bool) → (read : List Char) → List Char → Option (List Char)
  | .braced _, _, _, [] => none
  | .strong, _, _, [] => none
  | .bare name, weak, read, [] =>
    if weak then none else some (read.reverse ++ refer name.reverse)
  | _, weak, read, [] => if weak then none else some read.reverse
  | .ended, weak, read, c :: cs =>
    if c = ' ' ∨ c = '\t' then value? refer .ended weak read cs
    else if c = '#' then some read.reverse
    else none
  | .escaped, weak, read, c :: cs =>
    (escaped? c).bind fun e => value? refer .text weak (e :: read) cs
  | .strong, weak, read, c :: cs =>
    if c = '\'' then value? refer .text weak read cs
    else value? refer .strong weak (c :: read) cs
  | .bare name, weak, read, c :: cs =>
    if isLetterOrNumber c then value? refer (.bare (c :: name)) weak read cs
    else if c = '\x7b' ∧ name = [] then value? refer (.braced []) weak read cs
    else
      let read := (refer name.reverse).reverse ++ read
      if c = '$' then value? refer (.bare []) weak read cs
      else value? refer .text weak (c :: read) cs
  | .braced name, weak, read, c :: cs =>
    if c = '\x7d' then value? refer .text weak ((refer name.reverse).reverse ++ read) cs
    else value? refer (.braced (c :: name)) weak read cs
  | .text, weak, read, c :: cs =>
    if c = '$' then value? refer (.bare []) weak read cs
    else if c = '\\' then value? refer .escaped weak read cs
    else if weak then
      if c = '"' then value? refer .text false read cs else value? refer .text true (c :: read) cs
    else if c = '"' then value? refer .text true read cs
    else if c = '\'' then value? refer .strong weak read cs
    else if c = ' ' ∨ c = '\t' then value? refer .ended weak read cs
    else value? refer .text weak (c :: read) cs

/-! ## Entries -/

/-- Takes a name with the blanks behind it. -/
def name? (cs : List Char) : Option (List Char × List Char) :=
  let isStart (c : Char) : Bool := c.isAlpha || c == '_'
  let isMore (c : Char) : Bool := c.isAlphanum || c == '_' || c == '.'
  match cs with
  | c :: _ =>
    if isStart c then some (cs.takeWhile isMore, trimLeft (cs.dropWhile isMore)) else none
  | [] => none

/-- Takes an equals sign with the blanks behind it. -/
def equals? : List Char → Option (List Char)
  | '=' :: cs => some (trimLeft cs)
  | _ => none

/-- Takes the name of an entry and its equals sign; the word `export` may stand in front of a name,
and is one itself if nothing does. -/
def head? (cs : List Char) : Option (List Char × List Char) := do
  let (name, rest) ← name? cs
  match equals? rest with
  | some value => return (name, value)
  | none =>
    if name = "export".toList then
      let (name, rest) ← name? rest
      return (name, ← equals? rest)
    else none

/-- The value that a reference stands for: that of the environment, or of an earlier line. -/
def refer (environment : Environment) (earlier : Dictionary String) (name : List Char) :
    List Char :=
  let name := String.ofList name
  (((environment name).or (earlier.find? name)).getD "").toList

/-- Adds the entry of a line to those of the lines before it. -/
def addLine? (environment : Environment) (earlier : Dictionary String) (line : List Char) :
    Option (Dictionary String) :=
  match trimChars line with
  | [] => some earlier
  | '#' :: _ => some earlier
  | cs => do
    let (name, value) ← head? cs
    let value ← match value with
      | '#' :: _ => some []
      | cs => value? (refer environment earlier) .text false [] cs
    return earlier.insert (String.ofList name) (String.ofList value)

/-- The variables of a text; nothing if a line is none. -/
def ofText? (environment : Environment) (text : String) : Option (Dictionary String) := do
  (← lines? [] .plain (rawLines text.toList)).foldlM (addLine? environment) .empty

end EnvFile
end Mailshot
