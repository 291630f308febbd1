import Mailshot.Json.Value

/-!
# Reading JSON

The reader is an automaton that takes a text one character at a time, so that reading a text is a
left fold over its characters and reading a concatenation is reading one part after the other.  Its
state is what it is in the middle of (`Mode`) and the containers that are still open (`Frame`).

Blanks are the four that JSON has, a byte-order mark is not one of them, and after the document
nothing but blanks may follow.
-/

set_option autoImplicit false

namespace Mailshot
namespace Json
namespace Reader

/-- A container that is still open, its contents in reverse. -/
inductive Frame where
  /-- An array and its items so far. -/
  | array (items : List Syntax)
  /-- An object, its members so far, and the last key read. -/
  | object (members : List (Option String × Syntax)) (key : Option String)

/-- Where the reader stands inside an escape sequence. -/
inductive Escape where
  /-- Outside. -/
  | none
  /-- Behind the backslash. -/
  | backslash
  /-- Behind some of the four hexadecimal digits, which have this value so far. -/
  | hex (seen value : Nat)

/-- A string in the middle of being read. -/
structure PartialText where
  /-- Whether it is the key of a member. -/
  isKey : Bool
  /-- The characters so far, in reverse. -/
  read : List Char
  /-- Whether half of a surrogate pair stood alone. -/
  broken : Bool
  /-- The first half of a surrogate pair that waits for the second. -/
  high : Option Nat
  /-- The escape sequence that is being read. -/
  escape : Escape

/-- What the reader is in the middle of. -/
inductive Mode where
  /-- In front of a value. -/
  | value
  /-- Behind an opening bracket. -/
  | firstItem
  /-- Behind an opening brace. -/
  | firstKey
  /-- In front of a key. -/
  | key
  /-- Behind a key. -/
  | colon
  /-- Behind a value. -/
  | after
  /-- Inside a string. -/
  | text (t : PartialText)
  /-- Inside a numeral; its characters so far, in reverse. -/
  | numeral (read : List Char)
  /-- Inside a word; the characters that are missing, and what the word stands for. -/
  | word (missing : List Char) (result : Syntax)

/-- The state of the reader. -/
structure State where
  /-- What it is in the middle of. -/
  mode : Mode
  /-- The open containers, the innermost first. -/
  stack : List Frame
  /-- The document, once it is complete. -/
  document : Option Syntax

/-- The state in front of a document. -/
def start : State := ⟨.value, [], none⟩

/-- Whether a character may stand between the parts of a document. -/
def isGap (c : Char) : Bool := c == ' ' || c == '\n' || c == '\t' || c == '\r'

/-- Whether a character can belong to a numeral. -/
def isNumeral (c : Char) : Bool :=
  c.isDigit || c == '-' || c == '+' || c == '.' || c == 'e' || c == 'E'

/-! ## Completing values -/

/-- Hands a complete value to the innermost open container. -/
def deliver (v : Syntax) (stack : List Frame) : State :=
  match stack with
  | [] => ⟨.after, [], some v⟩
  | .array items :: rest => ⟨.after, .array (v :: items) :: rest, none⟩
  | .object members key :: rest => ⟨.after, .object ((key, v) :: members) key :: rest, none⟩

/-- Completes the innermost array. -/
def closeArray? : List Frame → Option State
  | .array items :: rest => some (deliver (.array items.reverse) rest)
  | _ => none

/-- Completes the innermost object. -/
def closeObject? : List Frame → Option State
  | .object members _ :: rest => some (deliver (.object members.reverse) rest)
  | _ => none

/-- Completes a numeral. -/
def closeNumeral? (read : List Char) (stack : List Frame) : Option State :=
  (JsonNumber.Numeral.ofChars? read.reverse).map fun n =>
    deliver (.number (JsonNumber.ofNumeral? n)) stack

/-! ## Strings -/

/-- A string of which nothing is read yet. -/
def emptyText (isKey : Bool) : PartialText := ⟨isKey, [], false, none, .none⟩

/-- The characters of a complete string, unless half of a surrogate pair stood alone. -/
def PartialText.content (t : PartialText) : Option String :=
  if t.broken || t.high.isSome then none else some (String.ofList t.read.reverse)

/-- Appends a character; a waiting first half stays alone. -/
def PartialText.push (t : PartialText) (c : Char) : PartialText :=
  { t with
    read := c :: t.read, broken := t.broken || t.high.isSome, high := none, escape := .none }

/-- Appends what four hexadecimal digits stand for: a character, or one half of a pair. -/
def PartialText.pushUnit (t : PartialText) (unit : Nat) : PartialText :=
  let low := 0xDC00 ≤ unit ∧ unit ≤ 0xDFFF
  match t.high with
  | some high =>
    if low then
      { t with
        read := Char.ofNat (0x10000 + (high - 0xD800) * 0x400 + (unit - 0xDC00)) :: t.read
        high := none, escape := .none }
    else { t with broken := true, high := none, escape := .none }
  | none =>
    if 0xD800 ≤ unit ∧ unit ≤ 0xDBFF then { t with high := some unit, escape := .none }
    else if low then { t with broken := true, escape := .none }
    else t.push (Char.ofNat unit)

/-- The value of a hexadecimal digit. -/
def hexDigit? (c : Char) : Option Nat :=
  if c.isDigit then some (c.toNat - '0'.toNat)
  else if 'a' ≤ c ∧ c ≤ 'f' then some (c.toNat - 'a'.toNat + 10)
  else if 'A' ≤ c ∧ c ≤ 'F' then some (c.toNat - 'A'.toNat + 10)
  else none

/-- What a letter behind a backslash stands for. -/
def escaped? : Char → Option Char
  | '"' => some '"'
  | '\\' => some '\\'
  | '/' => some '/'
  | 'b' => some '\x08'
  | 'f' => some '\x0c'
  | 'n' => some '\n'
  | 'r' => some '\r'
  | 't' => some '\t'
  | _ => none

/-- Completes a string: a key goes to the innermost object, a value is delivered. -/
def closeText (t : PartialText) (stack : List Frame) : Option State :=
  if t.isKey then
    match stack with
    | .object members _ :: rest => some ⟨.colon, .object members t.content :: rest, none⟩
    | _ => none
  else some (deliver (.string t.content) stack)

/-- One character inside a string. -/
def stepText (t : PartialText) (stack : List Frame) (c : Char) : Option State :=
  match t.escape with
  | .none =>
    if c = '"' then closeText t stack
    else if c = '\\' then some ⟨.text { t with escape := .backslash }, stack, none⟩
    else if c.toNat < 0x20 then none
    else some ⟨.text (t.push c), stack, none⟩
  | .backslash =>
    if c = 'u' then some ⟨.text { t with escape := .hex 0 0 }, stack, none⟩
    else (escaped? c).map fun e => ⟨.text (t.push e), stack, none⟩
  | .hex seen value =>
    (hexDigit? c).map fun d =>
      let value := 16 * value + d
      if seen = 3 then ⟨.text (t.pushUnit value), stack, none⟩
      else ⟨.text { t with escape := .hex (seen + 1) value }, stack, none⟩

/-! ## The automaton -/

/-- The first character of a value. -/
def stepValue (stack : List Frame) (c : Char) : Option State :=
  if c = '"' then some ⟨.text (emptyText false), stack, none⟩
  else if c = '\x7b' then some ⟨.firstKey, .object [] none :: stack, none⟩
  else if c = '[' then some ⟨.firstItem, .array [] :: stack, none⟩
  else if c = 't' then some ⟨.word ['r', 'u', 'e'] (.bool true), stack, none⟩
  else if c = 'f' then some ⟨.word ['a', 'l', 's', 'e'] (.bool false), stack, none⟩
  else if c = 'n' then some ⟨.word ['u', 'l', 'l'] .null, stack, none⟩
  else if c = '-' ∨ c.isDigit then some ⟨.numeral [c], stack, none⟩
  else none

/-- One character behind a value. -/
def stepAfter (stack : List Frame) (document : Option Syntax) (c : Char) : Option State :=
  if isGap c then some ⟨.after, stack, document⟩
  else if c = ',' then
    match stack with
    | .array _ :: _ => some ⟨.value, stack, none⟩
    | .object _ _ :: _ => some ⟨.key, stack, none⟩
    | [] => none
  else if c = ']' then closeArray? stack
  else if c = '\x7d' then closeObject? stack
  else none

/-- One character. -/
def step (s : State) (c : Char) : Option State :=
  match s.mode with
  | .value => if isGap c then some s else stepValue s.stack c
  | .firstItem =>
    if isGap c then some s
    else if c = ']' then closeArray? s.stack
    else stepValue s.stack c
  | .firstKey =>
    if isGap c then some s
    else if c = '"' then some ⟨.text (emptyText true), s.stack, none⟩
    else if c = '\x7d' then closeObject? s.stack
    else none
  | .key =>
    if isGap c then some s
    else if c = '"' then some ⟨.text (emptyText true), s.stack, none⟩
    else none
  | .colon =>
    if isGap c then some s else if c = ':' then some ⟨.value, s.stack, none⟩ else none
  | .after => stepAfter s.stack s.document c
  | .text t => stepText t s.stack c
  | .numeral read =>
    if isNumeral c then some ⟨.numeral (c :: read), s.stack, none⟩
    else (closeNumeral? read s.stack).bind fun s => stepAfter s.stack s.document c
  | .word missing result =>
    match missing with
    | [] => none
    | m :: rest =>
      if c = m then
        if rest.isEmpty then some (deliver result s.stack)
        else some ⟨.word rest result, s.stack, none⟩
      else none

/-- The document, when the text ends here. -/
def finish (s : State) : Option Syntax :=
  match s.mode, s.stack with
  | .after, [] => s.document
  | .numeral read, [] => (closeNumeral? read []).bind (·.document)
  | _, _ => none

end Reader

/-- Takes the text of a document apart; nothing if it is not one. -/
def Syntax.ofChars? (cs : List Char) : Option Syntax :=
  (cs.foldlM Reader.step Reader.start).bind Reader.finish

/-- Takes the text of a document apart; nothing if it is not one. -/
def Syntax.ofText? (s : String) : Option Syntax := Syntax.ofChars? s.toList

/-- Reads a value; nothing if the text is not that of one. -/
def ofText? (s : String) : Option Json := (Syntax.ofText? s).bind (Syntax.toValue? depthLimit)

end Json
end Mailshot
