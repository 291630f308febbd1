import Mailshot.Dictionary
import Mailshot.Json.Number

/-!
# JSON values

`Json` is the type of rule values and event details.  The members of an object are kept in
ascending key order without repeats; `Json.Canonical` says so of a value and of everything inside
it, and every value that is read from a text has it.

`Json.Syntax` is what the text of a document says before any limit is applied: an object may repeat
a key, a string may hold half of a surrogate pair and a number may be out of range (both are
`none`), and nesting has any depth.  A record with fixed fields is decoded from the syntax, since
there a repeated key is an error and an unknown one is passed over whatever its value holds;
`Syntax.toValue?` is the way from there to values.
-/

set_option autoImplicit false

namespace Mailshot

/-- A JSON value. -/
inductive Json where
  /-- The value `null`. -/
  | null
  /-- A truth value. -/
  | bool (b : Bool)
  /-- A number. -/
  | number (n : JsonNumber)
  /-- A text. -/
  | string (s : String)
  /-- A list of values. -/
  | array (items : List Json)
  /-- Named values, in key order. -/
  | object (members : List (String × Json))

instance : Inhabited Json := ⟨.null⟩

namespace Json

/-- The text of a document, taken apart. -/
inductive Syntax where
  /-- The word `null`. -/
  | null
  /-- One of the words `true` and `false`. -/
  | bool (b : Bool)
  /-- A numeral; `none` if its value is out of range. -/
  | number (n : Option JsonNumber)
  /-- A string; `none` if it holds half of a surrogate pair. -/
  | string (s : Option String)
  /-- A list in brackets. -/
  | array (items : List Syntax)
  /-- Members in braces, in the order of the text. -/
  | object (members : List (Option String × Syntax))

instance : Inhabited Syntax := ⟨.null⟩

/-- The number of containers that a document may open inside each other. -/
def depthLimit : Nat := 127

/-! ## From syntax to values -/

/-- Puts a member in front of the members read from the rest of an object; a later member with the
same key takes precedence. -/
def addMember (k : String) (v : Json) (rest : List (String × Json)) : List (String × Json) :=
  if (Dictionary.valueOf? k rest).isSome then rest else Dictionary.insertEntry k v rest

mutual

/-- The value that a document stands for, if it opens at most `room` containers inside each other
and every number and string in it has a value. -/
def Syntax.toValue? (room : Nat) : Syntax → Option Json
  | .null => some .null
  | .bool b => some (.bool b)
  | .number n => n.map .number
  | .string s => s.map .string
  | .array items =>
    match room with
    | 0 => none
    | room + 1 => (Syntax.toItems? room items).map .array
  | .object members =>
    match room with
    | 0 => none
    | room + 1 => (Syntax.toMembers? room members).map .object

/-- The values of the items of an array. -/
def Syntax.toItems? (room : Nat) : List Syntax → Option (List Json)
  | [] => some []
  | s :: rest =>
    match s.toValue? room, Syntax.toItems? room rest with
    | some v, some vs => some (v :: vs)
    | _, _ => none

/-- The members of an object in key order, the last of several with one key. -/
def Syntax.toMembers? (room : Nat) : List (Option String × Syntax) → Option (List (String × Json))
  | [] => some []
  | (k, s) :: rest =>
    match k, s.toValue? room, Syntax.toMembers? room rest with
    | some k, some v, some ms => some (addMember k v ms)
    | _, _, _ => none

end

mutual

/-- A value as a document. -/
def toSyntax : Json → Syntax
  | .null => .null
  | .bool b => .bool b
  | .number n => .number (some n)
  | .string s => .string (some s)
  | .array items => .array (itemsToSyntax items)
  | .object members => .object (membersToSyntax members)

/-- The items of an array as documents. -/
def itemsToSyntax : List Json → List Syntax
  | [] => []
  | v :: vs => v.toSyntax :: itemsToSyntax vs

/-- The members of an object as members of a document. -/
def membersToSyntax : List (String × Json) → List (Option String × Syntax)
  | [] => []
  | (k, v) :: ms => (some k, v.toSyntax) :: membersToSyntax ms

end

/-! ## Views of values -/

mutual

/-- How many containers a value opens inside each other. -/
def depth : Json → Nat
  | .array items => itemsDepth items + 1
  | .object members => membersDepth members + 1
  | _ => 0

/-- The greatest depth among the items of an array. -/
def itemsDepth : List Json → Nat
  | [] => 0
  | v :: vs => max v.depth (itemsDepth vs)

/-- The greatest depth among the members of an object. -/
def membersDepth : List (String × Json) → Nat
  | [] => 0
  | (_, v) :: ms => max v.depth (membersDepth ms)

end

/-- The value of a member of an object; nothing for a missing member and for any other value. -/
def member? (k : String) : Json → Option Json
  | .object members => Dictionary.valueOf? k members
  | _ => none

/-- The text of a string value. -/
def text? : Json → Option String
  | .string s => some s
  | _ => none

/-- Objects everywhere inside a value have their members in strictly ascending key order. -/
inductive Canonical : Json → Prop where
  | null : Canonical .null
  | bool (b : Bool) : Canonical (.bool b)
  | number (n : JsonNumber) : Canonical (.number n)
  | string (s : String) : Canonical (.string s)
  | array {items : List Json} (h : ∀ v ∈ items, Canonical v) : Canonical (.array items)
  | object {members : List (String × Json)}
      (ascending : members.Pairwise (fun a b => a.1 < b.1)) (h : ∀ m ∈ members, Canonical m.2) :
      Canonical (.object members)

end Json

end Mailshot
