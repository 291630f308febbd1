import Mailshot.Json.Reader

/-!
# Records in a document

A record has fixed fields with an order.  A document gives it as an object whose keys are the names
of the fields, or as an array of the fields in their order.  An object may hold other keys, whose
values are passed over whatever they are, but no field twice; an array may stop early if the fields
it leaves out have defaults, and must not be longer than the record.

A field that may be empty is empty when an object leaves it out, but an array has to mention it.

`Json.Decoder` is how a type is read: given the number of containers that may still be opened, and
a document.
-/

set_option autoImplicit false

namespace Mailshot
namespace Json

/-- Reads a document that may open a number of containers inside each other. -/
abbrev Decoder (α : Type) := Nat → Syntax → Option α

/-- What a document says about one field of a record. -/
inductive Field where
  /-- Its value. -/
  | given (s : Syntax)
  /-- Nothing: an object without its key. -/
  | absent
  /-- Nothing: an array that ends in front of it. -/
  | cut

/-- A record in a document. -/
structure Record where
  /-- How many containers its fields may open inside each other. -/
  room : Nat
  /-- What the document says about a field. -/
  field : String → Field

/-! ## Finding the fields -/

/-- The values that stand under a key. -/
def Syntax.under (members : List (Option String × Syntax)) (name : String) : List Syntax :=
  members.filterMap fun m => if m.1 = some name then some m.2 else none

/-- A field of a record that is given as an object. -/
def Field.ofMembers (members : List (Option String × Syntax)) (name : String) : Field :=
  match Syntax.under members name with
  | [] => .absent
  | s :: _ => .given s

/-- A field of a record that is given as an array. -/
def Field.ofItems (names : List String) (items : List Syntax) (name : String) : Field :=
  match items[names.idxOf name]? with
  | none => .cut
  | some s => .given s

/-- The record with fields of these names that a document gives, unless it gives none. -/
def Syntax.record? (names : List String) (room : Nat) : Syntax → Option Record
  | .object members =>
    if 0 < room ∧ members.all (·.1.isSome) ∧
        names.all (fun name => (Syntax.under members name).length ≤ 1) then
      some ⟨room - 1, Field.ofMembers members⟩
    else none
  | .array items =>
    if 0 < room ∧ items.length ≤ names.length then some ⟨room - 1, Field.ofItems names items⟩
    else none
  | _ => none

namespace Record

variable {α : Type}

/-- A field without which the record cannot be. -/
def required? (r : Record) (name : String) (read : Decoder α) : Option α :=
  match r.field name with
  | .given s => read r.room s
  | .absent | .cut => none

/-- A field that may be empty. -/
def optional? (r : Record) (name : String) (read : Decoder α) : Option (Option α) :=
  match r.field name with
  | .given .null => some none
  | .given s => (read r.room s).map some
  | .absent => some none
  | .cut => none

/-- A field with a default. -/
def orDefault? (r : Record) (name : String) (default : α) (read : Decoder α) : Option α :=
  match r.field name with
  | .given s => read r.room s
  | .absent | .cut => some default

end Record

/-! ## Simple values -/

/-- Reads any value. -/
def decodeValue : Decoder Json := Syntax.toValue?

/-- Reads a text. -/
def decodeText : Decoder String
  | _, .string s => s
  | _, _ => none

/-- Reads a truth value. -/
def decodeBool : Decoder Bool
  | _, .bool b => some b
  | _, _ => none

/-- Reads any number, rounded to a binary64 number. -/
def decodeReal : Decoder Finite64
  | _, .number n => n.map (·.toFinite64)
  | _, _ => none

/-- Reads a whole number of 64 bits without a sign. -/
def decodeNatural : Decoder Nat
  | _, .number (some (.natural n _)) => some n
  | _, _ => none

/-- Reads a list. -/
def decodeList {α : Type} (read : Decoder α) : Decoder (List α)
  | room + 1, .array items => items.mapM (read room)
  | _, _ => none

/-- Reads a dictionary; of two members with one key the later one counts. -/
def decodeDictionary {α : Type} (read : Decoder α) : Decoder (Dictionary α)
  | room + 1, .object members => (members.mapM (member? room)).map Dictionary.ofList
  | _, _ => none
where
  /-- One entry. -/
  member? (room : Nat) (m : Option String × Syntax) : Option (String × α) :=
    m.1.bind fun k => (read room m.2).map fun v => (k, v)

/-- Reads a name of a choice: a string, or an object with the name as its only key and nothing
under it. -/
def decodeName : Decoder String
  | _, .string s => s
  | _ + 1, .object [(k, .null)] => k
  | _, _ => none

/-- Reads a value as a decoder does, with all the room that it needs. -/
def decode? {α : Type} (read : Decoder α) (v : Json) : Option α := read v.depth v.toSyntax

/-- Reads a text as a decoder does. -/
def decodeDocument? {α : Type} (read : Decoder α) (s : String) : Option α :=
  (Syntax.ofText? s).bind (read depthLimit)

end Json
end Mailshot
