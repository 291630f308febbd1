import Mailshot.Json.Printer
import Mailshot.Json.Record
import Mailshot.Number.Binary64
import Mailshot.Text.Blank

/-!
# Contacts

A `Contact` is a person that belongs to a tenant.  Besides its named fields it has free ones: texts
(`attributes`), numbers (`metrics`) and a set of tags.  Rules see a contact through `Contact.field`
only.
-/

set_option autoImplicit false

namespace Mailshot

/-- A person to write to. -/
structure Contact where
  /-- The identifier, unique among all contacts. -/
  id : String
  /-- The tenant that the contact belongs to. -/
  tenant : String
  /-- Given name. -/
  firstName : Option String
  /-- Family name. -/
  lastName : Option String
  /-- Address; a contact without one is never written to. -/
  email : Option String
  /-- Phone number. -/
  phone : Option String
  /-- The company that the contact works for. -/
  company : Option String
  /-- Free text fields. -/
  attributes : Dictionary String
  /-- Free number fields. -/
  metrics : Dictionary Binary64
  /-- Labels: a set, so nothing stands under them. -/
  tags : Dictionary Unit
deriving DecidableEq

instance : Inhabited Contact := ⟨⟨"", "", none, none, none, none, none, .empty, .empty, .empty⟩⟩

namespace Contact

/-- A contact of which only the identity is known. -/
def ofIdentity (id tenant : String) : Contact :=
  ⟨id, tenant, none, none, none, none, none, .empty, .empty, .empty⟩

/-! ## Fields -/

/-- What a rule sees under the name of a field. -/
inductive FieldView where
  /-- A text. -/
  | text (s : String)
  /-- A number. -/
  | number (x : Binary64)
  /-- The labels of the contact, in ascending order. -/
  | tags (tags : List String)
  /-- No value. -/
  | missing
deriving DecidableEq

/-- A text that may be missing. -/
def FieldView.ofText? : Option String → FieldView
  | some s => .text s
  | none => .missing

/-- The field of a name.  The named fields come first, both with an inner capital and with an
underscore; any other name is looked up among the metrics and then among the attributes. -/
def field (c : Contact) (name : String) : FieldView :=
  if name = "firstName" ∨ name = "first_name" then .ofText? c.firstName
  else if name = "lastName" ∨ name = "last_name" then .ofText? c.lastName
  else if name = "email" then .ofText? c.email
  else if name = "phone" then .ofText? c.phone
  else if name = "company" then .ofText? c.company
  else if name = "tags" then .tags c.tags.keys
  else
    match c.metrics.find? name with
    | some x => .number x
    | none => .ofText? (c.attributes.find? name)

/-- The address to write to: without the blanks around it, and none if that leaves nothing. -/
def address? (c : Contact) : Option String :=
  (c.email.map trim).filter fun s => !s.isEmpty

/-! ## The free fields as JSON -/

/-- The attributes as a JSON object. -/
def attributesToJson (attributes : Dictionary String) : Json :=
  .object (attributes.mapValues fun _ s => Json.string s).entries

/-- A metric as JSON, which has finite numbers only. -/
def metricToJson : Binary64 → Json
  | .finite x => .number (.real x)
  | _ => .null

/-- The metrics as a JSON object. -/
def metricsToJson (metrics : Dictionary Binary64) : Json :=
  .object (metrics.mapValues fun _ x => metricToJson x).entries

/-- The tags as a JSON array. -/
def tagsToJson (tags : Dictionary Unit) : Json := .array (tags.keys.map .string)

/-- Reads attributes: an object of texts. -/
def decodeAttributes : Json.Decoder (Dictionary String) := Json.decodeDictionary Json.decodeText

/-- Reads metrics: an object of numbers. -/
def decodeMetrics : Json.Decoder (Dictionary Binary64) :=
  Json.decodeDictionary fun room s => (Json.decodeReal room s).map .finite

/-- The set of some labels. -/
def tagSet (tags : List String) : Dictionary Unit := .ofList (tags.map fun t => (t, ()))

/-- Reads tags: an array of texts. -/
def decodeTags : Json.Decoder (Dictionary Unit) := fun room s =>
  (Json.decodeList Json.decodeText room s).map tagSet

/-! ## Contacts in documents -/

/-- The names of the fields of a contact in a document, in their order. -/
def fieldNames : List String :=
  ["id", "tenant_id", "first_name", "last_name", "email", "phone", "company", "attributes",
    "metrics", "tags"]

/-- Reads a contact.  Identity is required, free fields default to none. -/
def decode : Json.Decoder Contact := fun room s => do
  let r ← s.record? fieldNames room
  return {
    id := ← r.required? "id" Json.decodeText
    tenant := ← r.required? "tenant_id" Json.decodeText
    firstName := ← r.optional? "first_name" Json.decodeText
    lastName := ← r.optional? "last_name" Json.decodeText
    email := ← r.optional? "email" Json.decodeText
    phone := ← r.optional? "phone" Json.decodeText
    company := ← r.optional? "company" Json.decodeText
    attributes := ← r.orDefault? "attributes" .empty decodeAttributes
    metrics := ← r.orDefault? "metrics" .empty decodeMetrics
    tags := ← r.orDefault? "tags" .empty decodeTags }

end Contact

end Mailshot
