import Mailshot.Audience.Resolve
import Mailshot.Campaign.Error
import Mailshot.Store.Tables

/-!
# Stored contacts

A contact is stored under its identifier, the last one under each.  Its free fields are texts in
JSON; a row in which one of them cannot be read counts for nothing and hides no other row.  A row
with bytes that are no text is another matter: as long as it is there, whoever searches the contacts
of its tenant has no answer.
-/

set_option autoImplicit false

namespace Mailshot
namespace Store

/-- The row of a contact. -/
def rowOfContact (c : Contact) : ContactRow where
  tenant := c.tenant
  firstName := c.firstName.map .text
  lastName := c.lastName.map .text
  email := c.email.map .text
  phone := c.phone.map .text
  company := c.company.map .text
  attributes := .text (Contact.attributesToJson c.attributes).print
  metrics := .text (Contact.metricsToJson c.metrics).print
  tags := .text (Contact.tagsToJson c.tags).print

/-- The contact of a row, if its columns hold texts and its free fields can be read. -/
def contactOfRow? (id : String) (r : ContactRow) : Option Contact := do
  let firstName ← Datum.optional? r.firstName
  let lastName ← Datum.optional? r.lastName
  let email ← Datum.optional? r.email
  let phone ← Datum.optional? r.phone
  let company ← Datum.optional? r.company
  let attributes ← r.attributes.text?.bind (Json.decodeDocument? Contact.decodeAttributes)
  let metrics ← r.metrics.text?.bind (Json.decodeDocument? Contact.decodeMetrics)
  let tags ← r.tags.text?.bind (Json.decodeDocument? Contact.decodeTags)
  return {
    id := id, tenant := r.tenant, firstName, lastName, email, phone, company, attributes, metrics
    tags }

/-- Stores a contact in the place of any other with its identifier. -/
def upsertContact (s : Store) (c : Contact) : Except StoreFault Store :=
  if s.hasTenant c.tenant then .ok { s with contacts := s.contacts.insert c.id (rowOfContact c) }
  else .error .foreignKey

/-- The contacts of a tenant that can be read, in the order of their identifiers. -/
def contactsOf (s : Store) (tenant : String) : List Contact :=
  s.contacts.entries.filterMap fun (id, r) =>
    if r.tenant = tenant then contactOfRow? id r else none

/-- Whether a row of a tenant holds bytes that are no text. -/
def holdsBytes (s : Store) (tenant : String) : Bool :=
  s.contacts.entries.any fun (_, r) => decide (r.tenant = tenant) && r.holdsBytes

/-- The contacts of a tenant that a predicate means. -/
def matching (s : Store) (p : Predicate) (tenant : String) : List Contact :=
  if p.isNever then [] else (s.contactsOf tenant).filter p.holds

/-- How many contacts of a tenant a predicate means. -/
def countMatching (s : Store) (p : Predicate) (tenant : String) : Nat :=
  if p.isNever then 0 else (s.contactsOf tenant).countP p.holds

/-- An answer about the contacts of a tenant.  Row after row is read for it, and the first one that
holds bytes is the end of that. -/
def answerOn {α : Type} (s : Store) (tenant : String) (answer : α) : Except StoreFault α :=
  if s.holdsBytes tenant then .error .notText else .ok answer

end Store
end Mailshot
