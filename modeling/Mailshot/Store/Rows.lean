import Mailshot.Campaign.Basic
import Mailshot.Store.Tables

/-!
# Rows as they are

Puts rows into the tables column by column, past everything that the library knows about their
contents but that they are texts.  Only the constraints of the tables hold, in this order: columns
that must not be empty, in the order of the table; the rule of the table; unique identifiers;
references.  The identifier of a row is not among the columns that must not be empty.
-/

set_option autoImplicit false

namespace Mailshot

/-- What an insertion says about a column. -/
inductive Cell where
  /-- Nothing, so that it takes its default. -/
  | unset
  /-- That it is empty. -/
  | null
  /-- A text. -/
  | text (s : String)
deriving DecidableEq, Inhabited

namespace Cell

/-- The contents of a column that may be empty. -/
def value (c : Cell) (default : Option String) : Option String :=
  match c with
  | unset => default
  | null => none
  | text s => some s

/-- The contents of a column that must not be empty. -/
def need (c : Cell) (column : String) (default : Option String) : Except StoreFault String :=
  match c.value default with
  | some s => .ok s
  | none => .error (.notNull column)

end Cell

namespace Store

/-- The rule for the status of a campaign. -/
def statusRule : String := "status IN ('draft', 'scheduled', 'sending', 'completed')"

/-- The rule for the kind of an event. -/
def kindRule : String := "type IN ('sent', 'failed')"

/-- Inserts a contact. -/
def insertContact (s : Store) (cell : String → Cell) : Except StoreFault Store := do
  let id := (cell "id").value none
  let tenant ← (cell "tenant_id").need "contacts.tenant_id" none
  let attributes ← (cell "attributes").need "contacts.attributes" (some "\x7b\x7d")
  let metrics ← (cell "metrics").need "contacts.metrics" (some "\x7b\x7d")
  let tags ← (cell "tags").need "contacts.tags" (some "[]")
  if id.any s.contacts.contains then throw (.unique "contacts.id")
  if !s.hasTenant tenant then throw .foreignKey
  let optional (column : String) : Option Datum := ((cell column).value none).map .text
  return { s with contacts := s.contacts.add id {
    tenant, firstName := optional "first_name", lastName := optional "last_name"
    email := optional "email", phone := optional "phone", company := optional "company"
    attributes := .text attributes, metrics := .text metrics, tags := .text tags } }

/-- Inserts a segment at a time. -/
def insertSegment (s : Store) (now : String) (cell : String → Cell) : Except StoreFault Store := do
  let id := (cell "id").value none
  let tenant ← (cell "tenant_id").need "segments.tenant_id" none
  let name ← (cell "name").need "segments.name" none
  let rules ← (cell "rules").need "segments.rules" none
  let createdAt ← (cell "created_at").need "segments.created_at" (some now)
  if id.any s.hasSegment then throw (.unique "segments.id")
  if !s.hasTenant tenant then throw .foreignKey
  return { s with segments := s.segments.add id { tenant, name, rules, createdAt } }

/-- Inserts a campaign at a time; `checked` says whether the rule of the table holds. -/
def insertCampaign (s : Store) (now : String) (checked : Bool) (cell : String → Cell) :
    Except StoreFault Store := do
  let id := (cell "id").value none
  let tenant ← (cell "tenant_id").need "campaigns.tenant_id" none
  let name ← (cell "name").need "campaigns.name" none
  let subject ← (cell "subject").need "campaigns.subject" (some "")
  let body ← (cell "body").need "campaigns.body" (some "")
  let status ← (cell "status").need "campaigns.status" (some Status.draft.name)
  let createdAt ← (cell "created_at").need "campaigns.created_at" (some now)
  let updatedAt ← (cell "updated_at").need "campaigns.updated_at" (some now)
  if checked && (Status.ofName? status).isNone then throw (.check statusRule)
  if id.any s.hasCampaign then throw (.unique "campaigns.id")
  if !s.hasTenant tenant then throw .foreignKey
  return { s with campaigns := s.campaigns.add id {
    tenant, name, subject, body, fromName := (cell "from_name").value none
    replyTo := (cell "reply_to").value none, status
    scheduledAt := (cell "scheduled_at").value none, cancelRequested := false, createdAt
    updatedAt } }

/-- Inserts an event; `checked` says whether the rule of the table holds. -/
def insertEvent (s : Store) (checked : Bool) (cell : String → Cell) : Except StoreFault Store := do
  let tenant ← (cell "tenant_id").need "send_events.tenant_id" none
  let campaign ← (cell "campaign_id").need "send_events.campaign_id" none
  let contact ← (cell "contact_id").need "send_events.contact_id" none
  let kind ← (cell "type").need "send_events.type" none
  let createdAt ← (cell "created_at").need "send_events.created_at" none
  if checked && (EventKind.ofName? kind).isNone then throw (.check kindRule)
  return { s with events := s.events ++ [{
    tenant, campaign, contact, kind, messageId := (cell "message_id").value none
    metadata := (cell "metadata").value none, createdAt }] }

end Store
end Mailshot
