import Mailshot.Campaign.Error
import Mailshot.Json.Record

/-!
# Tenants, campaigns and events

The records of the subject, and how documents give them.
-/

set_option autoImplicit false

namespace Mailshot

/-! ## Tenants -/

/-- An organisation with contacts and campaigns of its own. -/
structure Tenant where
  /-- The identifier. -/
  id : String
  /-- The name that recipients see. -/
  name : String
deriving DecidableEq, Inhabited

/-- Reads a tenant. -/
def Tenant.decode : Json.Decoder Tenant := fun room s => do
  let r ← s.record? ["id", "name"] room
  return ⟨← r.required? "id" Json.decodeText, ← r.required? "name" Json.decodeText⟩

/-! ## Instants in documents -/

/-- Reads an instant, from a text that may be loose. -/
def Instant.decode : Json.Decoder Instant := fun room s =>
  (Json.decodeText room s).bind Instant.ofLooseText?

/-- Reads a status. -/
def Status.decode : Json.Decoder Status := fun room s =>
  (Json.decodeName room s).bind Status.ofName?

/-! ## Campaigns -/

/-- What a campaign is made from. -/
structure NewCampaign where
  /-- The tenant whose campaign it will be. -/
  tenant : String
  /-- A name for the tenant's own use. -/
  name : String
  /-- The template of the subject line. -/
  subject : String
  /-- The template of the text. -/
  body : String
  /-- The name that the messages come from. -/
  fromName : Option String
  /-- The address that answers go to. -/
  replyTo : Option String
deriving DecidableEq, Inhabited

/-- Reads what a campaign is made from. -/
def NewCampaign.decode : Json.Decoder NewCampaign := fun room s => do
  let r ← s.record? ["tenant_id", "name", "subject", "body", "from_name", "reply_to"] room
  return {
    tenant := ← r.required? "tenant_id" Json.decodeText
    name := ← r.required? "name" Json.decodeText
    subject := ← r.required? "subject" Json.decodeText
    body := ← r.required? "body" Json.decodeText
    fromName := ← r.optional? "from_name" Json.decodeText
    replyTo := ← r.optional? "reply_to" Json.decodeText }

/-- A mailing to many contacts of one tenant. -/
structure Campaign where
  /-- The identifier. -/
  id : String
  /-- The tenant whose campaign it is. -/
  tenant : String
  /-- A name for the tenant's own use. -/
  name : String
  /-- Where it stands. -/
  status : Status
  /-- The template of the subject line. -/
  subject : String
  /-- The template of the text. -/
  body : String
  /-- The name that the messages come from. -/
  fromName : Option String
  /-- The address that answers go to. -/
  replyTo : Option String
  /-- The moment that was set for sending. -/
  scheduledAt : Option Instant
  /-- Whether someone asked for sending to stop. -/
  cancelRequested : Bool
deriving DecidableEq, Inhabited

/-- Reads a campaign. -/
def Campaign.decode : Json.Decoder Campaign := fun room s => do
  let r ← s.record? ["id", "tenant_id", "name", "status", "subject", "body", "from_name",
    "reply_to", "scheduled_at", "cancel_requested"] room
  return {
    id := ← r.required? "id" Json.decodeText
    tenant := ← r.required? "tenant_id" Json.decodeText
    name := ← r.required? "name" Json.decodeText
    status := ← r.required? "status" Status.decode
    subject := ← r.required? "subject" Json.decodeText
    body := ← r.required? "body" Json.decodeText
    fromName := ← r.optional? "from_name" Json.decodeText
    replyTo := ← r.optional? "reply_to" Json.decodeText
    scheduledAt := ← r.optional? "scheduled_at" Instant.decode
    cancelRequested := ← r.required? "cancel_requested" Json.decodeBool }

/-! ## Events -/

/-- How sending to one contact ended. -/
inductive EventKind where
  /-- A channel took the message. -/
  | sent
  /-- No channel took it. -/
  | failed
deriving DecidableEq, Inhabited

namespace EventKind

/-- How a kind of event is written. -/
def name : EventKind → String
  | sent => "sent"
  | failed => "failed"

/-- The kind of event of a name. -/
def ofName? (s : String) : Option EventKind :=
  if s = "sent" then some sent else if s = "failed" then some failed else none

/-- A kind of event is read back from its name. -/
theorem ofName?_name (k : EventKind) : ofName? k.name = some k := by
  cases k <;> rfl

/-- The kind of event of a text that ought to be a name. -/
def parse (s : String) : Except CampaignError EventKind :=
  match ofName? s with
  | some k => .ok k
  | none => .error (.invalidRow (.eventType s))

/-- Reads a kind of event. -/
def decode : Json.Decoder EventKind := fun room s => (Json.decodeName room s).bind ofName?

end EventKind

/-- What happened when one contact was written to. -/
structure SendEvent where
  /-- The campaign. -/
  campaign : String
  /-- The tenant whose campaign it is. -/
  tenant : String
  /-- The contact. -/
  contact : String
  /-- How it ended. -/
  kind : EventKind
  /-- When it ended. -/
  time : Instant
  /-- The identifier that the channel gave the message. -/
  messageId : Option String
  /-- Details: the channel, the number of attempts, and what went wrong. -/
  metadata : Option Json

/-- Reads an event. -/
def SendEvent.decode : Json.Decoder SendEvent := fun room s => do
  let r ← s.record? ["campaign_id", "tenant_id", "contact_id", "event_type", "timestamp",
    "message_id", "metadata"] room
  return {
    campaign := ← r.required? "campaign_id" Json.decodeText
    tenant := ← r.required? "tenant_id" Json.decodeText
    contact := ← r.required? "contact_id" Json.decodeText
    kind := ← r.required? "event_type" EventKind.decode
    time := ← r.required? "timestamp" Instant.decode
    messageId := ← r.optional? "message_id" Json.decodeText
    metadata := ← r.optional? "metadata" Json.decodeValue }

/-- How many messages of a tenant were taken and how many were not. -/
structure DeliveryStats where
  /-- Messages that a channel took. -/
  sent : Nat
  /-- Messages that no channel took. -/
  failed : Nat
deriving DecidableEq, Inhabited

/-- Reads delivery numbers. -/
def DeliveryStats.decode : Json.Decoder DeliveryStats := fun room s => do
  let r ← s.record? ["sent", "failed"] room
  return ⟨← r.required? "sent" Json.decodeNatural, ← r.required? "failed" Json.decodeNatural⟩

end Mailshot
