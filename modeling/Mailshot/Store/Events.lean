import Mailshot.Campaign.Basic
import Mailshot.Json.Printer
import Mailshot.Json.Reader
import Mailshot.Store.Tables

/-!
# Stored events

Events are appended and read, and nothing else: an attempt to change or remove the events of a
campaign is refused unless there are none.
-/

set_option autoImplicit false

namespace Mailshot
namespace Store

/-- The row of an event. -/
def rowOfEvent (e : SendEvent) : EventRow where
  tenant := e.tenant
  campaign := e.campaign
  contact := e.contact
  kind := e.kind.name
  messageId := e.messageId
  metadata := e.metadata.map (·.print)
  createdAt := e.time.text

/-- The event of a row.  Details that cannot be read count as none. -/
def eventOfRow (r : EventRow) : Except CampaignError SendEvent :=
  match Instant.ofText r.createdAt with
  | .error fault => .error (.invalidRow (.timestamp r.createdAt fault))
  | .ok time =>
    (EventKind.parse r.kind).map fun kind => {
      campaign := r.campaign, tenant := r.tenant, contact := r.contact, kind := kind, time := time
      messageId := r.messageId, metadata := r.metadata.bind Json.ofText? }

/-- Appends an event. -/
def append (s : Store) (e : SendEvent) : Store := { s with events := s.events ++ [rowOfEvent e] }

/-- The events of a campaign, the oldest first. -/
def eventsOf (s : Store) (campaign : String) : Except CampaignError (List SendEvent) :=
  (s.events.filter (·.campaign = campaign)).mapM eventOfRow

/-- How many messages of a tenant were taken and how many were not, over all campaigns. -/
def stats (s : Store) (tenant : String) : DeliveryStats :=
  let count (kind : EventKind) := s.events.countP fun r => r.tenant = tenant && r.kind = kind.name
  ⟨count .sent, count .failed⟩

/-- Tries to change or remove the events of a campaign; says how many rows were touched. -/
def tamper (s : Store) (campaign : String) : Except StoreFault Nat :=
  if s.events.any (·.campaign = campaign) then .error .appendOnly else .ok 0

end Store
end Mailshot
