import Mailshot.Dispatch.Schedule
import Mailshot.Store.Connection

/-!
# Dispatching from a store

The campaigns, the contacts and the log of a dispatch are those of one connection.  What the clock
of the database shows depends on the state of the connection, and on nothing that a dispatch has in
hand.
-/

set_option autoImplicit false

namespace Mailshot

/-- The campaigns of the store, whose clock shows a time in each state. -/
def Connection.campaignSource (now : Connection → String) : CampaignSource Connection where
  load := Connection.load
  tenant := Connection.tenant
  linkedRuleGroups := Connection.linkedRuleGroups
  claim id c := Connection.claim id (now c) c
  complete id c := Connection.complete id (now c) c
  cancelRequested := Connection.cancelRequested

namespace Dispatch

/-- A dispatch that works with a connection. -/
def Engine.ofStore (now : Connection → String) (failover : Failover Connection)
    (clock : StateM Connection Instant) (concurrency : Nat) (defaultSender : Option String) :
    Engine Connection where
  campaigns := Connection.campaignSource now
  contacts := Connection.contactSource
  failover := failover
  record := Connection.append
  clock := clock
  concurrency := concurrency
  defaultSender := defaultSender

end Dispatch

end Mailshot
