import Mailshot.Audience.Rule
import Mailshot.Campaign.Basic
import Mailshot.Store.Tables

/-!
# Stored campaigns

Each function is one statement, carried out as a whole.  The four that change where a campaign
stands look at its status and change it in one statement (`setWhere`), so that of several callers
only one can take a step; what they change is marked with the time that the clock of the database
shows.  The calls that need two statements are put together from these: between the two, other
callers may have had their turn.
-/

set_option autoImplicit false

namespace Mailshot
namespace Store

/-! ## Tenants -/

/-- Stores a tenant, or gives it another name. -/
def upsertTenant (s : Store) (t : Tenant) : Store :=
  { s with tenants := s.tenants.insert t.id t.name }

/-- The tenant with an identifier. -/
def tenant (s : Store) (id : String) : Except CampaignError Tenant :=
  match s.tenants.find? id with
  | some name => .ok ⟨id, name⟩
  | none => .error (.tenantNotFound id)

/-! ## Making campaigns and segments -/

/-- Stores a new campaign, a draft, under an identifier. -/
def createCampaign (s : Store) (id createdAt : String) (new : NewCampaign) :
    Except StoreFault Store :=
  if !s.hasTenant new.tenant then .error .foreignKey
  else if s.hasCampaign id then .error (.unique "campaigns.id")
  else
    .ok { s with campaigns := s.campaigns.insert id {
      tenant := new.tenant, name := new.name, subject := new.subject, body := new.body
      fromName := new.fromName, replyTo := new.replyTo, status := Status.draft.name
      scheduledAt := none, cancelRequested := false, createdAt := createdAt
      updatedAt := createdAt } }

/-- Stores a rule group as a segment under an identifier. -/
def createSegment (s : Store) (id createdAt tenant name : String) (rules : RuleGroup) :
    Except StoreFault Store :=
  if !s.hasTenant tenant then .error .foreignKey
  else if s.hasSegment id then .error (.unique "segments.id")
  else .ok { s with segments := s.segments.insert id ⟨tenant, name, rules.text, createdAt⟩ }

/-- Lets a campaign go to a segment; doing so again changes nothing. -/
def link (s : Store) (campaign segment : String) : Except StoreFault Store :=
  if (campaign, segment) ∈ s.links then .ok s
  else if s.hasCampaign campaign && s.hasSegment segment then
    .ok { s with links := s.links ++ [(campaign, segment)] }
  else .error .foreignKey

/-! ## Reading -/

/-- The campaign of a row.  A moment that cannot be read counts as none. -/
def campaignOfRow (id : String) (r : CampaignRow) : Except CampaignError Campaign :=
  (Status.parse r.status).map fun status => {
    id := id, tenant := r.tenant, name := r.name, status := status, subject := r.subject
    body := r.body, fromName := r.fromName, replyTo := r.replyTo
    scheduledAt := r.scheduledAt.bind fun text => (Instant.ofText text).toOption
    cancelRequested := r.cancelRequested }

/-- The campaign with an identifier. -/
def load (s : Store) (id : String) : Except CampaignError Campaign :=
  match s.campaigns.find? id with
  | some r => campaignOfRow id r
  | none => .error (.notFound id)

/-- Whether someone asked for sending to stop. -/
def cancelRequested (s : Store) (id : String) : Except CampaignError Bool :=
  match s.campaigns.find? id with
  | some r => .ok r.cancelRequested
  | none => .error (.notFound id)

/-- Whether one row comes before another that was made earlier; rows made at one time are in the
order of their identifiers. -/
def newerFirst (a b : String × CampaignRow) : Bool :=
  decide (b.2.createdAt < a.2.createdAt) ||
    (decide (a.2.createdAt = b.2.createdAt) && decide (a.1 ≤ b.1))

/-- The campaigns of a tenant, the newest first. -/
def campaignsOf (s : Store) (tenant : String) : Except CampaignError (List Campaign) :=
  ((s.campaigns.entries.filter (·.2.tenant = tenant)).mergeSort newerFirst).mapM
    fun (id, r) => campaignOfRow id r

/-- Whether one segment was made before another, or at one time with it and comes first in the order
of identifiers. -/
def olderFirst (a b : String × SegmentRow) : Bool :=
  decide (a.2.createdAt < b.2.createdAt) ||
    (decide (a.2.createdAt = b.2.createdAt) && decide (a.1 ≤ b.1))

/-- The segments that a campaign goes to, those of its own tenant only, the oldest first. -/
def linkedSegments (s : Store) (campaign : String) : List (String × SegmentRow) :=
  match s.campaigns.find? campaign with
  | none => []
  | some c =>
    (s.segments.named.entries.filter fun (id, r) =>
      decide ((campaign, id) ∈ s.links) && decide (r.tenant = c.tenant)).mergeSort olderFirst

/-- The rule groups of the segments that a campaign goes to. -/
def linkedRuleGroups (s : Store) (campaign : String) : List RuleGroup :=
  (s.linkedSegments campaign).map fun (_, r) => RuleGroup.ofTextOrEmpty r.rules

/-! ## Steps of a campaign -/

/-- Changes the row of a campaign if its status is one of some, and says whether it was. -/
def setWhere (s : Store) (id : String) (statuses : List Status) (f : CampaignRow → CampaignRow) :
    Bool × Store :=
  match s.campaigns.find? id with
  | some r =>
    if r.status ∈ statuses.map Status.name then
      (true, { s with campaigns := s.campaigns.insert id (f r) })
    else (false, s)
  | none => (false, s)

/-- Claims a campaign for sending: a draft or a scheduled campaign becomes one that is being sent.
Says whether the claim succeeded. -/
def claim (s : Store) (id now : String) : Bool × Store :=
  s.setWhere id [.draft, .scheduled] fun r =>
    { r with status := Status.sending.name, updatedAt := now }

/-- Sets a moment for a draft, if it still is one. -/
def markScheduled (s : Store) (id now : String) (time : Instant) : Bool × Store :=
  s.setWhere id [.draft] fun r => { r with
    status := Status.scheduled.name, scheduledAt := some time.text, updatedAt := now }

/-- Notes that sending is to stop, if the campaign is being sent. -/
def markCancelled (s : Store) (id now : String) : Bool × Store :=
  s.setWhere id [.sending] fun r => { r with cancelRequested := true, updatedAt := now }

/-- Completes a campaign that is being sent. -/
def markCompleted (s : Store) (id now : String) : Bool × Store :=
  s.setWhere id [.sending] fun r =>
    { r with status := Status.completed.name, updatedAt := now }

/-! ## Calls of two statements -/

/-- The first statement of `schedule`: whether the campaign is a draft. -/
def checkSchedulable (s : Store) (id : String) : Except CampaignError Unit := do
  let c ← s.load id
  if c.status.canBecome .scheduled then return ()
  else throw (.invalidTransition c.status .scheduled)

/-- Sets a moment for a draft. -/
def schedule (s : Store) (id now : String) (time : Instant) : Except CampaignError Unit × Store :=
  match s.checkSchedulable id with
  | .error e => (.error e, s)
  | .ok () => (.ok (), (s.markScheduled id now time).2)

/-- The second statement of `requestCancel`: why the first one changed nothing. -/
def explainCancel (s : Store) (id : String) : CampaignError :=
  match s.load id with
  | .error e => e
  | .ok c => .notCancellable id c.status

/-- Asks for sending to stop. -/
def requestCancel (s : Store) (id now : String) : Except CampaignError Unit × Store :=
  match s.markCancelled id now with
  | (true, s) => (.ok (), s)
  | (false, s) => (.error (s.explainCancel id), s)

/-- The second statement of `complete`: why the first one changed nothing. -/
def explainComplete (s : Store) (id : String) : CampaignError :=
  match s.load id with
  | .error e => e
  | .ok c => .invalidTransition c.status .completed

/-- Completes a campaign. -/
def complete (s : Store) (id now : String) : Except CampaignError Unit × Store :=
  match s.markCompleted id now with
  | (true, s) => (.ok (), s)
  | (false, s) => (.error (s.explainComplete id), s)

end Store
end Mailshot
