import Mailshot.Audience.Resolve
import Mailshot.Campaign.Template
import Mailshot.Dispatch.Report
import Mailshot.Mail.Failover

/-!
# Dispatching a campaign

A dispatch reads its campaign, finds the audience, reads the tenant, claims the campaign, sends one
message to each contact, and completes the campaign.  It is a process that goes on step by step
(`Stage`, `Engine.step`): each step uses one collaborator once, and between two steps others may
have their turn.

While it is sending (`Run`) there are several processes in it.  The dispatcher takes the contacts in
order; for each with an address it waits until fewer workers are at work than are allowed, asks
whether it should stop, and starts a worker.  A worker hands its message to the channels and then
records an event.  A channel that breaks down over a message takes the worker with it, which counts
as a failure and leaves no event.

The collaborators work on a state `σ` of which nothing is assumed.
-/

set_option autoImplicit false

namespace Mailshot

/-- Where campaigns are kept. -/
structure CampaignSource (σ : Type) where
  /-- The campaign with an identifier. -/
  load : String → StateM σ (Except CampaignError Campaign)
  /-- The tenant with an identifier. -/
  tenant : String → StateM σ (Except CampaignError Tenant)
  /-- The rule groups that a campaign goes to. -/
  linkedRuleGroups : String → StateM σ (Except CampaignError (List RuleGroup))
  /-- Claims a campaign for sending, and says whether the claim succeeded. -/
  claim : String → StateM σ (Except CampaignError Bool)
  /-- Completes a campaign. -/
  complete : String → StateM σ (Except CampaignError Unit)
  /-- Whether someone asked for sending to stop. -/
  cancelRequested : String → StateM σ (Except CampaignError Bool)

namespace Dispatch

/-- The most workers that can be allowed at once. -/
def maxWorkers : Nat := Nat.pow 2 61 - 1

/-- What a dispatch works with. -/
structure Engine (σ : Type) where
  /-- Where campaigns are kept. -/
  campaigns : CampaignSource σ
  /-- Where contacts are kept. -/
  contacts : ContactSource σ ContactError
  /-- The channels. -/
  failover : Failover σ
  /-- Appends an event to the log. -/
  record : SendEvent → StateM σ (Except CampaignError Unit)
  /-- What time it is. -/
  clock : StateM σ Instant
  /-- How many workers are wanted at once. -/
  concurrency : Nat
  /-- The name that messages come from when neither the campaign nor the tenant has one. -/
  defaultSender : Option String

/-- How many workers there may be at once: at least one. -/
def Engine.limit {σ : Type} (e : Engine σ) : Nat := max 1 e.concurrency

/-! ## The messages of a campaign -/

/-- The first of some names that is not blank. -/
def firstName? (names : List (Option String)) : Option String :=
  names.findSome? fun n => n.filter fun s => !blank s

/-- What all messages of a campaign have in common. -/
structure Job where
  /-- The campaign, as it was read. -/
  campaign : Campaign
  /-- Its tenant. -/
  tenant : Tenant
  /-- The name that the messages come from. -/
  senderName : Option String
  /-- How many contacts are meant. -/
  audienceSize : Nat

/-- The message to one contact. -/
def Job.email (j : Job) (contact : Contact) (address : String) : OutboundEmail where
  recipient := address
  subject := Template.personalize j.campaign.subject contact j.tenant
  html := Template.personalize j.campaign.body contact j.tenant
  senderName := j.senderName
  replyTo := j.campaign.replyTo

/-- The event of a message that a channel took. -/
def Job.sentEvent (j : Job) (contact : Contact) (time : Instant) (r : Receipt) (attempts : Nat) :
    SendEvent where
  campaign := j.campaign.id
  tenant := j.tenant.id
  contact := contact.id
  kind := .sent
  time := time
  messageId := r.messageId
  metadata := some (.object [("attempts", .number (.ofNat attempts)),
    ("channel", .string r.channel), ("mock", .bool r.mock)])

/-- The event of a message that no channel took. -/
def Job.failedEvent (j : Job) (contact : Contact) (time : Instant) (error : TransportError)
    (channel : String) (attempts : Nat) : SendEvent where
  campaign := j.campaign.id
  tenant := j.tenant.id
  contact := contact.id
  kind := .failed
  time := time
  messageId := none
  metadata := some (.object [("attempts", .number (.ofNat attempts)),
    ("channel", .string channel), ("error", .string error.message)])

/-! ## Stages -/

/-- Who sends to one contact. -/
inductive Worker where
  /-- The message goes to the channel in this place next. -/
  | calling (contact : Contact) (email : OutboundEmail) (tried : Nat)
  /-- The event is recorded next. -/
  | recording (event : SendEvent)

/-- A dispatch that is sending. -/
structure Run where
  /-- What the messages have in common. -/
  job : Job
  /-- The contacts that have not had their turn. -/
  waiting : List Contact
  /-- The contact, with its address, for whom a worker is about to be started. -/
  next : Option (Contact × String)
  /-- The workers at work. -/
  workers : List Worker
  /-- Messages that a channel took. -/
  sent : Nat
  /-- Messages that no channel took. -/
  failed : Nat
  /-- Workers that were lost with a channel. -/
  lost : Nat
  /-- Contacts without an address. -/
  skipped : Nat
  /-- Whether the dispatch was asked to stop. -/
  stopped : Bool

/-- The report on a dispatch that has nothing left to send. -/
def Run.report (r : Run) : Report where
  campaign := r.job.campaign.id
  outcome := if r.stopped then .cancelled else .completed
  audienceSize := r.job.audienceSize
  sent := r.sent
  failed := r.failed + r.lost
  skipped := r.skipped

/-- Whom a campaign is dispatched to. -/
inductive Recipients where
  /-- The contacts that the rule groups of the campaign mean. -/
  | segments
  /-- These contacts, as far as they belong to the tenant. -/
  | list (contacts : List Contact)

/-- How a dispatch ended. -/
inductive Ending where
  /-- It has an answer. -/
  | answered (r : Except Error Report)
  /-- It broke down. -/
  | crashed

/-- What a dispatch does next. -/
inductive Stage where
  /-- It reads the campaign. -/
  | loading (id : String) (recipients : Recipients)
  /-- It reads the rule groups. -/
  | linking (id : String) (campaign : Campaign)
  /-- It finds the contacts that these groups mean as well. -/
  | resolving (campaign : Campaign) (audience : Audience) (groups : List RuleGroup)
  /-- It reads the tenant. -/
  | identifying (campaign : Campaign) (audience : Audience)
  /-- It claims the campaign. -/
  | claiming (campaign : Campaign) (audience : Audience) (tenant : Tenant)
  /-- It sends. -/
  | sending (run : Run)
  /-- It completes the campaign. -/
  | completing (report : Report)
  /-- It is over. -/
  | ended (ending : Ending)

/-- A stage in which the dispatch is over with an error. -/
def Stage.failure (e : Error) : Stage := .ended (.answered (.error e))

namespace Engine

variable {σ : Type} (e : Engine σ)

/-- The beginning of sending.  More workers than there can be cannot be allowed. -/
def start (campaign : Campaign) (audience : Audience) (tenant : Tenant) : Stage :=
  if maxWorkers < e.limit then .ended .crashed
  else .sending {
    job := {
      campaign := campaign, tenant := tenant, audienceSize := audience.size
      senderName := firstName? [campaign.fromName, some tenant.name, e.defaultSender] }
    waiting := audience.contacts, next := none, workers := []
    sent := 0, failed := 0, lost := 0, skipped := 0, stopped := false }

/-! ## Steps -/

/-- Whether to stop, as the campaign says; if it cannot be read, not. -/
def stopRequested : Except CampaignError Bool → Bool
  | .ok flag => flag
  | .error _ => false

/-- A step of the dispatcher while it is sending. -/
def dispatcherStep (r : Run) : StateM σ Stage :=
  match r.next with
  | some (contact, address) => do
    if stopRequested (← e.campaigns.cancelRequested r.job.campaign.id) then
      return .sending { r with waiting := [], next := none, stopped := true }
    else
      return .sending { r with
        next := none, workers := r.workers ++ [.calling contact (r.job.email contact address) 0] }
  | none =>
    match r.waiting with
    | contact :: rest =>
      match contact.address? with
      | none => pure (.sending { r with waiting := rest, skipped := r.skipped + 1 })
      | some address =>
        if r.workers.length < e.limit then
          pure (.sending { r with waiting := rest, next := some (contact, address) })
        else pure (.sending r)
    | [] => if r.workers.isEmpty then pure (.completing r.report) else pure (.sending r)

/-- What a worker does after the answer of the channel in a place. -/
def afterCall (r : Run) (i : Nat) (contact : Contact) (email : OutboundEmail) (tried : Nat)
    (time : Instant) : Option Delivery → Run
  | none => { r with workers := r.workers.set i (.calling contact email (tried + 1)) }
  | some (.accepted receipt attempts) =>
    { r with
      sent := r.sent + 1
      workers := r.workers.set i (.recording (r.job.sentEvent contact time receipt attempts)) }
  | some (.failed error channel attempts) =>
    { r with
      failed := r.failed + 1
      workers :=
        r.workers.set i (.recording (r.job.failedEvent contact time error channel attempts)) }
  | some .crashed => { r with lost := r.lost + 1, workers := r.workers.eraseIdx i }

/-- A step of the worker in a place. -/
def workerStep (r : Run) (i : Nat) : StateM σ Stage :=
  match r.workers[i]? with
  | none => pure (.sending r)
  | some (.recording event) => do
    let _ ← e.record event
    return .sending { r with workers := r.workers.eraseIdx i }
  | some (.calling contact email tried) =>
    match e.failover.channels[tried]? with
    | none => do
      let error := TransportError.misconfigured "no mail channel configured"
      return .sending
        (afterCall r i contact email tried (← e.clock) (some (.failed error "" tried)))
    | some channel => do
      let attempt ← channel.send email
      let more := decide (tried + 1 < e.failover.channels.length)
      return .sending (afterCall r i contact email tried (← e.clock)
        (Failover.conclude channel.name (tried + 1) more attempt))

/-- Whose turn it is. -/
inductive Turn where
  /-- That of the dispatcher. -/
  | dispatcher
  /-- That of the worker in this place. -/
  | worker (i : Nat)
deriving DecidableEq

/-- One step.  Who has nothing to do, or has to wait, leaves everything as it is. -/
def step (turn : Turn) (stage : Stage) : StateM σ Stage :=
  match stage, turn with
  | .sending r, .dispatcher => e.dispatcherStep r
  | .sending r, .worker i => e.workerStep r i
  | stage, .worker _ => pure stage
  | .loading id recipients, .dispatcher => do
    match ← e.campaigns.load id with
    | .error err => return .failure (.campaign err)
    | .ok campaign =>
      if campaign.status.isSendable then
        match recipients with
        | .segments => return .linking id campaign
        | .list contacts =>
          return .identifying campaign (.ofList (contacts.filter (·.tenant = campaign.tenant)))
      else return .ended (.answered (.ok (.ofSkipped id campaign.status)))
  | .linking id campaign, .dispatcher => do
    match ← e.campaigns.linkedRuleGroups id with
    | .error err => return .failure (.campaign err)
    | .ok groups => return .resolving campaign .empty groups
  | .resolving campaign audience [], .dispatcher => pure (.identifying campaign audience)
  | .resolving campaign audience (g :: gs), .dispatcher => do
    match ← e.contacts.addGroup campaign.tenant audience g with
    | .error err => return .failure (.resolution err)
    | .ok audience => return .resolving campaign audience gs
  | .identifying campaign audience, .dispatcher => do
    match ← e.campaigns.tenant campaign.tenant with
    | .error err => return .failure (.campaign err)
    | .ok tenant => return .claiming campaign audience tenant
  | .claiming campaign audience tenant, .dispatcher => do
    match ← e.campaigns.claim campaign.id with
    | .error err => return .failure (.campaign err)
    | .ok false => return .failure (.alreadyInProgress campaign.id)
    | .ok true => return e.start campaign audience tenant
  | .completing report, .dispatcher => do
    match ← e.campaigns.complete report.campaign with
    | .error err => return .failure (.finalize report err)
    | .ok () => return .ended (.answered (.ok report))
  | .ended ending, .dispatcher => pure (.ended ending)

end Engine

end Dispatch
end Mailshot
