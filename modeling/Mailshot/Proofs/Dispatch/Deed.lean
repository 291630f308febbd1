import Mailshot.Dispatch.Engine

/-!
# What a dispatch does, step by step

`Engine.step` says how a dispatch goes on; this file says what it does to the world on the way.  A
step does at most one thing that others can notice, its `Deed`: it asks for the campaign, starts a
worker, hands a message to a channel, appends an event, or asks for the campaign to be completed.
`Engine.deed` reads the deed off the stage, the turn and the state of the world, with the answer
that the world gave.

* `Engine.Goes` lists what a step can come to, one constructor for each way, with the deed that
  goes with it; `Run.Goes` is the part of it that happens while the dispatch is sending.  Nothing is
  said about the state: the answers of the world are whatever they are.
* `Engine.goes_step` opens the steps, once for all that is proved of a dispatch by itself.
-/

set_option autoImplicit false

namespace Mailshot
namespace Dispatch

/-- What a dispatch does in one step that others can notice. -/
inductive Deed where
  /-- It asked to have a campaign for itself, and this was the answer. -/
  | asked (campaign : String) (answer : Except CampaignError Bool)
  /-- It started a worker for a contact. -/
  | started (contact : Contact)
  /-- A worker handed the message to a contact to the channel in a place, and this came of it. -/
  | called (contact : Contact) (email : OutboundEmail) (place : Nat) (attempt : Attempt)
  /-- A worker appended an event to the log, and this was the answer. -/
  | recorded (event : SendEvent) (answer : Except CampaignError Unit)
  /-- It asked for a campaign to be completed, and this was the answer. -/
  | completed (campaign : String) (answer : Except CampaignError Unit)

namespace Deed

/-- The contact whose worker was started. -/
@[simp] def started? : Deed → Option Contact
  | started contact => some contact
  | _ => none

/-- What a message was handed to, and what came of it. -/
@[simp] def called? : Deed → Option (Contact × OutboundEmail × Nat × Attempt)
  | called contact email place attempt => some (contact, email, place, attempt)
  | _ => none

/-- The event that a worker tried to append. -/
@[simp] def recorded? : Deed → Option SendEvent
  | recorded event _ => some event
  | _ => none

/-- The event that is in the log now. -/
@[simp] def appended? : Deed → Option SendEvent
  | recorded event (.ok _) => some event
  | _ => none

/-- The contact over whose message a channel broke down. -/
@[simp] def lost? : Deed → Option Contact
  | called contact _ _ .crashed => some contact
  | _ => none

/-- The error that it was answered with. -/
@[simp] def error? : Deed → Option CampaignError
  | asked _ (.error err) | recorded _ (.error err) | completed _ (.error err) => some err
  | _ => none

/-- Whether it belongs to sending: only a dispatch that has its campaign for itself may do it. -/
def isSending : Deed → Bool
  | asked _ _ => false
  | _ => true

/-- Whether a campaign was got by it. -/
def wins (campaign : String) : Deed → Bool
  | asked id (.ok true) => id = campaign
  | _ => false

end Deed

namespace Engine

variable {σ : Type} (e : Engine σ)

/-- What is done in a step. -/
def deed (turn : Turn) (stage : Stage) (s : σ) : Option Deed :=
  match stage, turn with
  | .claiming campaign _ _, .dispatcher =>
    some (.asked campaign.id (e.campaigns.claim campaign.id s).1)
  | .sending r, .dispatcher =>
    match r.next with
    | some (contact, _) =>
      if stopRequested (e.campaigns.cancelRequested r.job.campaign.id s).1 then none
      else some (.started contact)
    | none => none
  | .sending r, .worker i =>
    match r.workers[i]? with
    | some (.calling contact email place) =>
      e.failover.channels[place]?.map fun c => .called contact email place (c.send email s).1
    | some (.recording event) => some (.recorded event (e.record event s).1)
    | none => none
  | .completing report, .dispatcher =>
    some (.completed report.campaign (e.campaigns.complete report.campaign s).1)
  | _, _ => none

/-- How sending begins. -/
def opening (campaign : Campaign) (audience : Audience) (tenant : Tenant) : Run where
  job := {
    campaign := campaign, tenant := tenant, audienceSize := audience.size
    senderName := firstName? [campaign.fromName, some tenant.name, e.defaultSender] }
  waiting := audience.contacts
  next := none
  workers := []
  sent := 0
  failed := 0
  lost := 0
  skipped := 0
  stopped := false

theorem start_eq (campaign : Campaign) (audience : Audience) (tenant : Tenant) :
    e.start campaign audience tenant =
      if maxWorkers < e.limit then .ended .crashed
      else .sending (e.opening campaign audience tenant) := rfl

end Engine

/-! ## What a step can come to -/

/-- What a step of a dispatch that is sending can come to, with room for so many workers. -/
inductive Run.Goes (limit : Nat) : Run → Option Deed → Run → Prop
  /-- A contact without an address has its turn. -/
  | pass {r : Run} {contact : Contact} {rest : List Contact} (hnext : r.next = none)
      (hwaiting : r.waiting = contact :: rest) (haddress : contact.address? = none) :
      Goes limit r none { r with waiting := rest, skipped := r.skipped + 1 }
  /-- A contact with an address has its turn, since there is room for another worker. -/
  | ready {r : Run} {contact : Contact} {rest : List Contact} {address : String}
      (hnext : r.next = none) (hwaiting : r.waiting = contact :: rest)
      (haddress : contact.address? = some address) (hroom : r.workers.length < limit) :
      Goes limit r none { r with waiting := rest, next := some (contact, address) }
  /-- The dispatch was asked to stop. -/
  | stop {r : Run} {contact : Contact} {address : String}
      (hnext : r.next = some (contact, address)) :
      Goes limit r none { r with waiting := [], next := none, stopped := true }
  /-- A worker is started. -/
  | start {r : Run} {contact : Contact} {address : String}
      (hnext : r.next = some (contact, address)) :
      Goes limit r (some (.started contact)) { r with
        next := none, workers := r.workers ++ [.calling contact (r.job.email contact address) 0] }
  /-- A channel could not be reached, and the next one is to be tried. -/
  | retry {r : Run} {i : Nat} {contact : Contact} {email : OutboundEmail} {place : Nat}
      {error : TransportError} (hworker : r.workers[i]? = some (.calling contact email place)) :
      Goes limit r (some (.called contact email place (.refused error)))
        { r with workers := r.workers.set i (.calling contact email (place + 1)) }
  /-- A channel took the message. -/
  | accept {r : Run} {i : Nat} {contact : Contact} {email : OutboundEmail} {place : Nat}
      (time : Instant) (receipt : Receipt)
      (hworker : r.workers[i]? = some (.calling contact email place)) :
      Goes limit r (some (.called contact email place (.accepted receipt)))
        { r with
          sent := r.sent + 1
          workers := r.workers.set i
            (.recording (r.job.sentEvent contact time receipt (place + 1))) }
  /-- No channel takes the message. -/
  | refuse {r : Run} {i : Nat} {contact : Contact} {email : OutboundEmail} {place : Nat}
      (time : Instant) (error : TransportError) (name : String)
      (hworker : r.workers[i]? = some (.calling contact email place)) :
      Goes limit r (some (.called contact email place (.refused error)))
        { r with
          failed := r.failed + 1
          workers := r.workers.set i
            (.recording (r.job.failedEvent contact time error name (place + 1))) }
  /-- There is no channel to try. -/
  | lack {r : Run} {i : Nat} {contact : Contact} {email : OutboundEmail} {place : Nat}
      (time : Instant) (error : TransportError)
      (hworker : r.workers[i]? = some (.calling contact email place)) :
      Goes limit r none
        { r with
          failed := r.failed + 1
          workers := r.workers.set i
            (.recording (r.job.failedEvent contact time error "" place)) }
  /-- A channel broke down, and the worker with it. -/
  | lose {r : Run} {i : Nat} {contact : Contact} {email : OutboundEmail} {place : Nat}
      (hworker : r.workers[i]? = some (.calling contact email place)) :
      Goes limit r (some (.called contact email place .crashed))
        { r with lost := r.lost + 1, workers := r.workers.eraseIdx i }
  /-- A worker is done. -/
  | record {r : Run} {i : Nat} {event : SendEvent} (answer : Except CampaignError Unit)
      (hworker : r.workers[i]? = some (.recording event)) :
      Goes limit r (some (.recorded event answer)) { r with workers := r.workers.eraseIdx i }

/-- Whether something has to be read before the campaign can be asked for. -/
def Stage.isEarly : Stage → Bool
  | .loading _ _ | .linking _ _ | .resolving _ _ _ | .identifying _ _ => true
  | _ => false

/-- Whether an error may come before the campaign is asked for. -/
def Error.isEarly : Error → Bool
  | .campaign _ | .resolution _ => true
  | _ => false

namespace Engine

variable {σ : Type} (e : Engine σ)

/-- What a step can come to. -/
inductive Goes : Stage → Option Deed → Stage → Prop
  /-- Who has the turn has nothing to do or has to wait. -/
  | rest (stage : Stage) : Goes stage none stage
  /-- Something that is needed beforehand cannot be had. -/
  | fail {stage : Stage} {err : Error} (hstage : stage.isEarly = true)
      (herr : err.isEarly = true) : Goes stage none (.failure err)
  /-- The campaign is being sent already or was sent. -/
  | skip {id : String} {recipients : Recipients} {status : Status}
      (hstatus : status.isSendable = false) :
      Goes (.loading id recipients) none (.ended (.answered (.ok (.ofSkipped id status))))
  /-- The campaign goes to its segments. -/
  | load {id : String} {campaign : Campaign} {s : σ}
      (hload : (e.campaigns.load id s).1 = .ok campaign) :
      Goes (.loading id .segments) none (.linking id campaign)
  /-- The campaign goes to a list of contacts. -/
  | pick {id : String} {contacts : List Contact} {campaign : Campaign} {s : σ}
      (hload : (e.campaigns.load id s).1 = .ok campaign) :
      Goes (.loading id (.list contacts)) none
        (.identifying campaign (.ofList (contacts.filter (·.tenant = campaign.tenant))))
  /-- The rule groups are known. -/
  | link {id : String} {campaign : Campaign} (groups : List RuleGroup) :
      Goes (.linking id campaign) none (.resolving campaign .empty groups)
  /-- The contacts of one group join the audience. -/
  | add {campaign : Campaign} {audience : Audience} {g : RuleGroup} {gs : List RuleGroup}
      (contacts : List Contact) :
      Goes (.resolving campaign audience (g :: gs)) none
        (.resolving campaign (audience.insertAll contacts) gs)
  /-- There are no more groups. -/
  | gather {campaign : Campaign} {audience : Audience} :
      Goes (.resolving campaign audience []) none (.identifying campaign audience)
  /-- The tenant is known. -/
  | identify {campaign : Campaign} {audience : Audience} (tenant : Tenant) :
      Goes (.identifying campaign audience) none (.claiming campaign audience tenant)
  /-- It cannot be said whether the campaign may be sent. -/
  | falter {campaign : Campaign} {audience : Audience} {tenant : Tenant} (err : CampaignError) :
      Goes (.claiming campaign audience tenant) (some (.asked campaign.id (.error err)))
        (.failure (.campaign err))
  /-- Someone else has the campaign. -/
  | yield {campaign : Campaign} {audience : Audience} {tenant : Tenant} :
      Goes (.claiming campaign audience tenant) (some (.asked campaign.id (.ok false)))
        (.failure (.alreadyInProgress campaign.id))
  /-- The campaign is to be sent, but there cannot be as many workers as are allowed. -/
  | crash {campaign : Campaign} {audience : Audience} {tenant : Tenant}
      (hlimit : maxWorkers < e.limit) :
      Goes (.claiming campaign audience tenant) (some (.asked campaign.id (.ok true)))
        (.ended .crashed)
  /-- Sending begins. -/
  | win {campaign : Campaign} {audience : Audience} {tenant : Tenant}
      (hlimit : e.limit ≤ maxWorkers) :
      Goes (.claiming campaign audience tenant) (some (.asked campaign.id (.ok true)))
        (.sending (e.opening campaign audience tenant))
  /-- Sending goes on. -/
  | work {r r' : Run} {d : Option Deed} (hgoes : r.Goes e.limit d r') :
      Goes (.sending r) d (.sending r')
  /-- Nothing is left to send. -/
  | drain {r : Run} (hnext : r.next = none) (hwaiting : r.waiting = [])
      (hworkers : r.workers = []) : Goes (.sending r) none (.completing r.report)
  /-- The campaign is completed. -/
  | finish {report : Report} :
      Goes (.completing report) (some (.completed report.campaign (.ok ())))
        (.ended (.answered (.ok report)))
  /-- The campaign cannot be completed. -/
  | strand {report : Report} (err : CampaignError) :
      Goes (.completing report) (some (.completed report.campaign (.error err)))
        (.failure (.finalize report err))

/-- An action that goes on with the answer of another. -/
theorem bind_apply {α β : Type} (m : StateM σ α) (f : α → StateM σ β) (s : σ) :
    (m >>= f) s = f (m s).1 (m s).2 := rfl

/-- An action that only answers. -/
theorem pure_apply {α : Type} (a : α) (s : σ) : (pure a : StateM σ α) s = (a, s) := rfl

theorem goes_dispatcherStep (r : Run) (s : σ) :
    e.Goes (.sending r) (e.deed .dispatcher (.sending r) s) (e.dispatcherStep r s).1 := by
  cases hnext : r.next with
  | some chosen =>
    obtain ⟨contact, address⟩ := chosen
    simp only [dispatcherStep, deed, hnext, bind_apply]
    split
    · exact .work (.stop hnext)
    · exact .work (.start hnext)
  | none =>
    cases hwaiting : r.waiting with
    | cons contact rest =>
      cases haddress : contact.address? with
      | none =>
        have hpass : r.Goes e.limit none _ := .pass hnext hwaiting haddress
        simp only [dispatcherStep, deed, hnext, hwaiting, haddress] at hpass ⊢
        exact .work hpass
      | some address =>
        simp only [dispatcherStep, deed, hnext, hwaiting, haddress]
        split
        · next hroom => exact .work (.ready hnext hwaiting haddress hroom)
        · exact .rest _
    | nil =>
      simp only [dispatcherStep, deed, hnext, hwaiting]
      split
      · next hworkers => exact .drain hnext hwaiting (List.isEmpty_iff.1 hworkers)
      · exact .rest _

theorem goes_workerStep (r : Run) (i : Nat) (s : σ) :
    e.Goes (.sending r) (e.deed (.worker i) (.sending r) s) (e.workerStep r i s).1 := by
  cases hworker : r.workers[i]? with
  | none =>
    simp only [workerStep, deed, hworker]
    exact .rest _
  | some w =>
    cases w with
    | recording event =>
      simp only [workerStep, deed, hworker]
      exact .work (.record _ hworker)
    | calling contact email place =>
      cases hchannel : e.failover.channels[place]? with
      | none =>
        simp only [workerStep, deed, hworker, hchannel, Option.map_none]
        exact .work (.lack _ _ hworker)
      | some channel =>
        simp only [workerStep, deed, hworker, hchannel, Option.map_some, bind_apply]
        cases (channel.send email s).1 with
        | accepted receipt => exact .work (.accept _ receipt hworker)
        | crashed => exact .work (.lose hworker)
        | refused error =>
          rw [Failover.conclude]
          split
          · exact .work (.retry hworker)
          · exact .work (.refuse _ error channel.name hworker)

/-- A step adds nothing to the audience but contacts that it inserts. -/
theorem goes_addGroup (campaign : Campaign) (audience : Audience) (g : RuleGroup)
    (gs : List RuleGroup) (s : σ) :
    e.Goes (.resolving campaign audience (g :: gs)) none
      (e.step .dispatcher (.resolving campaign audience (g :: gs)) s).1 := by
  simp only [step, ContactSource.addGroup, bind_apply]
  split
  · exact .add []
  · simp only [bind_apply]
    cases (e.contacts.matching g.compile campaign.tenant s).1 with
    | error err => exact .fail rfl rfl
    | ok contacts => exact .add _

/-- **What a step can come to**, and what is done in it. -/
theorem goes_step (turn : Turn) (stage : Stage) (s : σ) :
    e.Goes stage (e.deed turn stage s) (e.step turn stage s).1 := by
  cases turn with
  | worker i =>
    cases stage with
    | sending r => exact e.goes_workerStep r i s
    | _ => exact .rest _
  | dispatcher =>
    cases stage with
    | sending r => exact e.goes_dispatcherStep r s
    | ended ending => exact .rest _
    | loading id recipients =>
      simp only [step, deed, bind_apply]
      cases hload : (e.campaigns.load id s).1 with
      | error err => exact .fail rfl rfl
      | ok campaign =>
        dsimp only
        split
        · cases recipients with
          | segments => exact .load hload
          | list contacts => exact .pick hload
        · next hstatus => exact .skip (Bool.eq_false_iff.2 hstatus)
    | linking id campaign =>
      simp only [step, deed, bind_apply]
      cases (e.campaigns.linkedRuleGroups id s).1 with
      | error err => exact .fail rfl rfl
      | ok groups => exact .link groups
    | resolving campaign audience groups =>
      cases groups with
      | nil => exact .gather
      | cons g gs => exact e.goes_addGroup campaign audience g gs s
    | identifying campaign audience =>
      simp only [step, deed, bind_apply]
      cases (e.campaigns.tenant campaign.tenant s).1 with
      | error err => exact .fail rfl rfl
      | ok tenant => exact .identify tenant
    | claiming campaign audience tenant =>
      simp only [step, deed, bind_apply]
      cases (e.campaigns.claim campaign.id s).1 with
      | error err => exact .falter err
      | ok won =>
        cases won with
        | false => exact .yield
        | true =>
          simp only [pure_apply, start_eq]
          split
          · next hlimit => exact .crash hlimit
          · next hlimit => exact .win (Nat.le_of_not_lt hlimit)
    | completing report =>
      simp only [step, deed, bind_apply]
      cases (e.campaigns.complete report.campaign s).1 with
      | error err => exact .strand err
      | ok done => exact .finish

/-- A dispatch that is sending goes on sending or is about to complete its campaign. -/
theorem Goes.of_sending {e : Engine σ} {r : Run} {d : Option Deed} {stage : Stage}
    (h : e.Goes (.sending r) d stage) :
    (∃ r', stage = .sending r') ∨ ∃ report, stage = .completing report := by
  cases h with
  | rest => exact .inl ⟨_, rfl⟩
  | fail hstage => cases hstage
  | work => exact .inl ⟨_, rfl⟩
  | drain => exact .inr ⟨_, rfl⟩

end Engine
end Dispatch
end Mailshot
