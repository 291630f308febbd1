import Mailshot.Proofs.Dispatch.Path

/-!
# What the collaborators see

The deeds of a dispatch are read off its stages (`Engine.deed`).  Here they are held against what
happens: `Engine.watched` has its collaborators write down whatever they are asked that others can
notice, and nothing else of a dispatch is changed.  A step then writes down what its deed says
(`Engine.watched_step`), and so does any number of turns (`Engine.watched_follow`).  The start of a
worker is the one deed that no collaborator sees.
-/

set_option autoImplicit false

namespace Mailshot
namespace Dispatch

/-- What a collaborator sees of a dispatch. -/
inductive Sight where
  /-- The store was asked for a campaign, and answered. -/
  | asked (campaign : String) (answer : Except CampaignError Bool)
  /-- The channel in a place was handed a message, and this came of it. -/
  | handed (email : OutboundEmail) (place : Nat) (attempt : Attempt)
  /-- The log was handed an event, and answered. -/
  | recorded (event : SendEvent) (answer : Except CampaignError Unit)
  /-- The store was asked for a campaign to be completed, and answered. -/
  | completed (campaign : String) (answer : Except CampaignError Unit)

/-- What is seen of a deed. -/
def Deed.sight? : Deed → Option Sight
  | asked campaign answer => some (.asked campaign answer)
  | started _ => none
  | called _ email place attempt => some (.handed email place attempt)
  | recorded event answer => some (.recorded event answer)
  | completed campaign answer => some (.completed campaign answer)

section Watching

variable {σ α : Type}

/-- An action of which nothing is written down. -/
def unseen (m : StateM σ α) : StateM (σ × List Sight) α :=
  fun p => ((m p.1).1, ((m p.1).2, p.2))

/-- An action that is written down with its answer. -/
def seen (m : StateM σ α) (sight : α → Sight) : StateM (σ × List Sight) α :=
  fun p => ((m p.1).1, ((m p.1).2, p.2 ++ [sight (m p.1).1]))

theorem unseen_apply (m : StateM σ α) (s : σ) (sights : List Sight) :
    unseen m (s, sights) = ((m s).1, ((m s).2, sights)) := rfl

theorem seen_apply (m : StateM σ α) (sight : α → Sight) (s : σ) (sights : List Sight) :
    seen m sight (s, sights) = ((m s).1, ((m s).2, sights ++ [sight (m s).1])) := rfl

end Watching

namespace Engine

variable {σ : Type} (e : Engine σ)

/-- A channel that writes down what it is handed. -/
def watchedChannel (place : Nat) (channel : Channel σ) : Channel (σ × List Sight) where
  name := channel.name
  send email := seen (channel.send email) (.handed email place)

/-- The same dispatch, whose collaborators write down what they see. -/
def watched : Engine (σ × List Sight) where
  campaigns := {
    load := fun id => unseen (e.campaigns.load id)
    tenant := fun id => unseen (e.campaigns.tenant id)
    linkedRuleGroups := fun id => unseen (e.campaigns.linkedRuleGroups id)
    claim := fun id => seen (e.campaigns.claim id) (.asked id)
    complete := fun id => seen (e.campaigns.complete id) (.completed id)
    cancelRequested := fun id => unseen (e.campaigns.cancelRequested id) }
  contacts := {
    matching := fun predicate tenant => unseen (e.contacts.matching predicate tenant)
    count := fun predicate tenant => unseen (e.contacts.count predicate tenant) }
  failover := {
    channels := e.failover.channels.mapIdx watchedChannel
    size_bounds := by rw [List.length_mapIdx]; exact e.failover.size_bounds }
  record := fun event => seen (e.record event) (.recorded event)
  clock := unseen e.clock
  concurrency := e.concurrency
  defaultSender := e.defaultSender

/-- What is written down in a step, after what was seen before. -/
def sightsAfter (turn : Turn) (stage : Stage) (s : σ) (sights : List Sight) : List Sight :=
  sights ++ ((e.deed turn stage s).bind Deed.sight?).toList

theorem watched_dispatcherStep (r : Run) (s : σ) (sights : List Sight) :
    e.watched.dispatcherStep r (s, sights) =
      ((e.dispatcherStep r s).1,
        ((e.dispatcherStep r s).2, e.sightsAfter .dispatcher (.sending r) s sights)) := by
  cases hnext : r.next with
  | some chosen =>
    obtain ⟨contact, address⟩ := chosen
    simp only [dispatcherStep, sightsAfter, deed, hnext, watched, bind_apply, unseen_apply]
    by_cases hstop : stopRequested (e.campaigns.cancelRequested r.job.campaign.id s).1 = true
    · simp [hstop, pure_apply]
    · simp [hstop, pure_apply, Deed.sight?]
  | none =>
    cases hwaiting : r.waiting with
    | cons contact rest =>
      cases haddress : contact.address? with
      | none => simp [dispatcherStep, sightsAfter, deed, hnext, hwaiting, haddress, pure_apply]
      | some address =>
        simp only [dispatcherStep, sightsAfter, deed, hnext, hwaiting, haddress]
        have hlimit : e.watched.limit = e.limit := rfl
        rw [hlimit]
        split <;> simp [pure_apply]
    | nil =>
      simp only [dispatcherStep, sightsAfter, deed, hnext, hwaiting]
      split <;> simp [pure_apply]

theorem watched_workerStep (r : Run) (i : Nat) (s : σ) (sights : List Sight) :
    e.watched.workerStep r i (s, sights) =
      ((e.workerStep r i s).1,
        ((e.workerStep r i s).2, e.sightsAfter (.worker i) (.sending r) s sights)) := by
  cases hworker : r.workers[i]? with
  | none => simp [workerStep, sightsAfter, deed, hworker, pure_apply]
  | some w =>
    cases w with
    | recording event =>
      simp [workerStep, sightsAfter, deed, hworker, watched, bind_apply, pure_apply, seen_apply,
        Deed.sight?]
    | calling contact email place =>
      have hplace : e.watched.failover.channels[place]? =
          e.failover.channels[place]?.map (watchedChannel place) := List.getElem?_mapIdx
      have hlength : e.watched.failover.channels.length = e.failover.channels.length :=
        List.length_mapIdx
      cases hchannel : e.failover.channels[place]? with
      | none =>
        rw [hchannel, Option.map_none] at hplace
        simp only [workerStep, sightsAfter, deed, hworker, hchannel, hplace, bind_apply, pure_apply]
        simp [watched, unseen_apply]
      | some channel =>
        rw [hchannel, Option.map_some] at hplace
        simp only [workerStep, sightsAfter, deed, hworker, hchannel, hplace, hlength, bind_apply,
          pure_apply]
        simp [watched, watchedChannel, unseen_apply, seen_apply, Deed.sight?]

theorem watched_addGroup (campaign : Campaign) (audience : Audience) (g : RuleGroup)
    (gs : List RuleGroup) (s : σ) (sights : List Sight) :
    e.watched.step .dispatcher (.resolving campaign audience (g :: gs)) (s, sights) =
      ((e.step .dispatcher (.resolving campaign audience (g :: gs)) s).1,
        ((e.step .dispatcher (.resolving campaign audience (g :: gs)) s).2,
          e.sightsAfter .dispatcher (.resolving campaign audience (g :: gs)) s sights)) := by
  simp only [step, sightsAfter, deed, ContactSource.addGroup, bind_apply]
  by_cases hnever : g.compile.isNever = true
  · simp [hnever, pure_apply]
  · simp only [if_neg hnever]
    simp only [bind_apply]
    simp only [watched, unseen_apply]
    cases (e.contacts.matching g.compile campaign.tenant s).1 <;> simp [pure_apply]

/-- **A step writes down what its deed says**, and comes to the same otherwise. -/
theorem watched_step (turn : Turn) (stage : Stage) (s : σ) (sights : List Sight) :
    e.watched.step turn stage (s, sights) =
      ((e.step turn stage s).1,
        ((e.step turn stage s).2, e.sightsAfter turn stage s sights)) := by
  cases turn with
  | worker i =>
    cases stage with
    | sending r => exact e.watched_workerStep r i s sights
    | _ => simp [step, sightsAfter, deed, pure_apply]
  | dispatcher =>
    cases stage with
    | sending r => exact e.watched_dispatcherStep r s sights
    | ended ending => simp [step, sightsAfter, deed, pure_apply]
    | loading id recipients =>
      simp only [step, sightsAfter, deed, watched, bind_apply, unseen_apply]
      cases (e.campaigns.load id s).1 with
      | error err => simp [pure_apply]
      | ok campaign =>
        dsimp only
        split
        · cases recipients <;> simp [pure_apply]
        · simp [pure_apply]
    | linking id campaign =>
      simp only [step, sightsAfter, deed, watched, bind_apply, unseen_apply]
      cases (e.campaigns.linkedRuleGroups id s).1 <;> simp [pure_apply]
    | resolving campaign audience groups =>
      cases groups with
      | nil => simp [step, sightsAfter, deed, pure_apply]
      | cons g gs => exact e.watched_addGroup campaign audience g gs s sights
    | identifying campaign audience =>
      simp only [step, sightsAfter, deed, watched, bind_apply, unseen_apply]
      cases (e.campaigns.tenant campaign.tenant s).1 <;> simp [pure_apply]
    | claiming campaign audience tenant =>
      simp only [step, sightsAfter, deed, watched, bind_apply, seen_apply]
      cases (e.campaigns.claim campaign.id s).1 with
      | error err => simp [pure_apply, Deed.sight?]
      | ok won =>
        cases won with
        | false => simp [pure_apply, Deed.sight?]
        | true => simp [pure_apply, Deed.sight?]; rfl
    | completing report =>
      simp only [step, sightsAfter, deed, watched, bind_apply, seen_apply]
      cases (e.campaigns.complete report.campaign s).1 <;> simp [pure_apply, Deed.sight?]

/-- **So do turns in any order.** -/
theorem watched_follow (turns : List Turn) (stage : Stage) (s : σ) (sights : List Sight) :
    (e.watched.follow turns stage (s, sights)).1.2 = (e.follow turns stage s).1.2 ∧
      (e.watched.follow turns stage (s, sights)).2 =
        ((e.follow turns stage s).2,
          sights ++ (e.follow turns stage s).1.1.filterMap Deed.sight?) := by
  induction turns generalizing stage s sights with
  | nil => simp [follow]
  | cons turn turns ih =>
    simp only [follow, watched_step]
    obtain ⟨hstage, hstate⟩ := ih (e.step turn stage s).1 (e.step turn stage s).2
      (e.sightsAfter turn stage s sights)
    refine ⟨hstage, ?_⟩
    have hsights : ((e.deed turn stage s).bind Deed.sight?).toList =
        (e.deed turn stage s).toList.filterMap Deed.sight? := by
      cases e.deed turn stage s with
      | none => rfl
      | some d =>
        rw [Option.toList_some, List.filterMap_cons, Option.bind_some]
        cases d.sight? <;> rfl
    rw [hstate, sightsAfter, hsights, List.filterMap_append, List.append_assoc]

end Engine
end Dispatch
end Mailshot
