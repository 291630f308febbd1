import Mailshot.Proofs.Dispatch.Path

/-!
# One contact after the other

A dispatch that nobody else interrupts lets its workers come first (`Stage.turn`), so that every
message is settled before the next contact has its turn.  `Engine.sequel` says the same in one
sweep over the contacts: whether to go on is asked before each message, `Engine.serve` sends it, and
the counts are brought up to date.  Nothing is waiting and nobody is at work in between.

* `Engine.Proceeds` strings together the steps that a dispatch takes on its own, with what is done
  in them; `Proceeds.finish_eq` and `Proceeds.deedsOf_eq` carry this over to a dispatch that goes on
  until it is over.
* `proceeds_carry`, `proceeds_serve` and `proceeds_sequel` are the steps for one message on its way
  through the channels, for one contact, and for all of them.
-/

set_option autoImplicit false

namespace Mailshot
namespace Dispatch

/-! ## Messages that are settled -/

/-- The event of a message that is settled; none if its worker was lost. -/
def Job.event? (j : Job) (contact : Contact) (time : Instant) : Delivery → Option SendEvent
  | .accepted receipt attempts => some (j.sentEvent contact time receipt attempts)
  | .failed error channel attempts => some (j.failedEvent contact time error channel attempts)
  | .crashed => none

theorem Job.contact_of_event? {j : Job} {contact : Contact} {time : Instant} {d : Delivery}
    {event : SendEvent} (h : j.event? contact time d = some event) :
    event.contact = contact.id := by
  cases d <;> cases h <;> rfl

/-- A dispatch that counts one more message as settled. -/
def Run.counting (r : Run) : Delivery → Run
  | .accepted _ _ => { r with sent := r.sent + 1 }
  | .failed _ _ _ => { r with failed := r.failed + 1 }
  | .crashed => { r with lost := r.lost + 1 }

@[simp] theorem Run.job_counting (r : Run) (d : Delivery) : (r.counting d).job = r.job := by
  cases d <;> rfl

theorem Run.counting_waiting (r : Run) (contacts : List Contact) (d : Delivery) :
    ({ r with waiting := contacts } : Run).counting d =
      { r.counting d with waiting := contacts } := by
  cases d <;> rfl

/-- A dispatch whose only worker has settled its message. -/
def Run.settling (r : Run) (contact : Contact) (time : Instant) (d : Delivery) : Run :=
  { r.counting d with workers := ((r.job.event? contact time d).map Worker.recording).toList }

namespace Engine

/-- What the answer of a channel does to a dispatch with one worker, if it settles the message. -/
theorem afterCall_single (r : Run) (w : Worker) (contact : Contact) (email : OutboundEmail)
    (tried : Nat) (time : Instant) (d : Delivery) :
    afterCall { r with workers := [w] } 0 contact email tried time (some d) =
      r.settling contact time d := by
  cases d <;> rfl

variable {σ : Type} (e : Engine σ)

/-! ## Steps that a dispatch takes on its own -/

/-- What a dispatch does until it is over, nobody else having a turn. -/
def deedsOf (stage : Stage) (s : σ) : List Deed :=
  match _h : stage.ending? with
  | some _ => []
  | none =>
    let next := e.step stage.turn stage s
    (e.deed stage.turn stage s).toList ++ deedsOf next.1 next.2
termination_by e.rankOf stage
decreasing_by exact e.nearer_step stage _h s

/-- The stages and states through which a dispatch goes until it is over, nobody else having a
turn. -/
def passed (stage : Stage) (s : σ) : List (Stage × σ) :=
  match _h : stage.ending? with
  | some _ => []
  | none =>
    let next := e.step stage.turn stage s
    (stage, s) :: passed next.1 next.2
termination_by e.rankOf stage
decreasing_by exact e.nearer_step stage _h s

/-- On its own a dispatch gets from one stage and state to another, and this is done. -/
inductive Proceeds : Stage → σ → List Deed → Stage → σ → Prop
  /-- No step is taken. -/
  | refl (stage : Stage) (s : σ) : Proceeds stage s [] stage s
  /-- One step is taken, and some more. -/
  | step {stage stage' : Stage} {s s' : σ} {ds : List Deed} (hon : stage.ending? = none)
      (h : Proceeds (e.step stage.turn stage s).1 (e.step stage.turn stage s).2 ds stage' s') :
      Proceeds stage s ((e.deed stage.turn stage s).toList ++ ds) stage' s'

variable {e}

theorem Proceeds.trans {a b c : Stage} {s s' s'' : σ} {ds ds' : List Deed}
    (h : e.Proceeds a s ds b s') (h' : e.Proceeds b s' ds' c s'') :
    e.Proceeds a s (ds ++ ds') c s'' := by
  induction h with
  | refl => exact h'
  | step hon _ ih =>
    rw [List.append_assoc]
    exact .step hon (ih h')

/-- A single step. -/
theorem Proceeds.single {stage stage' : Stage} {s s' : σ} {d : Option Deed}
    (hon : stage.ending? = none) (hstep : e.step stage.turn stage s = (stage', s'))
    (hdeed : e.deed stage.turn stage s = d) : e.Proceeds stage s d.toList stage' s' := by
  have h : e.Proceeds stage s _ _ _ := .step hon (.refl _ _)
  rwa [List.append_nil, hdeed, hstep] at h

theorem Proceeds.finish_eq {stage stage' : Stage} {s s' : σ} {ds : List Deed}
    (h : e.Proceeds stage s ds stage' s') : e.finish stage s = e.finish stage' s' := by
  induction h with
  | refl => rfl
  | @step stage stage' s s' ds hon _ ih =>
    rw [← ih, finish]
    split
    · next heq => rw [hon] at heq; cases heq
    · rfl

theorem Proceeds.deedsOf_eq {stage stage' : Stage} {s s' : σ} {ds : List Deed}
    (h : e.Proceeds stage s ds stage' s') : e.deedsOf stage s = ds ++ e.deedsOf stage' s' := by
  induction h with
  | refl => rfl
  | @step stage stage' s s' ds hon _ ih =>
    rw [List.append_assoc, ← ih, deedsOf]
    split
    · next heq => rw [hon] at heq; cases heq
    · rfl

theorem passed_eq {stage : Stage} (hon : stage.ending? = none) (s : σ) :
    e.passed stage s =
      (stage, s) :: e.passed (e.step stage.turn stage s).1 (e.step stage.turn stage s).2 := by
  rw [passed]
  split
  · next heq => rw [hon] at heq; cases heq
  · rfl

@[simp] theorem finish_ended (ending : Ending) (s : σ) :
    e.finish (.ended ending) s = (ending, s) := by
  rw [finish]
  rfl

@[simp] theorem deedsOf_ended (ending : Ending) (s : σ) : e.deedsOf (.ended ending) s = [] := by
  rw [deedsOf]
  rfl

/-- A dispatch that comes to its end on its own. -/
theorem Proceeds.ended {stage : Stage} {ending : Ending} {s s' : σ} {ds : List Deed}
    (h : e.Proceeds stage s ds (.ended ending) s') :
    e.deedsOf stage s = ds ∧ e.finish stage s = (ending, s') := by
  rw [h.deedsOf_eq, h.finish_eq, deedsOf_ended, finish_ended, List.append_nil]
  exact ⟨rfl, rfl⟩

/-- A dispatch goes on until it is over. -/
theorem proceeds_finish (stage : Stage) (s : σ) :
    e.Proceeds stage s (e.deedsOf stage s) (.ended (e.finish stage s).1) (e.finish stage s).2 := by
  fun_induction finish e stage s with
  | case1 stage s ending h =>
    cases stage with
    | ended ending' =>
      cases h
      rw [deedsOf_ended]
      exact .refl _ _
    | _ => cases h
  | case2 stage s h next ih =>
    have hfirst : e.Proceeds stage s _ _ _ := .step h (.refl _ _)
    rw [hfirst.deedsOf_eq, List.append_nil]
    exact .step h ih

/-- The steps that a dispatch takes on its own make a path. -/
theorem Proceeds.path {stage stage' : Stage} {s s' : σ} {ds : List Deed}
    (h : e.Proceeds stage s ds stage' s') : e.Path stage ds stage' := by
  induction h with
  | refl => exact .refl
  | @step stage stage' s s' ds hon _ ih => exact (Path.refl.step stage.turn s).trans ih

/-! ## One message -/

variable (e)

/-- Hands the message to a contact to some channels, one after the other, until it is settled; says
what was done, when it was settled, and how.  The first of the channels is the one in this place. -/
def carry (contact : Contact) (email : OutboundEmail) :
    Nat → List (Channel σ) → StateM σ (List Deed × Instant × Delivery)
  | place, [] => do
    return ([], ← e.clock, .failed (.misconfigured "no mail channel configured") "" place)
  | place, channel :: channels => do
    let attempt ← channel.send email
    let time ← e.clock
    let deed := Deed.called contact email place attempt
    match Failover.conclude channel.name (place + 1) (!channels.isEmpty) attempt with
    | some delivery => return ([deed], time, delivery)
    | none => do
      let later ← carry contact email (place + 1) channels
      return (deed :: later.1, later.2)

/-- Sends the message to a contact and records what became of it. -/
def serve (job : Job) (contact : Contact) (address : String) : StateM σ (List Deed × Delivery) := do
  let out ← e.carry contact (job.email contact address) 0 e.failover.channels
  match job.event? contact out.2.1 out.2.2 with
  | some event => do
    let answer ← e.record event
    return (.started contact :: (out.1 ++ [.recorded event answer]), out.2.2)
  | none => return (.started contact :: out.1, out.2.2)

variable {e}

/-- A single step of the only worker. -/
theorem proceeds_worker {r r' : Run} {w : Worker} {s s' : σ} {d : Option Deed}
    (hstep : e.workerStep { r with workers := [w] } 0 s = (.sending r', s'))
    (hdeed : e.deed (.worker 0) (.sending { r with workers := [w] }) s = d) :
    e.Proceeds (.sending { r with workers := [w] }) s d.toList (.sending r') s' := by
  refine Proceeds.single ?_ hstep hdeed
  rfl

/-- A place in a list, and what comes after it. -/
theorem of_drop_eq_cons {α : Type} {l rest : List α} {i : Nat} {a : α} (h : l.drop i = a :: rest) :
    l[i]? = some a ∧ l.drop (i + 1) = rest ∧ decide (i + 1 < l.length) = !rest.isEmpty := by
  have hrest : l.drop (i + 1) = rest := by
    rw [← List.tail_drop, h, List.tail_cons]
  refine ⟨by rw [← List.head?_drop, h, List.head?_cons], hrest, ?_⟩
  have hlength := congrArg List.length hrest
  rw [List.length_drop] at hlength
  cases rest with
  | nil => simp at hlength ⊢; omega
  | cons => simp at hlength ⊢; omega

/-- A message on its way through the channels. -/
theorem proceeds_carry {contact : Contact} {email : OutboundEmail} {channels : List (Channel σ)}
    {place : Nat} (r : Run) (s : σ) (hchannels : e.failover.channels.drop place = channels) :
    e.Proceeds (.sending { r with workers := [.calling contact email place] }) s
      (e.carry contact email place channels s).1.1
      (.sending (r.settling contact (e.carry contact email place channels s).1.2.1
        (e.carry contact email place channels s).1.2.2))
      (e.carry contact email place channels s).2 := by
  induction channels generalizing place s with
  | nil =>
    have hnone : e.failover.channels[place]? = none :=
      List.getElem?_eq_none (List.drop_eq_nil_iff.1 hchannels)
    refine proceeds_worker (d := none) ?_ ?_
    · simp only [workerStep, List.getElem?_cons_zero, hnone, bind_apply, afterCall_single]
      rfl
    · simp only [deed, List.getElem?_cons_zero, hnone, Option.map_none]
  | cons channel channels ih =>
    obtain ⟨hsome, hrest, hmore⟩ := of_drop_eq_cons hchannels
    have hdeed : e.deed (.worker 0)
        (.sending { r with workers := [.calling contact email place] }) s =
          some (.called contact email place (channel.send email s).1) := by
      simp only [deed, List.getElem?_cons_zero, hsome, Option.map_some]
    cases hconclude : Failover.conclude channel.name (place + 1) (!channels.isEmpty)
        (channel.send email s).1 with
    | some delivery =>
      simp only [carry, bind_apply, hconclude]
      refine proceeds_worker (d := some _) ?_ hdeed
      simp only [workerStep, List.getElem?_cons_zero, hsome, bind_apply, hmore, hconclude,
        afterCall_single]
      rfl
    | none =>
      simp only [carry, bind_apply, hconclude]
      refine (proceeds_worker (d := some _) ?_ hdeed).trans (ih _ hrest)
      simp only [workerStep, List.getElem?_cons_zero, hsome, bind_apply, hmore, hconclude]
      rfl

/-- An event on its way into the log. -/
theorem proceeds_record (r : Run) (event : SendEvent) (s : σ) :
    e.Proceeds (.sending { r with workers := [.recording event] }) s
      [.recorded event (e.record event s).1] (.sending { r with workers := [] })
      (e.record event s).2 := by
  refine proceeds_worker (d := some _) ?_ ?_
  · simp only [workerStep, List.getElem?_cons_zero, bind_apply, pure_apply]
    rfl
  · simp only [deed, List.getElem?_cons_zero]

/-- A contact for whom a worker is about to be started. -/
theorem proceeds_serve (contact : Contact) (address : String) (r : Run) (s : σ)
    (hgo : stopRequested (e.campaigns.cancelRequested r.job.campaign.id s).1 = false) :
    let out := e.serve r.job contact address (e.campaigns.cancelRequested r.job.campaign.id s).2
    e.Proceeds (.sending { r with next := some (contact, address), workers := [] }) s out.1.1
      (.sending { r.counting out.1.2 with next := none, workers := [] }) out.2 := by
  have hstart : e.Proceeds (.sending { r with next := some (contact, address), workers := [] }) s
      [.started contact]
      (.sending { r with
        next := none, workers := [.calling contact (r.job.email contact address) 0] })
      (e.campaigns.cancelRequested r.job.campaign.id s).2 := by
    refine Proceeds.single (d := some _) rfl ?_ ?_
    · simp only [Stage.turn, List.isEmpty_nil, if_true, step, dispatcherStep, bind_apply, hgo,
        Bool.false_eq_true, if_false]
      rfl
    · simp only [Stage.turn, List.isEmpty_nil, if_true, deed, hgo, Bool.false_eq_true, if_false]
  generalize (e.campaigns.cancelRequested r.job.campaign.id s).2 = s at hstart ⊢
  have hcarry := @proceeds_carry σ e contact (r.job.email contact address) e.failover.channels 0
    { r with next := none } s rfl
  simp only [serve, bind_apply]
  generalize e.carry contact (r.job.email contact address) 0 e.failover.channels s = out at hcarry ⊢
  obtain ⟨⟨ds, time, delivery⟩, s'⟩ := out
  have hsettled := hstart.trans hcarry
  cases hevent : r.job.event? contact time delivery with
  | none =>
    have hsettling : ({ r with next := none } : Run).settling contact time delivery =
        { r.counting delivery with next := none, workers := [] } := by
      cases delivery with
      | crashed => rfl
      | _ => cases hevent
    rw [hsettling] at hsettled
    exact hsettled
  | some event =>
    have hsettling : ({ r with next := none } : Run).settling contact time delivery =
        { r.counting delivery with next := none, workers := [.recording event] } := by
      cases delivery with
      | crashed => cases hevent
      | _ => cases hevent; rfl
    rw [hsettling] at hsettled
    exact hsettled.trans (proceeds_record { r.counting delivery with next := none } event s')

/-! ## All messages -/

variable (e)

/-- Goes through some contacts, one after the other, until sending is to stop. -/
def sequel (r : Run) : List Contact → StateM σ (List Deed × Run)
  | [] => pure ([], r)
  | contact :: contacts =>
    match contact.address? with
    | none => sequel { r with skipped := r.skipped + 1 } contacts
    | some address => do
      if stopRequested (← e.campaigns.cancelRequested r.job.campaign.id) then
        return ([], { r with stopped := true })
      else do
        let out ← e.serve r.job contact address
        let later ← sequel (r.counting out.2) contacts
        return (out.1 ++ later.1, later.2)

variable {e}

/-- A step of the dispatcher while nobody is at work. -/
theorem proceeds_dispatcher {r : Run} {stage : Stage} {s s' : σ} (hworkers : r.workers = [])
    (hstep : e.dispatcherStep r s = (stage, s'))
    (hdeed : e.deed .dispatcher (.sending r) s = none) :
    e.Proceeds (.sending r) s [] stage s' := by
  have hturn : (Stage.sending r).turn = .dispatcher := by
    rw [Stage.turn, hworkers]
    rfl
  refine Proceeds.single (d := none) rfl ?_ ?_
  · rw [hturn]
    exact hstep
  · rw [hturn]
    exact hdeed

/-- All contacts that are waiting. -/
theorem proceeds_sequel (contacts : List Contact) (r : Run) (s : σ) :
    e.Proceeds (.sending { r with waiting := contacts, next := none, workers := [] }) s
      (e.sequel r contacts s).1.1
      (.sending { (e.sequel r contacts s).1.2 with waiting := [], next := none, workers := [] })
      (e.sequel r contacts s).2 := by
  induction contacts generalizing r s with
  | nil => exact .refl _ _
  | cons contact contacts ih =>
    rw [sequel]
    cases haddress : contact.address? with
    | none =>
      refine (proceeds_dispatcher rfl ?_ rfl).trans (ih { r with skipped := r.skipped + 1 } s)
      simp only [dispatcherStep, haddress]
      rfl
    | some address =>
      have hready : e.Proceeds
          (.sending { r with waiting := contact :: contacts, next := none, workers := [] }) s []
          (.sending { r with waiting := contacts, next := some (contact, address), workers := [] })
          s := by
        refine proceeds_dispatcher rfl ?_ rfl
        have hroom : ([] : List Worker).length < e.limit := by
          rw [limit, List.length_nil]
          omega
        simp only [dispatcherStep, haddress, if_pos hroom]
        rfl
      simp only [bind_apply]
      cases hstop : stopRequested (e.campaigns.cancelRequested r.job.campaign.id s).1 with
      | true =>
        refine hready.trans (proceeds_dispatcher rfl ?_ ?_)
        · simp only [dispatcherStep, bind_apply, hstop, if_true]
          rfl
        · simp only [deed, hstop, if_true]
      | false =>
        have hserve :=
          proceeds_serve (e := e) contact address { r with waiting := contacts } s hstop
        simp only [Run.counting_waiting] at hserve
        simp only [Bool.false_eq_true, if_false, bind_apply]
        exact hready.trans (hserve.trans (ih _ _))

/-! ## The whole dispatch -/

variable (e)

/-- What is done and what is reported when sending begins and nobody else has a turn. -/
def sweep (campaign : Campaign) (audience : Audience) (tenant : Tenant) :
    StateM σ (List Deed × Run) :=
  e.sequel { e.opening campaign audience tenant with waiting := [] } audience.contacts

variable {e}

/-- A dispatch that begins to send comes to the end of sending. -/
theorem proceeds_sweep (campaign : Campaign) (audience : Audience) (tenant : Tenant) (s : σ) :
    e.Proceeds (.sending (e.opening campaign audience tenant)) s
      (e.sweep campaign audience tenant s).1.1
      (.completing (e.sweep campaign audience tenant s).1.2.report)
      (e.sweep campaign audience tenant s).2 := by
  have hall := proceeds_sequel (e := e) audience.contacts
    { e.opening campaign audience tenant with waiting := [] } s
  have hdrained : ∀ (r : Run) (s : σ), e.Proceeds
      (.sending { r with waiting := [], next := none, workers := [] }) s []
      (.completing r.report) s :=
    fun r s => proceeds_dispatcher rfl rfl rfl
  have h := hall.trans (hdrained _ _)
  rw [List.append_nil] at h
  exact h

/-- Going through contacts leaves what the messages have in common. -/
theorem job_sequel (contacts : List Contact) (r : Run) (s : σ) :
    (e.sequel r contacts s).1.2.job = r.job := by
  induction contacts generalizing r s with
  | nil => rfl
  | cons contact contacts ih =>
    rw [sequel]
    cases contact.address? with
    | none => exact ih _ _
    | some address =>
      simp only [bind_apply]
      split
      · rfl
      · exact (ih _ _).trans (r.job_counting _)

theorem job_sweep (campaign : Campaign) (audience : Audience) (tenant : Tenant) (s : σ) :
    (e.sweep campaign audience tenant s).1.2.job = (e.opening campaign audience tenant).job :=
  job_sequel _ _ _

/-- What a dispatch comes to when it has asked for its campaign. -/
def claimed (e : Engine σ) (campaign : Campaign) (audience : Audience) (tenant : Tenant) :
    Except CampaignError Bool → Stage
  | .ok true => e.start campaign audience tenant
  | answer => .ended (.unclaimed campaign.id answer)

theorem proceeds_claiming (campaign : Campaign) (audience : Audience) (tenant : Tenant) (s : σ) :
    e.Proceeds (.claiming campaign audience tenant) s
      [.asked campaign.id (e.campaigns.claim campaign.id s).1]
      (e.claimed campaign audience tenant (e.campaigns.claim campaign.id s).1)
      (e.campaigns.claim campaign.id s).2 := by
  refine Proceeds.single (d := some _) rfl ?_ rfl
  simp only [Stage.turn, step, bind_apply]
  cases (e.campaigns.claim campaign.id s).1 with
  | error err => rfl
  | ok won => cases won <;> rfl

theorem proceeds_completing (report : Report) (s : σ) :
    e.Proceeds (.completing report) s
      [.completed report.campaign (e.campaigns.complete report.campaign s).1]
      (.ended (.closing report (e.campaigns.complete report.campaign s).1))
      (e.campaigns.complete report.campaign s).2 := by
  refine Proceeds.single (d := some _) rfl ?_ rfl
  simp only [Stage.turn, step, bind_apply]
  cases (e.campaigns.complete report.campaign s).1 <;> rfl

/-- **A dispatch that gets its campaign** goes through the contacts and asks for the campaign to be
completed. -/
theorem proceeds_won (campaign : Campaign) (audience : Audience) (tenant : Tenant) (s : σ)
    (hwon : (e.campaigns.claim campaign.id s).1 = .ok true) (hlimit : e.limit ≤ maxWorkers) :
    let out := e.sweep campaign audience tenant (e.campaigns.claim campaign.id s).2
    let answer := e.campaigns.complete campaign.id out.2
    e.Proceeds (.claiming campaign audience tenant) s
      (.asked campaign.id (.ok true) :: (out.1.1 ++ [.completed campaign.id answer.1]))
      (.ended (.closing out.1.2.report answer.1)) answer.2 := by
  intro out answer
  have hclaim := proceeds_claiming (e := e) campaign audience tenant s
  have hstart : e.claimed campaign audience tenant (.ok true) =
      .sending (e.opening campaign audience tenant) := by
    rw [claimed, start_eq, if_neg (Nat.not_lt.2 hlimit)]
  have hcampaign : out.1.2.report.campaign = campaign.id :=
    congrArg (·.campaign.id) (job_sweep campaign audience tenant _)
  have hcomplete := proceeds_completing (e := e) out.1.2.report out.2
  rw [hcampaign] at hcomplete
  rw [hwon, hstart] at hclaim
  exact hclaim.trans ((proceeds_sweep campaign audience tenant _).trans hcomplete)

end Engine
end Dispatch
end Mailshot
