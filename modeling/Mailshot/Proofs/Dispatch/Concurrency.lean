import Mailshot.Proofs.Dispatch.Alone
import Mailshot.Proofs.Dispatch.Due

/-!
# How many workers there may be makes no difference

A campaign is dispatched from one store with room for some number of workers, and with room for one.
If nobody asks for a stop, and the channels and the log answer by nothing but what they are given
(`Outside.Constant`), every schedule comes to the same deeds in another order
(`Outside.concurrency_irrelevant`).  With room for one worker there is no other order: the contacts
are dealt with one by one, as they come in the audience.
-/

set_option autoImplicit false

namespace Mailshot
namespace Dispatch

/-! ## Two schedules compared -/

/-- The messages that were handed to the channel in a place, in order. -/
def handedTo (place : Nat) (ds : List Deed) : List OutboundEmail :=
  (calledIn ds).filterMap fun call => if call.2.2.1 = place then some call.2.1 else none

theorem calledIn_map_untimed (ds : List Deed) : calledIn (ds.map Deed.untimed) = calledIn ds := by
  rw [calledIn, calledIn, List.filterMap_map]
  congr 1
  funext d
  cases d <;> rfl

theorem appendedIn_map_untimed (ds : List Deed) :
    appendedIn (ds.map Deed.untimed) = (appendedIn ds).map SendEvent.untimed := by
  rw [appendedIn, appendedIn, List.filterMap_map, List.map_filterMap]
  congr 1
  funext d
  cases d with
  | recorded event answer => cases answer <;> rfl
  | _ => rfl

section Perm

variable {ds ds' : List Deed} (h : (ds.map Deed.untimed).Perm (ds'.map Deed.untimed))

include h

/-- The same deeds in another order hand the same to the channels. -/
theorem calledIn_perm : (calledIn ds).Perm (calledIn ds') := by
  rw [← calledIn_map_untimed ds, ← calledIn_map_untimed ds']
  exact h.filterMap _

/-- They append the same events. -/
theorem appendedIn_perm :
    ((appendedIn ds).map SendEvent.untimed).Perm ((appendedIn ds').map SendEvent.untimed) := by
  rw [← appendedIn_map_untimed, ← appendedIn_map_untimed]
  exact h.filterMap _

end Perm

namespace Outside

variable {μ : Type} {o : Outside μ} {id : String} {concurrency : Nat}
  {defaultSender : Option String}

/-- Whatever happened before, the channels answer a message in one way, and it depends on an event,
but not on its time, whether it can be appended. -/
structure Constant (o : Outside μ) : Prop where
  channels : ∀ c ∈ o.channels, ∀ email m m', (c.2 email m').1 = (c.2 email m).1
  refuses : ∀ event event' m m', event'.untimed = event.untimed →
    (o.refuses event' m').1 = (o.refuses event m).1

/-- The answer of a channel is given outside of the store. -/
theorem channel_send_fst (c : String × (OutboundEmail → StateM μ (Attempt × Bool)))
    (now : μ → String) (email : OutboundEmail) (s : Connection × μ) :
    ((channel now id c).send email s).1 = (c.2 email s.2).1.1 := by
  simp only [channel, Engine.bind_apply]
  split <;> rfl

theorem Constant.settled (h : o.Constant) (hgo : ¬ o.MayStop) :
    (o.engine id concurrency defaultSender).Settled fun s => s.1.IsSending id := by
  have hcalm : (o.engine id concurrency defaultSender).Calm (fun s => s.1.IsSending id) id :=
    calm hgo
  constructor
  · refine List.forall₂_same.2 fun c hc => ⟨rfl, fun email _ s s' hboth => ?_⟩
    have hkeeps := hcalm.keeping.channels c hc email
    refine ⟨?_, hkeeps s hboth.1, hkeeps s' hboth.2⟩
    obtain ⟨c', hc', rfl⟩ := List.mem_map.1 hc
    rw [channel_send_fst, channel_send_fst, h.channels c' hc']
  · exact fun c hc email hhidden => by cases hhidden
  · exact fun c hc email hhidden => by cases hhidden
  · intro _ event event' s s' huntimed hboth
    have hrefuses : (aside (o.refuses event') s').1 = (aside (o.refuses event) s).1 :=
      h.refuses event event' s.2 s'.2 huntimed
    show (o.record event' s').1 = (o.record event s).1
    simp only [record, Engine.bind_apply, hrefuses]
    cases (aside (o.refuses event) s).1 with
    | some err => rfl
    | none =>
      show (Connection.append event' s'.1).1 = (Connection.append event s.1).1
      rw [Connection.append, Connection.append, Connection.change, Connection.change,
        Connection.call, Connection.call, if_pos hboth.1.1, if_pos hboth.2.1]
  · exact fun event s s' hboth => ⟨hcalm.record event s hboth.1, hboth.2⟩
  · exact fun event s' s hboth => ⟨hboth.1, hcalm.record event s' hboth.2⟩
  · exact fun s s' hboth => ⟨hcalm.keeping.clock s hboth.1, hboth.2⟩
  · exact fun s' s hboth => ⟨hboth.1, hcalm.keeping.clock s' hboth.2⟩

/-- What is due does not depend on how many workers there may be. -/
theorem dueFor_eq (o : Outside μ) (id : String) (concurrency : Nat)
    (defaultSender : Option String) :
    (o.engine id concurrency defaultSender).dueFor = (o.engine id 1 defaultSender).dueFor := by
  have hcarry : (o.engine id concurrency defaultSender).carry =
      (o.engine id 1 defaultSender).carry := by
    funext contact email place channels
    induction channels generalizing place with
    | nil => rfl
    | cons channel channels ih =>
      rw [Engine.carry, Engine.carry, ih]
      rfl
  funext job s contact
  simp only [Engine.dueFor, Engine.due, hcarry]
  rfl

/-- What is due for each contact of an audience, in order. -/
def dueForAll (o : Outside μ) (id : String) (defaultSender : Option String) (campaign : Campaign)
    (audience : Audience) (tenant : Tenant) (s : Connection × μ) : List Deed :=
  audience.contacts.flatMap ((o.engine id 1 defaultSender).dueFor
    ((o.engine id 1 defaultSender).opening campaign audience tenant).job s)

/-- **Every schedule comes to what is due**, and with room for one worker in the order of the
audience. -/
theorem Constant.told (hconstant : o.Constant) (hgo : ¬ o.MayStop) {c : Connection}
    {recipients : Recipients} (hawaits : c.Awaits id recipients)
    (hcancel : c.store.cancelRequested id ≠ .ok true) (hlimit : max 1 concurrency ≤ maxWorkers)
    {campaign : Campaign} {audience : Audience} {tenant : Tenant} (hid : campaign.id = id) {m : μ}
    {ds : List Deed} {ending : Ending}
    {t : Connection × μ}
    (h : (o.engine id concurrency defaultSender).Runs (.claiming campaign audience tenant) (c, m) ds
      (.ended ending) t) :
    let whole := .asked id (.ok true) :: (o.dueForAll id defaultSender campaign audience tenant
      ((Connection.claim id (o.now m) c).2, m) ++ [.completed id (.ok ())])
    (ds.map Deed.untimed).Perm whole ∧ (max 1 concurrency = 1 → ds.map Deed.untimed = whole) := by
  obtain ⟨during, r, _, rfl, hsends, hdrained, -, hcovers, -⟩ :=
    completes hgo hawaits hcancel hlimit hid h
  have hsending : ((Connection.claim id (o.now m) c).2, m).1.IsSending id :=
    (hawaits.claim hcancel (o.now m)).2
  have hstarted : startedIn during = audience.contacts.filter (·.address?.isSome) := by
    simpa using hcovers.started
  have htold := hsends.told_whole (hconstant.settled hgo) hsending hdrained hstarted
  rw [dueFor_eq] at htold
  have hmap : (Deed.asked id (.ok true) :: (during ++ [.completed id (.ok ())])).map Deed.untimed =
      .asked id (.ok true) :: (during.map Deed.untimed ++ [.completed id (.ok ())]) := by
    rw [List.map_cons, List.map_append]
    rfl
  intro whole
  rw [hmap]
  refine ⟨(htold.1.append_right _).cons _, fun hone => ?_⟩
  rw [htold.2 hone]
  rfl

/-- **How many workers there may be makes no difference.**  The channels and the log answer by what
they are given, and nobody asks for a stop.  Let a dispatch have its turns in any order, and then go
on until it is over.  It never has more contacts in hand than workers are allowed, be they at work
or about to be started, and it comes to the same as a dispatch with one worker: it ends in the same
way and leaves the campaign in the same status, each channel was handed the same messages, and the
same events were appended up to their times, in another order perhaps.  A dispatch with one worker
does the same in the same order, whatever turns are had.  If the campaign can be dispatched, this is
the order of the audience, one contact after the other, and the campaign is completed; otherwise
nothing is done. -/
theorem concurrency_irrelevant (hconstant : o.Constant) (hgo : ¬ o.MayStop) {c : Connection}
    (hcancel : c.store.cancelRequested id ≠ .ok true) (hlimit : max 1 concurrency ≤ maxWorkers)
    (defaultSender : Option String) (recipients : Recipients) (m : μ) (turns : List Engine.Turn) :
    let e := o.engine id concurrency defaultSender
    let e₁ := o.engine id 1 defaultSender
    let run := e.follow turns (.loading id recipients) (c, m)
    let ds := run.1.1 ++ e.deedsOf run.1.2 run.2
    let ds₁ := e₁.deedsOf (.loading id recipients) (c, m)
    let out := e.finish run.1.2 run.2
    let out₁ := e₁.execute id recipients (c, m)
    (∀ r, run.1.2 = .sending r →
      r.workers.length + r.next.toList.length ≤ max 1 concurrency) ∧
    out.1 = out₁.1 ∧
    out.2.1.store.status? id = out₁.2.1.store.status? id ∧
    (∀ place, (handedTo place ds).Perm (handedTo place ds₁)) ∧
    ((appendedIn ds).map SendEvent.untimed).Perm ((appendedIn ds₁).map SendEvent.untimed) ∧
    (max 1 concurrency = 1 → ds.map Deed.untimed = ds₁.map Deed.untimed) ∧
    ((¬ c.Awaits id recipients ∧ ds₁ = []) ∨
      ∃ (audience : Audience) (part : Contact → List Deed) (report : Report),
        ds₁.map Deed.untimed = .asked id (.ok true) :: (audience.contacts.flatMap part ++
          [.completed id (.ok ())]) ∧
        (∀ contact, ∀ d ∈ part contact, d.contactId? = some contact.id) ∧
        report.Covers id audience ds₁ ∧ out₁.1 = .answered (.ok report) ∧
        out₁.2.1.store.status? id = some Status.completed.name) := by
  intro e e₁ run ds ds₁ out out₁
  have hruns := Engine.runs_follow (e := e) turns (.loading id recipients) (c, m)
  have hroom : ∀ r, run.1.2 = .sending r →
      r.workers.length + r.next.toList.length ≤ max 1 concurrency := fun r hr => by
    have hpath := hruns.path
    rw [hr] at hpath
    exact hpath.room
  have hfinish : e.Runs (.loading id recipients) (c, m) ds (.ended out.1) out.2 := hruns.finish
  rcases beginning μ id recipients c with
    ⟨hnot, ending, hway⟩ | ⟨hawaits, campaign, audience, tenant, hload, -, -, hway⟩
  · obtain ⟨hds, hending, hout⟩ :=
      (hfinish.meets_ended (hway o concurrency defaultSender m)).of_ended
    obtain ⟨hds₁, hout₁⟩ := (hway o 1 defaultSender m).ended
    have hout₁ : out₁ = (ending, c, m) := hout₁
    have hds₁ : ds₁ = [] := hds₁
    have hending : out.1 = ending := Stage.ended.inj hending
    rw [hds, hds₁, hout₁, hending, hout]
    exact ⟨hroom, rfl, rfl, fun _ => .refl _, .refl _, fun _ => rfl, .inl ⟨hnot, rfl⟩⟩
  · have hid := Store.id_of_load hload
    have hall := hfinish.meets_ended (hway o concurrency defaultSender m)
    have hall₁ := (hway o 1 defaultSender m).runs_execute
    have hone : max 1 1 ≤ maxWorkers := by decide
    obtain ⟨_, r, _, _, -, -, hending, hcovers, hstatus⟩ :=
      completes hgo hawaits hcancel hlimit hid hall
    obtain ⟨_, r₁, _, _, -, -, hending₁, hcovers₁, hstatus₁⟩ :=
      completes hgo hawaits hcancel hone hid hall₁
    obtain ⟨hperm, horder⟩ := hconstant.told hgo hawaits hcancel hlimit hid hall
    obtain ⟨-, horder₁⟩ := hconstant.told hgo hawaits hcancel hone hid hall₁
    have hwhole := horder₁ rfl
    rw [← hwhole] at hperm horder
    have hcalled := calledIn_perm hperm
    have hreport : r.report = r₁.report := hcovers₁.report_eq hcovers hcalled
    refine ⟨hroom, ?_, hstatus.trans hstatus₁.symm, fun place => hcalled.filterMap _,
      appendedIn_perm hperm, horder, .inr ⟨audience, _, r₁.report, hwhole,
        fun contact d hd => Engine.contactId?_of_dueFor hd, hcovers₁, hending₁, hstatus₁⟩⟩
    rw [hending, hending₁, hreport]

end Outside

namespace Sample

theorem constant_outside : outside.Constant where
  channels c hc email m m' := by
    obtain rfl := List.mem_singleton.1 hc
    rfl
  refuses _ _ _ _ _ := rfl

end Sample

namespace Outside

/-- With room for two workers, of which the first begins while the dispatcher goes on, the channel
is handed the same messages as with room for one. -/
theorem concurrency_irrelevant_of_two :
    let e := Sample.outside.engine Sample.campaign.id 2 none
    let e₁ := Sample.outside.engine Sample.campaign.id 1 none
    let loading := Stage.loading Sample.campaign.id (.list Sample.contacts)
    let run := e.follow [.dispatcher, .dispatcher, .dispatcher, .dispatcher, .dispatcher,
      .dispatcher, .worker 0] loading (Sample.connection, ())
    (handedTo 0 (run.1.1 ++ e.deedsOf run.1.2 run.2)).Perm
        (handedTo 0 (e₁.deedsOf loading (Sample.connection, ()))) ∧
      (e.finish run.1.2 run.2).1 =
        (e₁.execute Sample.campaign.id (.list Sample.contacts) (Sample.connection, ())).1 := by
  have hcancel : Sample.connection.store.cancelRequested Sample.campaign.id ≠ .ok true := by decide
  have hlimit : max 1 2 ≤ maxWorkers := by decide
  obtain ⟨-, hending, -, hhanded, -⟩ := concurrency_irrelevant Sample.constant_outside
    Sample.not_mayStop_outside hcancel hlimit none (.list Sample.contacts) ()
    [.dispatcher, .dispatcher, .dispatcher, .dispatcher, .dispatcher, .dispatcher, .worker 0]
  exact ⟨hhanded 0, hending⟩

/-- With room for more workers than there can be nothing is sent, and the campaign is left behind,
whereas it is completed with room for one. -/
theorem nothing_sent_by_too_many :
    let e := Sample.outside.engine Sample.campaign.id (maxWorkers + 1) none
    let e₁ := Sample.outside.engine Sample.campaign.id 1 none
    let out := e.execute Sample.campaign.id (.list Sample.contacts) (Sample.connection, ())
    let out₁ := e₁.execute Sample.campaign.id (.list Sample.contacts) (Sample.connection, ())
    calledIn (e.deedsOf (.loading Sample.campaign.id (.list Sample.contacts))
        (Sample.connection, ())) = [] ∧
      out.1 = .crashed ∧
      out.2.1.store.status? Sample.campaign.id = some Status.sending.name ∧
      (∃ report, out₁.1 = .answered (.ok report)) ∧
      out₁.2.1.store.status? Sample.campaign.id = some Status.completed.name := by
  intro e e₁ out out₁
  have hcancel : Sample.connection.store.cancelRequested Sample.campaign.id ≠ .ok true := by decide
  have hone : max 1 1 ≤ maxWorkers := by decide
  rcases beginning Unit Sample.campaign.id (.list Sample.contacts) Sample.connection with
    ⟨hnot, -⟩ | ⟨hawaits, campaign, audience, tenant, hload, -, -, hway⟩
  · exact absurd (Sample.awaits_campaign _) hnot
  · have hid := Store.id_of_load hload
    obtain ⟨hanswer, hsending⟩ := hawaits.claim hcancel Sample.now
    have hclaim := (hway Sample.outside (maxWorkers + 1) none ()).trans
      (Engine.proceeds_claiming campaign audience tenant (Sample.connection, ()))
    have hanswer' : ((Sample.outside.engine Sample.campaign.id (maxWorkers + 1) none).campaigns.claim
        campaign.id (Sample.connection, ())).1 = .ok true := by
      rw [hid]
      exact hanswer
    rw [hanswer'] at hclaim
    obtain ⟨hds, hout⟩ := hclaim.ended
    obtain ⟨_, r, _, _, -, -, hending, -, hstatus⟩ := completes Sample.not_mayStop_outside hawaits
      hcancel hone hid (hway Sample.outside 1 none ()).runs_execute
    have hout' : out = (.crashed, _) := hout
    rw [hds, hout']
    refine ⟨rfl, rfl, ?_, ⟨r.report, hending⟩, hstatus⟩
    rw [hid]
    exact Connection.IsSending.status? hsending

end Outside
end Dispatch
end Mailshot
