import Mailshot.Proofs.Dispatch.Calm
import Mailshot.Proofs.Dispatch.Twins

/-!
# What is done and what is to be done

If the channels and the log answer by nothing but what they are given (`Engine.Settled`), then what
is done over one message does not depend on when it is done.  So what a worker is going to do is
known when it is started (`Engine.due`), and a worker that has a turn does the first of it
(`Settled.advances`).

Whatever order turns are had in, what is done so far and what workers are going to do is together
what is due for the contacts whose workers were started (`Run.Told`): in some order, and in the
order of these contacts if there is room for one worker only.
-/

set_option autoImplicit false

namespace Mailshot
namespace Dispatch

/-! ## Room for workers -/

/-- There is never more to do at once than there is room for: workers that are at work, and one that
is about to be started. -/
theorem Run.Goes.room {limit : Nat} {r r' : Run} {d : Option Deed} (h : r.Goes limit d r')
    (hroom : r.workers.length + r.next.toList.length ≤ limit) :
    r'.workers.length + r'.next.toList.length ≤ limit := by
  cases h with
  | pass hnext | stop hnext =>
    simp [hnext] at hroom ⊢
    omega
  | ready hnext _ _ hlt =>
    simp
    omega
  | start hnext =>
    simp [hnext] at hroom ⊢
    omega
  | retry | accept | refuse | lack => simpa using hroom
  | lose hworker | record _ hworker =>
    refine Nat.le_trans (Nat.add_le_add_right ?_ _) hroom
    exact List.length_eraseIdx_le ..

theorem Run.Trail.room {σ : Type} {e : Engine σ} {campaign : Campaign} {audience : Audience}
    {tenant : Tenant} {limit : Nat} {ds : List Deed} {r : Run}
    (h : (e.opening campaign audience tenant).Trail limit ds r) :
    r.workers.length + r.next.toList.length ≤ limit := by
  induction h with
  | refl => exact Nat.zero_le _
  | step _ hgoes ih => exact hgoes.room ih

/-- **At no moment is more to do at once than there is room for**, however turns are had. -/
theorem Engine.Path.room {σ : Type} {e : Engine σ} {id : String} {recipients : Recipients}
    {ds : List Deed} {r : Run} (h : e.Path (.loading id recipients) ds (.sending r)) :
    r.workers.length + r.next.toList.length ≤ e.limit := by
  rcases h.through_claiming with ⟨-, hearly⟩ | ⟨campaign, audience, tenant, -, -, -, hafter⟩
  · exact hearly.elim
  · cases hafter.since with
    | sending _ htrail => exact htrail.room

/-! ## What a worker is going to do -/

/-- A deed without the time of its event. -/
def Deed.untimed : Deed → Deed
  | recorded event answer => recorded event.untimed answer
  | d => d

namespace Engine

variable {σ : Type} (e : Engine σ)

/-- The deed by which an event will be recorded, as far as it can be told from a state. -/
def dueEvent (s : σ) (event : SendEvent) : Deed := .recorded event.untimed (e.record event s).1

/-- What a worker is going to do, as far as it can be told from a state. -/
def due (job : Job) (s : σ) : Worker → List Deed
  | .recording event => [e.dueEvent s event]
  | .calling contact email place =>
    let out := (e.carry contact email place (e.failover.channels.drop place) s).1
    out.1 ++ ((job.event? contact out.2.1 out.2.2).map (e.dueEvent s)).toList

/-- What is going to be done over the message to a contact. -/
def dueFor (job : Job) (s : σ) (contact : Contact) : List Deed :=
  match contact.address? with
  | some address =>
    .started contact :: e.due job s (.calling contact (job.email contact address) 0)
  | none => []

/-- In both of two states. -/
def Both (P : σ → Prop) (s s' : σ) : Prop := P s ∧ P s'

/-- In the states with a property the channels and the log answer by what they are given. -/
def Settled (P : σ → Prop) : Prop := Peers none True (Both P) e e

variable {e} {P : σ → Prop} {job : Job} {s s' : σ}

section Due

/-- The same event is recorded by the same deed, whatever time it is. -/
theorem Settled.dueEvent_eq (h : e.Settled P) (hs : P s) (contact : Contact) (time time' : Instant)
    (d : Delivery) : (job.event? contact time' d).map (e.dueEvent s) =
      (job.event? contact time d).map (e.dueEvent s) := by
  rcases job.event?_cases contact time time' d with
    ⟨hnone, hnone'⟩ | ⟨event, event', hevent, hevent', huntimed⟩
  · rw [hnone, hnone']
  · rw [hevent, hevent', Option.map_some, Option.map_some, dueEvent, dueEvent, huntimed,
      h.record trivial event event' s s huntimed ⟨hs, hs⟩]

theorem due_event (contact : Contact) (time : Instant) (d : Delivery) :
    ((job.event? contact time d).map Worker.recording).toList.flatMap (e.due job s) =
      ((job.event? contact time d).map (e.dueEvent s)).toList := by
  cases job.event? contact time d <;> rfl

variable {contact : Contact} {email : OutboundEmail} {place : Nat} {channel : Channel σ}

/-- A channel, and those that come after it. -/
theorem drop_eq_cons {α : Type} {l : List α} {i : Nat} {a : α} (h : l[i]? = some a) :
    l.drop i = a :: l.drop (i + 1) := by
  obtain ⟨hlt, rfl⟩ := List.getElem?_eq_some_iff.1 h
  exact List.drop_eq_getElem_cons hlt

/-- A worker for whom there is no channel records that. -/
theorem Settled.due_lack (h : e.Settled P) (hs : P s) (hnone : e.failover.channels[place]? = none)
    (time : Instant) : e.due job s (.calling contact email place) =
      ((job.event? contact time (.failed (.misconfigured "no mail channel configured") "" place)).map
        (e.dueEvent s)).toList := by
  have hdrop : e.failover.channels.drop place = [] :=
    List.drop_eq_nil_iff.2 (List.getElem?_eq_none_iff.1 hnone)
  rw [due, hdrop, h.dueEvent_eq hs contact time]
  rfl

/-- A channel answers alike in any two states. -/
theorem Settled.send_eq (h : e.Settled P) (hs : P s) (hs' : P s')
    (hmem : channel ∈ e.failover.channels)
    (email : OutboundEmail) : (channel.send email s').1 = (channel.send email s).1 ∧
      P (channel.send email s).2 := by
  have hchannel := List.forall₂_same.1 h.channels channel hmem
  obtain ⟨hanswer, hkept, -⟩ := hchannel.2 email (by simp) s s' ⟨hs, hs'⟩
  exact ⟨hanswer, hkept⟩

/-- So do the channels from one place on, one after the other. -/
theorem Settled.carry_eq (h : e.Settled P) (hs : P s) (hs' : P s') (contact : Contact)
    (email : OutboundEmail) (place : Nat) :
    (e.carry contact email place (e.failover.channels.drop place) s').1.1 =
        (e.carry contact email place (e.failover.channels.drop place) s).1.1 ∧
      (e.carry contact email place (e.failover.channels.drop place) s').1.2.2 =
        (e.carry contact email place (e.failover.channels.drop place) s).1.2.2 := by
  have hall := List.forall₂_same.1 h.channels
  have hshown : email.recipient ∉ (none : Option String) := by simp
  obtain ⟨hdeeds, hdelivery, -⟩ := h.carry contact hshown
    (List.forall₂_same.2 fun c (hc : c ∈ e.failover.channels.drop place) =>
      hall c (List.mem_of_mem_drop hc)) place s s' ⟨hs, hs'⟩
  exact ⟨hdeeds, hdelivery⟩

/-- A worker hands its message to a channel, and does the rest if that settles the message. -/
theorem Settled.due_settle (h : e.Settled P) (hs : P s) (hs' : P s')
    (hchannel : e.failover.channels[place]? = some channel) {d : Delivery}
    (hconclude : Failover.conclude channel.name (place + 1)
      (decide (place + 1 < e.failover.channels.length)) (channel.send email s').1 = some d)
    (time : Instant) :
    e.due job s (.calling contact email place) =
      .called contact email place (channel.send email s').1 ::
        ((job.event? contact time d).map (e.dueEvent s)).toList := by
  have hdrop := drop_eq_cons hchannel
  obtain ⟨-, -, hmore⟩ := of_drop_eq_cons hdrop
  obtain ⟨hanswer, -⟩ := h.send_eq hs hs' (List.mem_of_getElem? hchannel) email
  rw [hmore, hanswer] at hconclude
  rw [hanswer, due, hdrop]
  simp only [carry, bind_apply, hconclude]
  rw [h.dueEvent_eq hs contact time]
  rfl

/-- It goes on to the next channel if that does not settle the message. -/
theorem Settled.due_retry (h : e.Settled P) (hs : P s) (hs' : P s')
    (hchannel : e.failover.channels[place]? = some channel)
    (hconclude : Failover.conclude channel.name (place + 1)
      (decide (place + 1 < e.failover.channels.length)) (channel.send email s').1 = none) :
    e.due job s (.calling contact email place) =
      .called contact email place (channel.send email s').1 ::
        e.due job s (.calling contact email (place + 1)) := by
  have hdrop := drop_eq_cons hchannel
  obtain ⟨-, -, hmore⟩ := of_drop_eq_cons hdrop
  obtain ⟨hanswer, hsent⟩ := h.send_eq hs hs' (List.mem_of_getElem? hchannel) email
  rw [hmore, hanswer] at hconclude
  have hlater : P (e.clock (channel.send email s).2).2 :=
    (h.clock_left _ _ ⟨hsent, hs⟩).1
  -- the other channels are tried in another state, which makes no difference
  obtain ⟨hdeeds, hdelivery⟩ := h.carry_eq hs hlater contact email (place + 1)
  rw [hanswer, due, due, hdrop]
  simp only [carry, bind_apply, hconclude, pure_apply]
  rw [hdeeds, hdelivery, h.dueEvent_eq hs contact
    (e.carry contact email (place + 1) (e.failover.channels.drop (place + 1)) s).1.2.1]
  rfl

end Due

/-! ## One step -/

/-- A worker among the others: the ones before it and the ones after it. -/
theorem exists_split {α : Type} {l : List α} {i : Nat} {a : α} (h : l[i]? = some a) :
    ∃ before after, l = before ++ a :: after ∧ (∀ b, l.set i b = before ++ b :: after) ∧
      l.eraseIdx i = before ++ after := by
  obtain ⟨hlt, rfl⟩ := List.getElem?_eq_some_iff.1 h
  refine ⟨l.take i, l.drop (i + 1), ?_, fun b => ?_, ?_⟩
  · rw [← List.drop_eq_getElem_cons hlt, List.take_append_drop]
  · rw [List.set_eq_take_append_cons_drop, if_pos hlt]
  · rw [List.eraseIdx_eq_take_drop_succ]

/-- One of the workers does the first of what it is going to do, and is put in its place again, or
is done.  The deed is no start of a worker. -/
def Advances (e : Engine σ) (s : σ) (r : Run) (d : Option Deed) (r' : Run) : Prop :=
  ∃ before w after new, r.workers = before ++ w :: after ∧ r'.workers = before ++ new ++ after ∧
    e.due r.job s w = d.toList.map Deed.untimed ++ new.flatMap (e.due r.job s) ∧
    startedIn d.toList = [] ∧ r'.job = r.job

/-- A worker that settles its message advances if it does what it was going to do. -/
theorem advances_settle {r : Run} {i : Nat} {contact : Contact} {email : OutboundEmail}
    {place : Nat} (hworker : r.workers[i]? = some (.calling contact email place)) (time : Instant)
    (delivery : Delivery) {d : Option Deed} (hstarted : startedIn d.toList = [])
    (hdue : e.due r.job s (.calling contact email place) =
      d.toList.map Deed.untimed ++ ((r.job.event? contact time delivery).map (e.dueEvent s)).toList) :
    e.Advances s r d (afterCall r i contact email place time (some delivery)) := by
  obtain ⟨before, after, hbefore, hset, herase⟩ := exists_split hworker
  rw [← due_event] at hdue
  cases delivery with
  | accepted | failed =>
    refine ⟨before, _, after, [_], hbefore, ?_, hdue, hstarted, rfl⟩
    rw [afterCall, hset, List.append_assoc]
    rfl
  | crashed =>
    refine ⟨before, _, after, [], hbefore, ?_, hdue, hstarted, rfl⟩
    rw [afterCall, herase, List.append_nil]

/-- **A worker that has a turn does the first of what it is going to do.** -/
theorem Settled.advances (h : e.Settled P) (hs : P s) (hs' : P s') {r : Run} {i : Nat} {w : Worker}
    (hworker : r.workers[i]? = some w) :
    ∃ r', (e.workerStep r i s').1 = .sending r' ∧
      e.Advances s r (e.deed (.worker i) (.sending r) s') r' := by
  cases w with
  | recording event =>
    obtain ⟨before, after, hbefore, -, herase⟩ := exists_split hworker
    have hanswer := h.record trivial event event s s' rfl ⟨hs, hs'⟩
    simp only [workerStep, deed, hworker]
    refine ⟨_, rfl, before, _, after, [], hbefore, ?_, ?_, rfl, rfl⟩
    · rw [herase, List.append_nil]
    · rw [due, dueEvent, ← hanswer]
      rfl
  | calling contact email place =>
    cases hchannel : e.failover.channels[place]? with
    | none =>
      simp only [workerStep, deed, hworker, hchannel, Option.map_none]
      exact ⟨_, rfl, advances_settle hworker _ _ rfl (h.due_lack hs hchannel _)⟩
    | some channel =>
      simp only [workerStep, deed, hworker, hchannel, Option.map_some, bind_apply]
      cases hconclude : Failover.conclude channel.name (place + 1)
          (decide (place + 1 < e.failover.channels.length)) (channel.send email s').1 with
      | some delivery =>
        exact ⟨_, rfl, advances_settle hworker _ _ rfl
          (h.due_settle hs hs' hchannel hconclude _)⟩
      | none =>
        obtain ⟨before, after, hbefore, hset, -⟩ := exists_split hworker
        refine ⟨_, rfl, before, _, after, [.calling contact email (place + 1)], hbefore, ?_, ?_,
          rfl, rfl⟩
        · rw [afterCall, hset, List.append_assoc]
          rfl
        · rw [h.due_retry hs hs' hchannel hconclude, List.flatMap_singleton]
          rfl

/-- The dispatcher starts a worker or leaves the workers alone. -/
theorem workers_dispatcherStep {r r' : Run} (hstep : (e.dispatcherStep r s).1 = .sending r') :
    (r'.workers = r.workers ∧ e.deed .dispatcher (.sending r) s = none ∧ r'.job = r.job) ∨
      ∃ contact address, r.next = some (contact, address) ∧
        e.deed .dispatcher (.sending r) s = some (.started contact) ∧
        r'.workers = r.workers ++ [.calling contact (r.job.email contact address) 0] ∧
        r'.job = r.job := by
  cases hnext : r.next with
  | some chosen =>
    obtain ⟨contact, address⟩ := chosen
    simp only [dispatcherStep, hnext, bind_apply] at hstep
    simp only [deed, hnext]
    split at hstep
    · next hstop =>
      cases hstep
      rw [if_pos hstop]
      exact .inl ⟨rfl, rfl, rfl⟩
    · next hgo =>
      cases hstep
      rw [if_neg hgo]
      exact .inr ⟨contact, address, rfl, rfl, rfl, rfl⟩
  | none =>
    have hdeed : e.deed .dispatcher (.sending r) s = none := by simp only [deed, hnext]
    rw [hdeed]
    refine .inl ?_
    simp only [dispatcherStep, hnext] at hstep
    cases hwaiting : r.waiting with
    | nil =>
      simp only [hwaiting] at hstep
      split at hstep <;> cases hstep
      exact ⟨rfl, rfl, rfl⟩
    | cons contact rest =>
      cases haddress : contact.address? with
      | none =>
        simp only [hwaiting, haddress] at hstep
        cases hstep
        exact ⟨rfl, rfl, rfl⟩
      | some address =>
        simp only [hwaiting, haddress] at hstep
        split at hstep <;> cases hstep <;> exact ⟨rfl, rfl, rfl⟩

end Engine

/-! ## All steps -/

/-- What is done so far and what workers are going to do is together what is due for the contacts
whose workers were started.  With room for one worker only it comes in this order. -/
structure Run.Told {σ : Type} (e : Engine σ) (s : σ) (ds : List Deed) (r : Run) : Prop where
  perm : (ds.map Deed.untimed ++ r.workers.flatMap (e.due r.job s)).Perm
    ((startedIn ds).flatMap (e.dueFor r.job s))
  order : e.limit = 1 → ds.map Deed.untimed ++ r.workers.flatMap (e.due r.job s) =
    (startedIn ds).flatMap (e.dueFor r.job s)

namespace Run.Told

variable {σ : Type} {e : Engine σ} {s : σ} {ds : List Deed} {r r' : Run}

/-- A step in which nothing is done and no worker has a part. -/
theorem rest (h : r.Told e s ds) (hworkers : r'.workers = r.workers) (hjob : r'.job = r.job) :
    r'.Told e s (ds ++ (none : Option Deed).toList) := by
  rw [Option.toList_none, List.append_nil]
  constructor
  · rw [hworkers, hjob]
    exact h.perm
  · rw [hworkers, hjob]
    exact h.order

/-- A worker does the first of what it is going to do. -/
theorem advance {d : Option Deed} (h : r.Told e s ds) (hadvances : e.Advances s r d r')
    (hroom : r.workers.length ≤ e.limit) : r'.Told e s (ds ++ d.toList) := by
  obtain ⟨before, w, after, new, hbefore, hafter, hdue, hstarted, hjob⟩ := hadvances
  have hperm := h.perm
  have horder := h.order
  rw [hbefore] at hroom
  rw [hbefore, List.flatMap_append, List.flatMap_cons, hdue] at hperm horder
  constructor
  · rw [startedIn_append, hstarted, List.append_nil, hjob, hafter, List.map_append,
      List.flatMap_append, List.flatMap_append]
    refine List.Perm.trans ?_ hperm
    simp only [List.append_assoc]
    exact List.Perm.append_left _ (List.perm_append_comm_assoc _ _ _)
  · intro hone
    -- with room for one worker it is the only one
    have hnone : before = [] := by
      rw [hone, List.length_append, List.length_cons] at hroom
      exact List.length_eq_zero_iff.1 (by omega)
    subst hnone
    rw [startedIn_append, hstarted, List.append_nil, hjob, hafter, List.map_append, ← horder hone]
    simp only [List.flatMap_append, List.flatMap_nil, List.nil_append, List.append_assoc]

/-- A worker is started, and has everything ahead of it. -/
theorem start {contact : Contact} {address : String} (h : r.Told e s ds)
    (haddress : contact.address? = some address)
    (hworkers : r'.workers = r.workers ++ [.calling contact (r.job.email contact address) 0])
    (hjob : r'.job = r.job) (hroom : r.workers.length < e.limit) :
    r'.Told e s (ds ++ (some (Deed.started contact)).toList) := by
  have hdue : e.dueFor r.job s contact =
      .started contact :: e.due r.job s (.calling contact (r.job.email contact address) 0) := by
    rw [Engine.dueFor, haddress]
  have hstarted : startedIn (ds ++ (some (Deed.started contact)).toList) =
      startedIn ds ++ [contact] := startedIn_append _ _
  have hdone : (ds ++ (some (Deed.started contact)).toList).map Deed.untimed =
      ds.map Deed.untimed ++ [.started contact] := List.map_append
  constructor
  · rw [hstarted, hdone, hjob, hworkers, List.flatMap_append, List.flatMap_append,
      List.flatMap_singleton, List.flatMap_singleton, hdue]
    refine List.Perm.trans ?_ (h.perm.append_right _)
    simp only [List.append_assoc]
    exact List.Perm.append_left _ (List.perm_append_comm_assoc [_] _ _)
  · intro hone
    have hnone : r.workers = [] := List.length_eq_zero_iff.1 (by omega)
    have horder := h.order hone
    rw [hnone, List.flatMap_nil, List.append_nil] at horder
    rw [hstarted, hdone, hjob, hworkers, hnone, List.nil_append, List.flatMap_singleton, horder,
      List.flatMap_append, List.flatMap_singleton, hdue, List.append_assoc]
    rfl

end Run.Told

namespace Engine

variable {σ : Type} {e : Engine σ} {P : σ → Prop} {campaign : Campaign} {audience : Audience}
  {tenant : Tenant} {s s₀ t : σ} {ds : List Deed} {r : Run}

/-- **Whatever turns are had, what is done and what is to be done fit together.** -/
theorem Sends.told (hsettled : e.Settled P) (hs : P s)
    (h : e.Sends P (e.opening campaign audience tenant) s₀ ds r t) : r.Told e s ds := by
  induction h with
  | refl => exact ⟨.refl _, fun _ => rfl⟩
  | @step ds r r' t t' h ht turn hstep ih =>
    have hroom := h.trail.room
    cases turn with
    | dispatcher =>
      rcases workers_dispatcherStep (congrArg Prod.fst hstep) with
        ⟨hworkers, hnone, hjob⟩ | ⟨contact, address, hnext, hdeed, hworkers, hjob⟩
      · rw [hnone]
        exact ih.rest hworkers hjob
      · obtain ⟨taken, htaken⟩ := h.trail.inOrder
        rw [hdeed]
        rw [hnext] at hroom
        exact ih.start (htaken.address contact address hnext) hworkers hjob hroom
    | worker i =>
      cases hworker : r.workers[i]? with
      | none =>
        have hsame : e.step (.worker i) (.sending r) t = (.sending r, t) := by
          simp only [Engine.step, workerStep, hworker]
          rfl
        have hdeed : e.deed (.worker i) (.sending r) t = none := by simp only [deed, hworker]
        cases hsame.symm.trans hstep
        rw [hdeed]
        exact ih.rest rfl rfl
      | some w =>
        obtain ⟨r₁, heq, hadvances⟩ := hsettled.advances hs ht hworker
        cases heq.symm.trans (congrArg Prod.fst hstep)
        exact ih.advance hadvances (Nat.le_of_add_right_le hroom)

/-- Contacts without an address are left out. -/
theorem flatMap_dueFor_filter (job : Job) (s : σ) (contacts : List Contact) :
    (contacts.filter (·.address?.isSome)).flatMap (e.dueFor job s) =
      contacts.flatMap (e.dueFor job s) := by
  induction contacts with
  | nil => rfl
  | cons contact contacts ih =>
    cases haddress : contact.address? with
    | none => simp [haddress, dueFor, ih]
    | some address => simp [haddress, ih]

/-- **When nobody is at work any more, everything that was due is done**, and with room for one
worker it was done in the order of the audience. -/
theorem Sends.told_whole (hsettled : e.Settled P) (hs : P s)
    (h : e.Sends P (e.opening campaign audience tenant) s₀ ds r t) (hdrained : r.IsDrained)
    (hstarted : startedIn ds = audience.contacts.filter (·.address?.isSome)) :
    (ds.map Deed.untimed).Perm
        (audience.contacts.flatMap (e.dueFor (e.opening campaign audience tenant).job s)) ∧
      (e.limit = 1 → ds.map Deed.untimed =
        audience.contacts.flatMap (e.dueFor (e.opening campaign audience tenant).job s)) := by
  have htold := h.told hsettled hs
  have hperm := htold.perm
  have horder := htold.order
  rw [hdrained.2.2, List.flatMap_nil, List.append_nil, hstarted, flatMap_dueFor_filter,
    h.trail.job_eq] at hperm horder
  exact ⟨hperm, horder⟩

/-- What is due for a contact concerns this contact. -/
theorem contactId?_of_dueFor {job : Job} {contact : Contact} {d : Deed}
    (hd : d ∈ e.dueFor job s contact) : d.contactId? = some contact.id := by
  rw [dueFor] at hd
  split at hd
  · rcases List.mem_cons.1 hd with rfl | hd
    · rfl
    · rcases List.mem_append.1 hd with hd | hd
      · exact contactId?_of_carry hd
      · obtain ⟨event, hevent, rfl⟩ := Option.map_eq_some_iff.1 (Option.mem_toList.1 hd)
        have hcontact : event.contact = contact.id := Job.contact_of_event? hevent
        exact congrArg some hcontact
  · cases hd

end Engine

end Dispatch
end Mailshot
