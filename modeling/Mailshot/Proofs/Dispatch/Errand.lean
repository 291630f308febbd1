import Mailshot.Proofs.Dispatch.Due
import Mailshot.Proofs.Dispatch.Hand
import Mailshot.Proofs.Mail.Failover

/-!
# What one worker does

The deeds of all workers of a dispatch come in any order.  This file picks out those that are about
one contact.  `Errand` says what they can be, and how far the worker is: it was started, the
channels were tried so far (`Failover.Tries`), and once this came to an end, an event that says so
is recorded.  A worker that has a turn does the next of it (`Errand.step`).

`Tended` puts this together for all contacts whose workers were started.  Their workers are told
apart by the contacts they are for, so that a turn of one leaves the others where they are.
-/

set_option autoImplicit false

namespace Mailshot
namespace Dispatch

open Failover (Tries)

/-! ## One worker -/

/-- A call of a channel over the message to a contact. -/
def Deed.ofCall (contact : Contact) (call : Failover.Call) : Deed :=
  .called contact call.email call.place call.attempt

/-- What was done so far about a contact whose worker was started, with channels of these names, and
what the worker does next if it is still at work. -/
inductive Errand (names : List String) (job : Job) (contact : Contact) :
    List Deed → Option Worker → Prop
  /-- The next channel is to be called. -/
  | calling {address : String} (haddress : contact.address? = some address)
      {calls : List Failover.Call} (h : Tries names (job.email contact address) calls none) :
      Errand names job contact (.started contact :: calls.map (.ofCall contact))
        (some (.calling contact (job.email contact address) calls.length))
  /-- The message is settled, and an event is to be recorded, unless the worker was lost. -/
  | settled {address : String} (haddress : contact.address? = some address)
      {calls : List Failover.Call} {d : Delivery}
      (h : Tries names (job.email contact address) calls (some d)) (time : Instant) :
      Errand names job contact (.started contact :: calls.map (.ofCall contact))
        ((job.event? contact time d).map .recording)
  /-- The event is recorded. -/
  | recorded {address : String} (haddress : contact.address? = some address)
      {calls : List Failover.Call} {d : Delivery}
      (h : Tries names (job.email contact address) calls (some d)) {time : Instant}
      {event : SendEvent} (hevent : job.event? contact time d = some event)
      (answer : Except CampaignError Unit) :
      Errand names job contact
        (.started contact :: calls.map (.ofCall contact) ++ [.recorded event answer]) none

namespace Errand

variable {names : List String} {job : Job} {contact : Contact} {ds : List Deed} {w : Worker}

/-- The worker is for the contact. -/
theorem contactId_eq (h : Errand names job contact ds (some w)) : w.contactId = contact.id := by
  generalize hsome : some w = o at h
  cases h with
  | calling =>
    cases hsome
    rfl
  | settled =>
    obtain ⟨event, hevent, rfl⟩ := Option.map_eq_some_iff.1 hsome.symm
    exact Job.contact_of_event? hevent
  | recorded => cases hsome

end Errand

/-- Workers of which the one in a place goes on like this, or is gone. -/
def placed (workers : List Worker) (i : Nat) : Option Worker → List Worker
  | some w => workers.set i w
  | none => workers.eraseIdx i

/-- Such a worker, and those before and after it. -/
theorem exists_placed {workers : List Worker} {i : Nat} {w : Worker} (h : workers[i]? = some w) :
    ∃ before after, workers = before ++ ([w] ++ after) ∧
      ∀ o, placed workers i o = before ++ (o.toList ++ after) := by
  obtain ⟨before, after, hworkers, hset, herase⟩ := Engine.exists_split h
  refine ⟨before, after, hworkers, fun o => ?_⟩
  cases o with
  | none => exact herase
  | some w' => exact hset w'

namespace Engine

variable {σ : Type} {e : Engine σ}

/-- What an answer that settles the message does to the workers. -/
theorem workers_afterCall (r : Run) (i : Nat) (contact : Contact) (email : OutboundEmail)
    (tried : Nat) (time : Instant) (d : Delivery) :
    (afterCall r i contact email tried time (some d)).workers =
      placed r.workers i ((r.job.event? contact time d).map .recording) := by
  cases d <;> rfl

end Engine

/-- **A worker that has a turn goes on with its errand.** -/
theorem Errand.step {σ : Type} {e : Engine σ} {r : Run} {i : Nat} {w : Worker} {contact : Contact}
    {ds : List Deed} (h : Errand e.failover.names r.job contact ds (some w))
    (hworker : r.workers[i]? = some w) (s : σ) :
    ∃ d w' r', e.deed (.worker i) (.sending r) s = some d ∧
      (e.workerStep r i s).1 = .sending r' ∧ r'.workers = placed r.workers i w' ∧
      Errand e.failover.names r.job contact (ds ++ [d]) w' ∧
      d.contactId? = some contact.id ∧ d.started? = none := by
  generalize hsome : some w = o at h
  cases h with
  | recorded => cases hsome
  | @settled address haddress calls d h time =>
    obtain ⟨event, hevent, rfl⟩ := Option.map_eq_some_iff.1 hsome.symm
    simp only [Engine.deed, Engine.workerStep, hworker, Engine.bind_apply]
    exact ⟨_, none, _, rfl, rfl, rfl, .recorded haddress h hevent _,
      congrArg some (Job.contact_of_event? hevent), rfl⟩
  | @calling address haddress calls h =>
    cases hsome
    have hlength : e.failover.names.length = e.failover.channels.length := List.length_map _
    -- there is another channel, since the last one was not the end
    have hplace := h.lt_length (hlength ▸ e.failover.size_bounds.1)
    obtain ⟨channel, hchannel⟩ : ∃ channel, e.failover.channels[calls.length]? = some channel :=
      ⟨_, List.getElem?_eq_getElem (hlength ▸ hplace)⟩
    have hname : e.failover.names[calls.length]? = some channel.name := by
      rw [Failover.names, List.getElem?_map, hchannel]
      rfl
    have hcall := h.call hname (channel.send (r.job.email contact address) s).1
    simp only [Engine.deed, Engine.workerStep, hworker, hchannel, Engine.bind_apply,
      Option.map_some]
    rw [hlength] at hcall
    cases hconclude : Failover.conclude channel.name (calls.length + 1)
        (decide (calls.length + 1 < e.failover.channels.length))
        (channel.send (r.job.email contact address) s).1 with
    | none =>
      rw [hconclude] at hcall
      have hnext := Errand.calling haddress hcall
      rw [List.map_append, ← List.cons_append, List.length_append] at hnext
      exact ⟨_, _, _, rfl, rfl, rfl, hnext, rfl, rfl⟩
    | some d =>
      rw [hconclude] at hcall
      have hnext := Errand.settled haddress hcall
        (e.clock (channel.send (r.job.email contact address) s).2).1
      rw [List.map_append, ← List.cons_append] at hnext
      exact ⟨_, _, _, rfl, rfl, Engine.workers_afterCall .., hnext, rfl, rfl⟩

/-! ## All workers -/

/-- What is done about the contact with an identifier. -/
def doneFor (id : String) (ds : List Deed) : List Deed := ds.filter (·.isAbout id)

/-- The workers for the contact with an identifier. -/
def workersFor (id : String) (workers : List Worker) : List Worker :=
  workers.filter (·.contactId = id)

theorem doneFor_append (id : String) (ds ds' : List Deed) :
    doneFor id (ds ++ ds') = doneFor id ds ++ doneFor id ds' := List.filter_append ..

theorem workersFor_append (id : String) (ws ws' : List Worker) :
    workersFor id (ws ++ ws') = workersFor id ws ++ workersFor id ws' := List.filter_append ..

theorem doneFor_eq_self {id : String} {d : Deed} (h : d.contactId? = some id) :
    doneFor id [d] = [d] := by
  simp [doneFor, Deed.isAbout, h]

theorem doneFor_of_ne {id : String} {d : Deed} (h : d.contactId? ≠ some id) :
    doneFor id [d] = [] := by
  simp [doneFor, Deed.isAbout, h]

theorem doneFor_eq_nil {id : String} {ds : List Deed} (h : ∀ d ∈ ds, d.contactId? ≠ some id) :
    doneFor id ds = [] :=
  List.filter_eq_nil_iff.2 fun d hd => by simpa [Deed.isAbout] using h d hd

theorem workersFor_eq_self {id : String} {ws : List Worker} (h : ∀ w ∈ ws, w.contactId = id) :
    workersFor id ws = ws :=
  List.filter_eq_self.2 fun w hw => decide_eq_true (h w hw)

theorem workersFor_eq_nil {id : String} {ws : List Worker} (h : ∀ w ∈ ws, w.contactId ≠ id) :
    workersFor id ws = [] :=
  List.filter_eq_nil_iff.2 fun w hw hid => h w hw (of_decide_eq_true hid)

/-- Workers for others make no difference. -/
theorem workersFor_insert_of_ne {id : String} {ws : List Worker} (before after : List Worker)
    (h : ∀ w ∈ ws, w.contactId ≠ id) :
    workersFor id (before ++ (ws ++ after)) = workersFor id (before ++ after) := by
  rw [workersFor_append, workersFor_append, workersFor_eq_nil h, workersFor_append]
  rfl

/-- Workers in the place of all there are for a contact are all there are then. -/
theorem workersFor_insert_of_eq {id : String} {ws ws' before after : List Worker}
    (hid : ∀ w ∈ ws, w.contactId = id) (hid' : ∀ w ∈ ws', w.contactId = id)
    (h : workersFor id (before ++ (ws ++ after)) = ws) :
    workersFor id (before ++ (ws' ++ after)) = ws' := by
  rw [workersFor_append, workersFor_append, workersFor_eq_self hid] at h
  have hlength := congrArg List.length h
  simp only [List.length_append] at hlength
  have hbefore : workersFor id before = [] := List.eq_nil_of_length_eq_zero (by omega)
  have hafter : workersFor id after = [] := List.eq_nil_of_length_eq_zero (by omega)
  rw [workersFor_append, workersFor_append, workersFor_eq_self hid', hbefore, hafter,
    List.append_nil, List.nil_append]

/-- For each contact whose worker was started there is one errand, which is that worker's if it is
still at work, and nothing else is done about anybody. -/
structure Tended (names : List String) (job : Job) (ds : List Deed) (workers : List Worker) :
    Prop where
  /-- Each contact has its errand. -/
  errand : ∀ contact ∈ startedIn ds, ∃ w, Errand names job contact (doneFor contact.id ds) w ∧
    workersFor contact.id workers = w.toList
  /-- Whatever is done is part of one. -/
  known : ∀ d ∈ ds, ∀ id, d.contactId? = some id → id ∈ (startedIn ds).map (·.id)
  /-- Every worker has one. -/
  staffed : ∀ w ∈ workers, w.contactId ∈ (startedIn ds).map (·.id)

namespace Tended

variable {names : List String} {job : Job} {ds : List Deed} {workers : List Worker}

/-- At first nobody has an errand. -/
theorem nil : Tended names job [] [] where
  errand _ hcontact := absurd hcontact List.not_mem_nil
  known _ hd := absurd hd List.not_mem_nil
  staffed _ hw := absurd hw List.not_mem_nil

theorem rest (h : Tended names job ds workers) :
    Tended names job (ds ++ (none : Option Deed).toList) workers := by
  rwa [Option.toList_none, List.append_nil]

/-- What is about nobody does nothing to the errands. -/
theorem frame (h : Tended names job ds workers) {d : Option Deed}
    (hd : ∀ deed ∈ d, deed.contactId? = none) : Tended names job (ds ++ d.toList) workers := by
  cases d with
  | none => exact h.rest
  | some deed =>
    have hnone : deed.contactId? = none := hd deed rfl
    have hstarted : startedIn [deed] = [] := by
      cases deed <;> first | rfl | cases hnone
    rw [Option.toList_some]
    constructor
    · intro contact hcontact
      rw [startedIn_append, hstarted, List.append_nil] at hcontact
      rw [doneFor_append, doneFor_of_ne (by simp [hnone]), List.append_nil]
      exact h.errand contact hcontact
    · intro d' hd' id hid
      rw [startedIn_append, hstarted, List.append_nil]
      rcases List.mem_append.1 hd' with hd' | hd'
      · exact h.known d' hd' id hid
      · rw [List.mem_singleton.1 hd', hnone] at hid
        cases hid
    · rw [startedIn_append, hstarted, List.append_nil]
      exact h.staffed

/-- A worker is started for a contact who had none. -/
theorem start (h : Tended names job ds workers) {contact : Contact} {address : String}
    (haddress : contact.address? = some address)
    (hnew : contact.id ∉ (startedIn ds).map (·.id)) :
    Tended names job (ds ++ [.started contact])
      (workers ++ [.calling contact (job.email contact address) 0]) := by
  have hstarted : startedIn (ds ++ [.started contact]) = startedIn ds ++ [contact] := by
    rw [startedIn_append]
    rfl
  constructor
  · intro other hother
    rw [hstarted] at hother
    rw [doneFor_append, workersFor_append]
    rcases List.mem_append.1 hother with hother | hother
    · -- nothing changes for the others
      have hne : contact.id ≠ other.id := fun heq => hnew (heq ▸ List.mem_map_of_mem hother)
      have hidle : workersFor other.id [.calling contact (job.email contact address) 0] = [] :=
        workersFor_eq_nil fun w hw => by rwa [List.mem_singleton.1 hw]
      rw [doneFor_of_ne (by simpa [Deed.contactId?] using hne), hidle, List.append_nil,
        List.append_nil]
      exact h.errand other hother
    · cases List.mem_singleton.1 hother
      have hdone : doneFor contact.id ds = [] :=
        doneFor_eq_nil fun d hd hid => hnew (h.known d hd _ hid)
      have hworkers : workersFor contact.id workers = [] :=
        workersFor_eq_nil fun w hw hid => hnew (hid ▸ h.staffed w hw)
      rw [hdone, hworkers, doneFor_eq_self rfl, workersFor_eq_self (by simp)]
      exact ⟨_, .calling haddress .start, rfl⟩
  · intro d hd id hid
    rw [hstarted, List.map_append]
    rcases List.mem_append.1 hd with hd | hd
    · exact List.mem_append_left _ (h.known d hd id hid)
    · cases List.mem_singleton.1 hd
      cases hid
      exact List.mem_append_right _ (List.mem_singleton.2 rfl)
  · intro w hw
    rw [hstarted, List.map_append]
    rcases List.mem_append.1 hw with hw | hw
    · exact List.mem_append_left _ (h.staffed w hw)
    · cases List.mem_singleton.1 hw
      exact List.mem_append_right _ (List.mem_singleton.2 rfl)

/-- The errand of a worker. -/
theorem errand_of_worker (h : Tended names job ds workers) {i : Nat} {w : Worker}
    (hworker : workers[i]? = some w) :
    ∃ contact ∈ startedIn ds, contact.id = w.contactId ∧
      Errand names job contact (doneFor contact.id ds) (some w) ∧
      workersFor contact.id workers = [w] := by
  have hmem := List.mem_of_getElem? hworker
  obtain ⟨contact, hcontact, hid⟩ := List.mem_map.1 (h.staffed w hmem)
  obtain ⟨w', herrand, hworkers⟩ := h.errand contact hcontact
  have hw : w ∈ workersFor contact.id workers :=
    List.mem_filter.2 ⟨hmem, decide_eq_true hid.symm⟩
  rw [hworkers] at hw
  cases w' with
  | none => cases hw
  | some w' =>
    cases List.mem_singleton.1 hw
    exact ⟨contact, hcontact, hid, herrand, hworkers⟩

/-- A worker goes on with its errand, and the others are where they were. -/
theorem work (h : Tended names job ds workers) (hids : ((startedIn ds).map (·.id)).Nodup) {i : Nat}
    {w : Worker} (hworker : workers[i]? = some w) {contact : Contact}
    (hcontact : contact ∈ startedIn ds) (hworkers : workersFor contact.id workers = [w])
    {d : Deed} {w' : Option Worker} (herrand : Errand names job contact
      (doneFor contact.id ds ++ [d]) w')
    (hd : d.contactId? = some contact.id) (hstarted : d.started? = none) :
    Tended names job (ds ++ [d]) (placed workers i w') := by
  have hsame : startedIn (ds ++ [d]) = startedIn ds := by
    rw [startedIn_append, startedIn_cons, hstarted]
    exact List.append_nil _
  obtain ⟨before, after, hbefore, hplaced⟩ := exists_placed hworker
  have hid : ∀ x ∈ [w], x.contactId = contact.id := by
    intro x hx
    rw [← hworkers] at hx
    exact of_decide_eq_true (List.mem_filter.1 hx).2
  have hid' : ∀ x ∈ w'.toList, x.contactId = contact.id := by
    intro x hx
    rw [Option.mem_toList.1 hx] at herrand
    exact herrand.contactId_eq
  constructor
  · intro other hother
    rw [hsame] at hother
    rw [hplaced, doneFor_append]
    by_cases hother' : other.id = contact.id
    · cases List.inj_on_of_nodup_map hids hother hcontact hother'
      rw [hbefore] at hworkers
      rw [doneFor_eq_self hd, workersFor_insert_of_eq hid hid' hworkers]
      exact ⟨w', herrand, rfl⟩
    · obtain ⟨o, hdone, hothers⟩ := h.errand other hother
      rw [hbefore, workersFor_insert_of_ne _ _ fun x hx heq =>
        hother' (heq.symm.trans (hid x hx))] at hothers
      rw [doneFor_of_ne (by simpa [hd] using fun heq => hother' heq.symm), List.append_nil,
        workersFor_insert_of_ne _ _ fun x hx heq => hother' (heq.symm.trans (hid' x hx))]
      exact ⟨o, hdone, hothers⟩
  · intro d' hd' id hid
    rw [hsame]
    rcases List.mem_append.1 hd' with hd' | hd'
    · exact h.known d' hd' id hid
    · rw [List.mem_singleton.1 hd', hd] at hid
      cases hid
      exact List.mem_map_of_mem hcontact
  · intro x hx
    rw [hsame]
    rw [hplaced] at hx
    rcases List.mem_append.1 hx with hx | hx
    · exact h.staffed x (hbefore ▸ List.mem_append_left _ hx)
    · rcases List.mem_append.1 hx with hx | hx
      · rw [hid' x hx]
        exact List.mem_map_of_mem hcontact
      · exact h.staffed x (hbefore ▸ List.mem_append_right _ (List.mem_append_right _ hx))

end Tended

/-! ## All steps -/

/-- The workers at work at a stage. -/
def Stage.workers : Stage → List Worker
  | .sending r => r.workers
  | _ => []

namespace Engine

variable {σ : Type} {e : Engine σ}

/-- Unless a dispatch is sending, nothing that it does is about anybody, and nobody is at work. -/
theorem Goes.idle {a b : Stage} {d : Option Deed} (h : e.Goes a d b)
    (ha : ∀ r, a ≠ .sending r) :
    (∀ deed ∈ d, deed.contactId? = none) ∧ a.workers = [] ∧ b.workers = [] := by
  have hnone : ∀ deed ∈ (none : Option Deed), deed.contactId? = none := fun _ hd => by cases hd
  cases h with
  | rest =>
    cases a with
    | sending r => exact absurd rfl (ha r)
    | _ => exact ⟨hnone, rfl, rfl⟩
  | fail hstage =>
    cases a with
    | sending r => exact absurd rfl (ha r)
    | _ => exact ⟨hnone, rfl, rfl⟩
  | work | drain => exact absurd rfl (ha _)
  | falter | yield | crash | win | finish | strand =>
    exact ⟨fun deed hd => by cases hd; rfl, rfl, rfl⟩
  | _ => exact ⟨hnone, rfl, rfl⟩

/-- A step of the dispatcher while it is sending, and the errands. -/
theorem tended_dispatcherStep {r : Run} {ds : List Deed} {s : σ}
    (h : Tended e.failover.names r.job ds r.workers)
    (hids : ((startedIn (ds ++ (e.deed .dispatcher (.sending r) s).toList)).map (·.id)).Nodup)
    (haddress : ∀ contact address, r.next = some (contact, address) →
      contact.address? = some address) :
    Tended e.failover.names r.job (ds ++ (e.deed .dispatcher (.sending r) s).toList)
      (e.dispatcherStep r s).1.workers := by
  have hgoes := e.goes_dispatcherStep r s
  rcases hgoes.of_sending with ⟨r', hr'⟩ | ⟨report, hreport⟩
  · rw [hr']
    rcases workers_dispatcherStep hr' with
      ⟨hworkers, hdeed, -⟩ | ⟨contact, address, hnext, hdeed, hworkers, -⟩
    · rw [hdeed, Stage.workers, hworkers]
      exact h.rest
    · rw [hdeed, Stage.workers, hworkers]
      rw [hdeed, Option.toList_some, startedIn_append, List.map_append] at hids
      refine h.start (haddress contact address hnext) fun hmem => ?_
      exact (List.nodup_append.1 hids).2.2 _ hmem _ (List.mem_singleton.2 rfl) rfl
  · rw [hreport] at hgoes ⊢
    generalize e.deed .dispatcher (.sending r) s = d at hgoes ⊢
    cases hgoes with
    | drain _ _ hworkers =>
      rw [hworkers] at h
      exact h.rest

/-- A step of a worker, and the errands. -/
theorem tended_workerStep {r : Run} {i : Nat} {ds : List Deed} {s : σ}
    (h : Tended e.failover.names r.job ds r.workers)
    (hids : ((startedIn ds).map (·.id)).Nodup) :
    Tended e.failover.names r.job (ds ++ (e.deed (.worker i) (.sending r) s).toList)
      (e.workerStep r i s).1.workers := by
  cases hworker : r.workers[i]? with
  | none =>
    simp only [workerStep, deed, hworker]
    exact h.rest
  | some w =>
    obtain ⟨contact, hcontact, -, herrand, hworkers⟩ := h.errand_of_worker hworker
    obtain ⟨d, w', r', hdeed, hstep, hplaced, hnext, hid, hstarted⟩ := herrand.step hworker s
    rw [hdeed, hstep, Stage.workers, hplaced]
    exact h.work hids hworker hcontact hworkers hnext hid hstarted

variable {campaign : Campaign} {audience : Audience} {tenant : Tenant} {ds : List Deed}
  {stage : Stage}

/-- Of the workers that a dispatch started no two are for the same contact. -/
theorem Since.nodup_started (h : e.Since campaign audience tenant ds stage)
    (hids : audience.ids.Nodup) : ((startedIn ds).map (·.id)).Nodup := by
  cases h with
  | claiming | unclaimed | crashed => exact List.nodup_nil
  | sending _ htrail | completing _ htrail => simpa using htrail.nodup_started hids
  | closed _ htrail => simpa using htrail.nodup_started hids

/-- **Whatever is done about a contact is its errand**, in whatever order turns are had. -/
theorem Path.tended (h : e.Path (.claiming campaign audience tenant) ds stage)
    (hids : audience.ids.Nodup) :
    Tended e.failover.names (e.opening campaign audience tenant).job ds stage.workers := by
  induction h with
  | refl => exact .nil
  | @step ds now h turn s ih =>
    have hnodup := (h.step turn s).since.nodup_started hids
    by_cases hsending : ∃ r, now = .sending r
    · -- only then is somebody at work, and the audience is taken in order
      obtain ⟨r, rfl⟩ := hsending
      obtain ⟨ds', hds, htrail⟩ : ∃ ds', ds = .asked campaign.id (.ok true) :: ds' ∧
          (e.opening campaign audience tenant).Trail e.limit ds' r := by
        cases h.since with
        | sending _ htrail => exact ⟨_, rfl, htrail⟩
      rw [← htrail.job_eq] at ih ⊢
      cases turn with
      | dispatcher =>
        obtain ⟨taken, htaken⟩ := htrail.inOrder
        exact tended_dispatcherStep ih hnodup htaken.address
      | worker i =>
        exact tended_workerStep ih (h.since.nodup_started hids)
    · obtain ⟨hd, hworkers, hnext⟩ :=
        (e.goes_step turn now s).idle fun r hr => hsending ⟨r, hr⟩
      rw [hworkers] at ih
      rw [hnext]
      exact ih.frame hd

end Engine

end Dispatch
end Mailshot
