import Mathlib.Data.List.Forall2
import Mailshot.Proofs.Dispatch.Sequence

/-!
# Two dispatches compared

`Engine.Twins` says when two ways to dispatch one campaign come to the same, except for what
concerns one address: whatever one of the two works with answers like its counterpart, and what is
kept from one call to the next (`R`) does not tell what happened over a message to that address, or
what time it is.  These are conditions on single calls.  Those that matter while messages are sent
are `Engine.Peers`.

What follows from them holds of whole dispatches.  `Twins.sequel` compares two sweeps over the same
contacts: message by message the deeds are alike, but for those that concern the address, and the
counts stay level (`Run.Level`).  `Twins.approach` does the same up to the claim and
`Twins.claiming` from there on.
-/

set_option autoImplicit false

namespace Mailshot

/-- An event without its time. -/
def SendEvent.untimed (event : SendEvent) : SendEvent := { event with time := default }

namespace Dispatch

/-! ## Actions compared -/

section Actions

variable {σ α β : Type} {R : σ → σ → Prop}

/-- Two actions answer the same and keep a relation. -/
def Matches (R : σ → σ → Prop) (m m' : StateM σ α) : Prop :=
  ∀ s s', R s s' → (m' s').1 = (m s).1 ∧ R (m s).2 (m' s').2

/-- An action makes no difference to a relation. -/
def Unseen (R : σ → σ → Prop) (m : StateM σ α) : Prop := ∀ s s', R s s' → R (m s).2 s'

theorem unseen_pure (a : α) : Unseen R (pure a : StateM σ α) := fun _ _ h => h

theorem Unseen.bind {m : StateM σ α} {f : α → StateM σ β} (h : Unseen R m)
    (hf : ∀ a, Unseen R (f a)) : Unseen R (m >>= f) :=
  fun s s' hR => hf (m s).1 _ _ (h s s' hR)

end Actions

/-! ## Deeds compared -/

namespace Deed

/-- The identifier of the contact that it concerns. -/
def contactId? : Deed → Option String
  | started contact => some contact.id
  | called contact _ _ _ => some contact.id
  | recorded event _ => some event.contact
  | _ => none

/-- Whether it concerns a contact with this identifier. -/
def isAbout (id : String) (d : Deed) : Bool := d.contactId? = some id

/-- Deeds that are the same but for the times of events, and, unless that is ruled out, for the
answers of the log. -/
inductive Alike (logged : Prop) : Deed → Deed → Prop
  /-- They are the same. -/
  | same (d : Deed) : Alike logged d d
  /-- The same event is recorded, whatever time it is. -/
  | recorded {event event' : SendEvent} {answer answer' : Except CampaignError Unit}
      (hevent : event'.untimed = event.untimed) (hanswer : logged → answer' = answer) :
      Alike logged (.recorded event answer) (.recorded event' answer')

end Deed

/-- What concerns none of the contacts that are kept from view. -/
def shown (veil : String → Bool) (ds : List Deed) : List Deed :=
  ds.filter fun d => d.contactId?.all fun id => !veil id

theorem shown_append (veil : String → Bool) (ds ds' : List Deed) :
    shown veil (ds ++ ds') = shown veil ds ++ shown veil ds' := List.filter_append ..

/-- If no contact is kept from view, everything is shown. -/
theorem shown_none (ds : List Deed) : shown (fun _ => false) ds = ds :=
  List.filter_eq_self.2 fun d _ => by cases h : d.contactId? <;> rfl

theorem shown_cons_asked (veil : String → Bool) (campaign : String)
    (answer : Except CampaignError Bool) (ds : List Deed) :
    shown veil (.asked campaign answer :: ds) = .asked campaign answer :: shown veil ds :=
  List.filter_cons_of_pos rfl

/-- What concerns a contact that is kept from view is not shown. -/
theorem shown_eq_nil {veil : String → Bool} {ds : List Deed} {id : String}
    (habout : ∀ d ∈ ds, d.contactId? = some id) (hveil : veil id = true) : shown veil ds = [] := by
  refine List.filter_eq_nil_iff.2 fun d hd => ?_
  simp [habout d hd, hveil]

/-- What concerns any other contact is. -/
theorem shown_eq_self {veil : String → Bool} {ds : List Deed} {id : String}
    (habout : ∀ d ∈ ds, d.contactId? = some id) (hveil : veil id = false) : shown veil ds = ds := by
  refine List.filter_eq_self.2 fun d hd => ?_
  simp [habout d hd, hveil]

/-- Whatever time it is, the same event is recorded for a message that is settled in one way. -/
theorem Job.event?_cases (j : Job) (contact : Contact) (time time' : Instant) (d : Delivery) :
    (j.event? contact time d = none ∧ j.event? contact time' d = none) ∨
      ∃ event event', j.event? contact time d = some event ∧
        j.event? contact time' d = some event' ∧ event'.untimed = event.untimed := by
  cases d with
  | crashed => exact .inl ⟨rfl, rfl⟩
  | accepted | failed => exact .inr ⟨_, _, rfl, rfl, rfl⟩

/-- Two dispatches count level: they skipped as many contacts, settled as many messages, and stopped
or did not.  If no address is kept from view, they count the same. -/
structure Run.Level (hidden : Option String) (r r' : Run) : Prop where
  job : r'.job = r.job
  skipped : r'.skipped = r.skipped
  stopped : r'.stopped = r.stopped
  settled : r'.sent + r'.failed + r'.lost = r.sent + r.failed + r.lost
  counts : hidden = none → r'.sent = r.sent ∧ r'.failed = r.failed ∧ r'.lost = r.lost

namespace Run.Level

variable {hidden : Option String} {r r' : Run}

theorem refl (r : Run) : Level hidden r r := ⟨rfl, rfl, rfl, rfl, fun _ => ⟨rfl, rfl, rfl⟩⟩

/-- One message was settled in each of the dispatches, in the same way if it is in view. -/
theorem counting (h : Level hidden r r') {d d' : Delivery} (hsame : hidden = none → d' = d) :
    Level hidden (r.counting d) (r'.counting d') where
  job := by rw [Run.job_counting, Run.job_counting, h.job]
  skipped := by cases d <;> cases d' <;> exact h.skipped
  stopped := by cases d <;> cases d' <;> exact h.stopped
  settled := by
    have hsettled := h.settled
    cases d <;> cases d' <;> simp only [Run.counting] <;> omega
  counts hnone := by
    obtain ⟨hsent, hfailed, hlost⟩ := h.counts hnone
    rw [hsame hnone]
    cases d <;> simp [Run.counting, hsent, hfailed, hlost]

/-- A contact was skipped in each. -/
theorem skip (h : Level hidden r r') :
    Level hidden { r with skipped := r.skipped + 1 } { r' with skipped := r'.skipped + 1 } :=
  ⟨h.job, congrArg (· + 1) h.skipped, h.stopped, h.settled, h.counts⟩

end Run.Level

/-- Two dispatches end in the same way, or both complete their campaign with level counts. -/
inductive Ending.Level (hidden : Option String) : Ending → Ending → Prop
  /-- They end in the same way. -/
  | same (ending : Ending) : Level hidden ending ending
  /-- They ask for the campaign to be completed and have the same answer. -/
  | closing {r r' : Run} (h : r.Level hidden r') (answer : Except CampaignError Unit) :
      Level hidden (.closing r.report answer) (.closing r'.report answer)

/-- If no address is kept from view, level counts make the same report. -/
theorem Run.Level.report_eq {r r' : Run} (h : r.Level none r') : r'.report = r.report := by
  obtain ⟨hsent, hfailed, hlost⟩ := h.counts rfl
  rw [report, report, h.job, h.skipped, h.stopped, hsent, hfailed, hlost]

theorem Ending.Level.eq {a b : Ending} (h : Ending.Level none a b) : b = a := by
  cases h with
  | same => rfl
  | closing hlevel answer => rw [hlevel.report_eq]

/-! ## Dispatches compared -/

/-- Two ways to send that come to the same except for what concerns one address. -/
structure Engine.Peers {σ : Type} (hidden : Option String) (logged : Prop) (R : σ → σ → Prop)
    (e e' : Engine σ) : Prop where
  /-- The channels do the same for all other addresses. -/
  channels : List.Forall₂ (fun c c' => c'.name = c.name ∧
    ∀ email, email.recipient ∉ hidden → Matches R (c.send email) (c'.send email))
    e.failover.channels e'.failover.channels
  /-- What they do for this address cannot be told afterwards. -/
  send_left : ∀ c ∈ e.failover.channels, ∀ email, email.recipient ∈ hidden →
    Unseen R (c.send email)
  send_right : ∀ c ∈ e'.failover.channels, ∀ email, email.recipient ∈ hidden →
    Unseen (flip R) (c.send email)
  /-- The log may answer as it likes, unless that is ruled out. -/
  record : logged → ∀ event event' s s', event'.untimed = event.untimed → R s s' →
    (e'.record event' s').1 = (e.record event s).1
  record_left : ∀ event, Unseen R (e.record event)
  record_right : ∀ event, Unseen (flip R) (e'.record event)
  clock_left : Unseen R e.clock
  clock_right : Unseen (flip R) e'.clock

/-- Two ways to dispatch the campaign with an identifier, of a tenant, that come to the same except
for what concerns one address. -/
structure Engine.Twins {σ : Type} (hidden : Option String) (logged : Prop) (R : σ → σ → Prop)
    (id tenant : String) (e e' : Engine σ) : Prop extends Peers hidden logged R e e' where
  concurrency : e'.concurrency = e.concurrency
  defaultSender : e'.defaultSender = e.defaultSender
  /-- The campaigns and the contacts are the same. -/
  load : Matches R (e.campaigns.load id) (e'.campaigns.load id)
  loaded : ∀ s s' campaign, R s s' → (e.campaigns.load id s).1 = .ok campaign →
    campaign.id = id ∧ campaign.tenant = tenant
  linkedRuleGroups : Matches R (e.campaigns.linkedRuleGroups id) (e'.campaigns.linkedRuleGroups id)
  contacts : ∀ p, Matches R (e.contacts.matching p tenant) (e'.contacts.matching p tenant)
  identified : ∀ s tenant', (e.campaigns.tenant tenant s).1 = .ok tenant' → tenant'.id = tenant
  tenant : Matches R (e.campaigns.tenant tenant) (e'.campaigns.tenant tenant)
  claim : Matches R (e.campaigns.claim id) (e'.campaigns.claim id)
  complete : Matches R (e.campaigns.complete id) (e'.campaigns.complete id)
  cancelRequested : Matches R (e.campaigns.cancelRequested id) (e'.campaigns.cancelRequested id)

namespace Engine

variable {σ : Type} {e e' : Engine σ} {R : σ → σ → Prop}

/-! ### One message -/

/-- What is done over a message concerns its contact. -/
theorem contactId?_of_carry {contact : Contact} {email : OutboundEmail} {place : Nat}
    {channels : List (Channel σ)} {s : σ} {d : Deed}
    (hd : d ∈ (e.carry contact email place channels s).1.1) : d.contactId? = some contact.id := by
  induction channels generalizing place s with
  | nil => cases hd
  | cons channel channels ih =>
    simp only [carry, bind_apply] at hd
    cases hconclude : Failover.conclude channel.name (place + 1) (!channels.isEmpty)
        (channel.send email s).1 with
    | some delivery =>
      rw [hconclude] at hd
      obtain rfl := List.mem_singleton.1 hd
      rfl
    | none =>
      rw [hconclude] at hd
      rcases List.mem_cons.1 hd with rfl | hd
      · rfl
      · exact ih hd

theorem contactId?_of_serve {job : Job} {contact : Contact} {address : String} {s : σ} {d : Deed}
    (hd : d ∈ (e.serve job contact address s).1.1) : d.contactId? = some contact.id := by
  simp only [serve, bind_apply] at hd
  generalize hout : e.carry contact (job.email contact address) 0 e.failover.channels s = out at hd
  have hcarry : ∀ d ∈ out.1.1, d.contactId? = some contact.id := fun d hd => by
    rw [← hout] at hd
    exact contactId?_of_carry hd
  cases hevent : job.event? contact out.1.2.1 out.1.2.2 with
  | some event =>
    rw [hevent] at hd
    rcases List.mem_cons.1 hd with rfl | hd
    · rfl
    · rcases List.mem_append.1 hd with hd | hd
      · exact hcarry d hd
      · obtain rfl := List.mem_singleton.1 hd
        exact congrArg some (Job.contact_of_event? hevent)
  | none =>
    rw [hevent] at hd
    rcases List.mem_cons.1 hd with rfl | hd
    · rfl
    · exact hcarry d hd

/-- A message is not seen if none of the calls for it is. -/
theorem unseen_carry (hclock : Unseen R e.clock) {email : OutboundEmail}
    {channels : List (Channel σ)} (hsend : ∀ c ∈ channels, Unseen R (c.send email))
    (contact : Contact) (place : Nat) : Unseen R (e.carry contact email place channels) := by
  induction channels generalizing place with
  | nil => exact hclock.bind fun _ => unseen_pure _
  | cons channel channels ih =>
    refine (hsend channel List.mem_cons_self).bind fun attempt => hclock.bind fun time => ?_
    cases Failover.conclude channel.name (place + 1) (!channels.isEmpty) attempt with
    | some delivery => exact unseen_pure _
    | none =>
      refine Unseen.bind (ih (fun c hc => hsend c (List.mem_cons_of_mem _ hc)) (place + 1)) ?_
      exact fun _ => unseen_pure _

theorem unseen_serve (hclock : Unseen R e.clock) (hrecord : ∀ event, Unseen R (e.record event))
    {job : Job} {contact : Contact} {address : String}
    (hsend : ∀ c ∈ e.failover.channels, Unseen R (c.send (job.email contact address))) :
    Unseen R (e.serve job contact address) := by
  refine (unseen_carry hclock hsend contact 0).bind fun out => ?_
  cases job.event? contact out.2.1 out.2.2 with
  | some event => exact (hrecord event).bind fun _ => unseen_pure _
  | none => exact unseen_pure _

namespace Peers

variable {hidden : Option String} {logged : Prop}

/-- A message in view is handed to the same channels, and settled in the same way. -/
theorem carry (h : Peers hidden logged R e e') (contact : Contact) {email : OutboundEmail}
    (hshown : email.recipient ∉ hidden) {channels channels' : List (Channel σ)}
    (hchannels : List.Forall₂ (fun c c' => c'.name = c.name ∧
      ∀ email, email.recipient ∉ hidden → Matches R (c.send email) (c'.send email))
      channels channels') (place : Nat) (s s' : σ) (hR : R s s') :
    (e'.carry contact email place channels' s').1.1 =
        (e.carry contact email place channels s).1.1 ∧
      (e'.carry contact email place channels' s').1.2.2 =
        (e.carry contact email place channels s).1.2.2 ∧
      R (e.carry contact email place channels s).2
        (e'.carry contact email place channels' s').2 := by
  induction hchannels generalizing place s s' with
  | nil => exact ⟨rfl, rfl, h.clock_right _ _ (h.clock_left _ _ hR)⟩
  | @cons channel channel' channels channels' hchannel hchannels ih =>
    obtain ⟨hname, hsend⟩ := hchannel
    obtain ⟨hanswer, hR⟩ := hsend email hshown s s' hR
    have hempty : channels'.isEmpty = channels.isEmpty := by
      cases hchannels <;> rfl
    have hR := h.clock_right _ _ (h.clock_left _ _ hR)
    simp only [Engine.carry, bind_apply, hanswer, hname, hempty]
    cases Failover.conclude channel.name (place + 1) (!channels.isEmpty)
      (channel.send email s).1 with
    | some delivery => exact ⟨rfl, rfl, hR⟩
    | none =>
      obtain ⟨hdeeds, hdelivery, hR⟩ := ih (place + 1) _ _ hR
      exact ⟨congrArg (List.cons _) hdeeds, hdelivery, hR⟩

/-- A contact in view is served alike, up to the time and the answer of the log. -/
theorem serve_shown (h : Peers hidden logged R e e') (job : Job) (contact : Contact)
    {address : String} (hshown : address ∉ hidden) {s s' : σ} (hR : R s s') :
    List.Forall₂ (Deed.Alike logged) (e.serve job contact address s).1.1
        (e'.serve job contact address s').1.1 ∧
      (e'.serve job contact address s').1.2 = (e.serve job contact address s).1.2 ∧
      R (e.serve job contact address s).2 (e'.serve job contact address s').2 := by
  have hemail : (job.email contact address).recipient ∉ hidden := hshown
  obtain ⟨hdeeds, hdelivery, hR⟩ :=
    h.carry contact hemail h.channels 0 s s' hR
  simp only [Engine.serve, bind_apply]
  generalize e.carry contact (job.email contact address) 0 e.failover.channels s = out at *
  generalize e'.carry contact (job.email contact address) 0 e'.failover.channels s' = out' at *
  obtain ⟨⟨ds, time, delivery⟩, s⟩ := out
  obtain ⟨⟨ds', time', delivery'⟩, s'⟩ := out'
  obtain rfl : ds' = ds := hdeeds
  obtain rfl : delivery' = delivery := hdelivery
  have hsame : List.Forall₂ (Deed.Alike logged) (.started contact :: ds')
      (.started contact :: ds') :=
    List.forall₂_same.2 fun d _ => .same d
  rcases Job.event?_cases job contact time time' delivery' with
    ⟨hnone, hnone'⟩ | ⟨event, event', hevent, hevent', huntimed⟩
  · rw [hnone, hnone']
    exact ⟨hsame, rfl, hR⟩
  · rw [hevent, hevent']
    have hrecorded : Deed.Alike logged (.recorded event (e.record event s).1)
        (.recorded event' (e'.record event' s').1) :=
      .recorded huntimed fun hlogged => h.record hlogged event event' s s' huntimed hR
    refine ⟨?_, rfl, h.record_right _ _ _ (h.record_left _ _ _ hR)⟩
    exact List.rel_append hsame (.cons hrecorded .nil)

/-- A contact that is kept from view may be served by one dispatch and not by the other. -/
theorem serve_hidden (h : Peers hidden logged R e e') {job : Job} {contact : Contact}
    {address : String} (hhidden : address ∈ hidden) {s s' : σ} (hR : R s s') :
    R (e.serve job contact address s).2 (e'.serve job contact address s').2 := by
  have hleft : Unseen R (e.serve job contact address) :=
    unseen_serve h.clock_left h.record_left fun c hc => h.send_left c hc _ hhidden
  have hright : Unseen (flip R) (e'.serve job contact address) :=
    unseen_serve h.clock_right h.record_right fun c hc => h.send_right c hc _ hhidden
  exact hright _ _ (hleft _ _ hR)

end Peers

namespace Twins

variable {hidden : Option String} {logged : Prop} {id tenant : String}

/-! ### All messages -/

/-- **Two sweeps over the same contacts** do alike what concerns the contacts in view, and count
level. -/
theorem sequel (h : Twins hidden logged R id tenant e e') {veil : String → Bool}
    {contacts : List Contact} (hveil : ∀ contact ∈ contacts, ∀ address,
      contact.address? = some address → (veil contact.id = true ↔ address ∈ hidden))
    {r r' : Run} (hr : r.Level hidden r') (hid : r.job.campaign.id = id) {s s' : σ} (hR : R s s') :
    List.Forall₂ (Deed.Alike logged) (shown veil (e.sequel r contacts s).1.1)
        (shown veil (e'.sequel r' contacts s').1.1) ∧
      (e.sequel r contacts s).1.2.Level hidden (e'.sequel r' contacts s').1.2 ∧
      R (e.sequel r contacts s).2 (e'.sequel r' contacts s').2 := by
  induction contacts generalizing r r' s s' with
  | nil => exact ⟨.nil, hr, hR⟩
  | cons contact contacts ih =>
    have hrest : ∀ contact ∈ contacts, ∀ address, contact.address? = some address →
        (veil contact.id = true ↔ address ∈ hidden) := fun c hc =>
      hveil c (List.mem_cons_of_mem _ hc)
    rw [Engine.sequel, Engine.sequel]
    cases haddress : contact.address? with
    | none => exact ih hrest hr.skip hid hR
    | some address =>
      have hcontact := hveil contact List.mem_cons_self address haddress
      obtain ⟨hanswer, hR⟩ := h.cancelRequested s s' hR
      simp only [bind_apply, hr.job, hid, hanswer]
      cases stopRequested (e.campaigns.cancelRequested id s).1 with
      | true => exact ⟨.nil, ⟨rfl, hr.skipped, rfl, hr.settled, hr.counts⟩, hR⟩
      | false =>
        have hid' : ∀ d : Delivery, (r.counting d).job.campaign.id = id := fun d => by
          rwa [Run.job_counting]
        simp only [Bool.false_eq_true, if_false, bind_apply, pure_apply, shown_append]
        by_cases hshown : address ∈ hidden
        · -- however the message is settled in each, the counts stay level
          have hr' : ∀ d d' : Delivery, (r.counting d).Level hidden (r'.counting d') := fun d d' =>
            hr.counting fun hnone => by
              rw [hnone] at hshown
              cases hshown
          rw [shown_eq_nil (fun d => contactId?_of_serve) (hcontact.2 hshown),
            shown_eq_nil (fun d => contactId?_of_serve) (hcontact.2 hshown)]
          exact ih hrest (hr' _ _) (hid' _) (h.serve_hidden hshown hR)
        · have hnot : veil contact.id = false :=
            Bool.eq_false_iff.2 fun hveiled => hshown (hcontact.1 hveiled)
          obtain ⟨hserved, hdelivery, hR⟩ := h.serve_shown r.job contact hshown hR
          obtain ⟨hdeeds, hlevel, hR⟩ := ih hrest (hr.counting fun _ => hdelivery) (hid' _) hR
          rw [shown_eq_self (fun d => contactId?_of_serve) hnot,
            shown_eq_self (fun d => contactId?_of_serve) hnot]
          exact ⟨List.rel_append hserved hdeeds, hlevel, hR⟩

/-! ### The whole dispatch -/

/-- **From the claim on** two dispatches do alike what concerns the contacts in view, and end on a
level. -/
theorem claiming (h : Twins hidden logged R id tenant e e') (veil : String → Bool)
    (campaign : Campaign) (audience : Audience) (tenant' : Tenant)
    (hveil : ∀ contact ∈ audience.contacts, ∀ address,
      contact.address? = some address → (veil contact.id = true ↔ address ∈ hidden))
    (hid : campaign.id = id) {s s' : σ} (hR : R s s') :
    List.Forall₂ (Deed.Alike logged)
        (shown veil (e.deedsOf (.claiming campaign audience tenant') s))
        (shown veil (e'.deedsOf (.claiming campaign audience tenant') s')) ∧
      (e.finish (.claiming campaign audience tenant') s).1.Level hidden
        (e'.finish (.claiming campaign audience tenant') s').1 ∧
      R (e.finish (.claiming campaign audience tenant') s).2
        (e'.finish (.claiming campaign audience tenant') s').2 := by
  subst hid
  obtain ⟨hanswer, hR⟩ := h.claim s s' hR
  have hlimit : e'.limit = e.limit := by rw [limit, limit, h.concurrency]
  have hclaim := proceeds_claiming (e := e) campaign audience tenant' s
  have hclaim' := proceeds_claiming (e := e') campaign audience tenant' s'
  rw [hanswer] at hclaim'
  by_cases hwon : (e.campaigns.claim campaign.id s).1 = .ok true
  · by_cases hmax : e.limit ≤ maxWorkers
    · have hopening :
          e'.opening campaign audience tenant' = e.opening campaign audience tenant' := by
        rw [opening, opening, h.defaultSender]
      have hwhole := proceeds_won campaign audience tenant' s hwon hmax
      have hwhole' := proceeds_won campaign audience tenant' s' (hanswer.trans hwon)
        (hlimit.symm ▸ hmax)
      obtain ⟨hdeeds, hlevel, hR⟩ := h.sequel hveil
        (Run.Level.refl { e.opening campaign audience tenant' with waiting := [] }) rfl hR
      have hsweep : e'.sweep campaign audience tenant' =
          e'.sequel { e.opening campaign audience tenant' with waiting := [] } audience.contacts := by
        rw [sweep, hopening]
      rw [← hsweep] at hdeeds hlevel hR
      obtain ⟨hanswer, hR⟩ := h.complete _ _ hR
      rw [hwhole.ended.1, hwhole.ended.2, hwhole'.ended.1, hwhole'.ended.2, hanswer]
      refine ⟨?_, .closing hlevel _, hR⟩
      simp only [shown_cons_asked, shown_append]
      exact .cons (.same _) (List.rel_append hdeeds (.cons (.same _) .nil))
    · have hcrash : ∀ e : Engine σ, maxWorkers < e.limit →
          e.claimed campaign audience tenant' (.ok true) = .ended .crashed := by
        intro e hmax
        rw [claimed, start_eq, if_pos hmax]
      rw [hwon, hcrash e (Nat.not_le.1 hmax)] at hclaim
      rw [hwon, hcrash e' (hlimit ▸ Nat.not_le.1 hmax)] at hclaim'
      rw [hclaim.ended.1, hclaim.ended.2, hclaim'.ended.1, hclaim'.ended.2]
      exact ⟨List.forall₂_same.2 fun d _ => .same d, .same _, hR⟩
  · have hlost : ∀ e : Engine σ, ∀ answer : Except CampaignError Bool, answer ≠ .ok true →
        e.claimed campaign audience tenant' answer = .ended (.unclaimed campaign.id answer) := by
      intro e answer hanswer
      rw [claimed]
      exact hanswer
    rw [hlost _ _ hwon] at hclaim hclaim'
    rw [hclaim.ended.1, hclaim.ended.2, hclaim'.ended.1, hclaim'.ended.2]
    exact ⟨List.forall₂_same.2 fun d _ => .same d, .same _, hR⟩

/-- What is known of a stage in which a dispatch of this campaign has not claimed it yet. -/
def Fits (id tenant : String) : Stage → Prop
  | .loading id' _ => id' = id
  | .linking id' campaign => id' = id ∧ campaign.id = id ∧ campaign.tenant = tenant
  | .resolving campaign _ _ | .identifying campaign _ =>
    campaign.id = id ∧ campaign.tenant = tenant
  | .claiming campaign _ tenant' =>
    campaign.id = id ∧ campaign.tenant = tenant ∧ tenant'.id = tenant
  | .sending _ | .completing _ => False
  | .ended _ => True

/-- The contacts of one group join both audiences. -/
theorem addGroup (h : Twins hidden logged R id tenant e e') (audience : Audience) (g : RuleGroup) :
    Matches R (e.contacts.addGroup tenant audience g) (e'.contacts.addGroup tenant audience g) := by
  intro s s' hR
  simp only [ContactSource.addGroup]
  split
  · exact ⟨rfl, hR⟩
  · obtain ⟨hanswer, hR⟩ := h.contacts g.compile s s' hR
    simp only [bind_apply, hanswer]
    cases (e.contacts.matching g.compile tenant s).1 <;> exact ⟨rfl, hR⟩

/-- One step of both up to the claim. -/
theorem early_step (h : Twins hidden logged R id tenant e e') {stage : Stage}
    (hfits : Fits id tenant stage)
    (hclaim : ∀ campaign audience tenant, stage ≠ .claiming campaign audience tenant) {s s' : σ}
    (hR : R s s') :
    (e'.step stage.turn stage s').1 = (e.step stage.turn stage s).1 ∧
      R (e.step stage.turn stage s).2 (e'.step stage.turn stage s').2 ∧
      Fits id tenant (e.step stage.turn stage s).1 ∧ e.deed stage.turn stage s = none ∧
      e'.deed stage.turn stage s' = none := by
  cases stage with
  | sending | completing => exact hfits.elim
  | claiming => exact absurd rfl (hclaim _ _ _)
  | ended ending => exact ⟨rfl, hR, trivial, rfl, rfl⟩
  | loading id' recipients =>
    obtain rfl : id' = id := hfits
    obtain ⟨hanswer, hR'⟩ := h.load s s' hR
    simp only [Stage.turn, step, bind_apply, hanswer]
    cases hload : (e.campaigns.load id' s).1 with
    | error err => exact ⟨rfl, hR', trivial, rfl, rfl⟩
    | ok campaign =>
      have hloaded := h.loaded s s' campaign hR hload
      dsimp only
      split
      · cases recipients with
        | segments => exact ⟨rfl, hR', ⟨rfl, hloaded⟩, rfl, rfl⟩
        | list contacts => exact ⟨rfl, hR', hloaded, rfl, rfl⟩
      · exact ⟨rfl, hR', trivial, rfl, rfl⟩
  | linking id' campaign =>
    obtain ⟨rfl, hcampaign⟩ := hfits
    obtain ⟨hanswer, hR⟩ := h.linkedRuleGroups s s' hR
    simp only [Stage.turn, step, bind_apply, hanswer]
    cases (e.campaigns.linkedRuleGroups id' s).1 with
    | error err => exact ⟨rfl, hR, trivial, rfl, rfl⟩
    | ok groups => exact ⟨rfl, hR, hcampaign, rfl, rfl⟩
  | resolving campaign audience groups =>
    cases groups with
    | nil => exact ⟨rfl, hR, hfits, rfl, rfl⟩
    | cons g gs =>
      obtain ⟨hcampaign, rfl⟩ := hfits
      obtain ⟨hanswer, hR⟩ := h.addGroup audience g s s' hR
      simp only [Stage.turn, step, bind_apply, hanswer]
      cases (e.contacts.addGroup campaign.tenant audience g s).1 with
      | error err => exact ⟨rfl, hR, trivial, rfl, rfl⟩
      | ok audience => exact ⟨rfl, hR, ⟨hcampaign, rfl⟩, rfl, rfl⟩
  | identifying campaign audience =>
    obtain ⟨hcampaign, rfl⟩ := hfits
    obtain ⟨hanswer, hR⟩ := h.tenant s s' hR
    simp only [Stage.turn, step, bind_apply, hanswer]
    cases htenant : (e.campaigns.tenant campaign.tenant s).1 with
    | error err => exact ⟨rfl, hR, trivial, rfl, rfl⟩
    | ok tenant => exact ⟨rfl, hR, ⟨hcampaign, rfl, h.identified _ _ htenant⟩, rfl, rfl⟩

/-- **Up to the claim** two dispatches do nothing, and come to the same: to an end, or to the claim
on behalf of one audience. -/
theorem approach (h : Twins hidden logged R id tenant e e') {stage : Stage} {s s' : σ}
    (hfits : Fits id tenant stage) (hR : R s s') :
    ∃ stage' t t', e.Proceeds stage s [] stage' t ∧ e'.Proceeds stage s' [] stage' t' ∧ R t t' ∧
      Fits id tenant stage' ∧ ((∃ ending, stage' = .ended ending) ∨
        ∃ campaign audience tenant, stage' = .claiming campaign audience tenant) := by
  revert s' hfits
  fun_induction finish e stage s with
  | case1 stage s ending hending =>
    intro s' hfits hR
    cases stage with
    | ended ending' => exact ⟨_, s, s', .refl _ _, .refl _ _, hR, hfits, .inl ⟨_, rfl⟩⟩
    | _ => cases hending
  | case2 stage s hending next =>
    rename_i ih
    intro s' hfits hR
    by_cases hclaim : ∃ campaign audience tenant, stage = .claiming campaign audience tenant
    · exact ⟨stage, s, s', .refl _ _, .refl _ _, hR, hfits, .inr hclaim⟩
    · obtain ⟨hsame, hR, hfits, hnone, hnone'⟩ := h.early_step hfits
        (fun campaign audience tenant heq => hclaim ⟨campaign, audience, tenant, heq⟩) hR
      obtain ⟨stage', t, t', hleft, hright, hrest⟩ := ih hfits hR
      have hleft' := Proceeds.step hending hleft
      have hright' : e'.Proceeds stage s' _ stage' t' := .step hending (hsame ▸ hright)
      rw [hnone] at hleft'
      rw [hnone'] at hright'
      exact ⟨stage', t, t', hleft', hright', hrest⟩

/-- **Two dispatches of one campaign that differ over no address** do alike and end alike. -/
theorem execute (h : Twins none logged R id tenant e e') (recipients : Recipients) {s s' : σ}
    (hR : R s s') :
    List.Forall₂ (Deed.Alike logged) (e.deedsOf (.loading id recipients) s)
        (e'.deedsOf (.loading id recipients) s') ∧
      (e'.execute id recipients s').1 = (e.execute id recipients s).1 ∧
      R (e.execute id recipients s).2 (e'.execute id recipients s').2 := by
  have hloading : Fits id tenant (.loading id recipients) := rfl
  obtain ⟨stage, t, t', hleft, hright, hR, hfits, hend⟩ := h.approach hloading hR
  rw [Engine.execute, Engine.execute, hleft.finish_eq, hright.finish_eq, hleft.deedsOf_eq,
    hright.deedsOf_eq]
  rcases hend with ⟨ending, rfl⟩ | ⟨campaign, audience, tenant', rfl⟩
  · rw [deedsOf_ended, deedsOf_ended, finish_ended, finish_ended]
    exact ⟨.nil, rfl, hR⟩
  · obtain ⟨hdeeds, hlevel, hR⟩ := h.claiming (fun _ => false) campaign audience tenant'
      (fun contact _ address _ => by simp) hfits.1 hR
    rw [shown_none, shown_none] at hdeeds
    exact ⟨hdeeds, hlevel.eq, hR⟩

end Twins
end Engine
end Dispatch
end Mailshot
