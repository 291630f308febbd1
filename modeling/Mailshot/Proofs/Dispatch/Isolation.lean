import Mailshot.Proofs.Dispatch.Alone

/-!
# Recipients have nothing to do with each other

One campaign is dispatched twice from the same store, one contact after the other, in two worlds in
which the channels do differently over the messages to one address, and other events cannot be
appended.  Nobody else could tell (`recipient_isolation`): all that is done over the message to a
contact with another address is the same, up to the time and the answers of the log.  Both
dispatches complete the campaign, and how many messages were sent and how many failed can be told
from what the channels answered.
-/

set_option autoImplicit false

namespace Mailshot
namespace Dispatch

variable {ds ds' : List Deed} {logged : Prop}

/-- Deeds that are alike concern the same contact. -/
theorem Deed.Alike.contactId?_eq {d d' : Deed} (h : Alike logged d d') :
    d'.contactId? = d.contactId? := by
  cases h with
  | same d => rfl
  | recorded hevent =>
    have hcontact := congrArg SendEvent.contact hevent
    exact congrArg some hcontact

/-- What concerns one contact is alike if everything is. -/
theorem alike_filter_isAbout (h : List.Forall₂ (Deed.Alike logged) ds ds') (id : String) :
    List.Forall₂ (Deed.Alike logged) (ds.filter (·.isAbout id)) (ds'.filter (·.isAbout id)) := by
  refine List.rel_filter (fun d d' halike => ?_) h
  show decide (d.contactId? = some id) = true ↔ decide (d'.contactId? = some id) = true
  rw [halike.contactId?_eq]

/-- What concerns a contact in view is shown. -/
theorem filter_isAbout_shown {veil : String → Bool} {id : String} (h : veil id = false) :
    (shown veil ds).filter (·.isAbout id) = ds.filter (·.isAbout id) := by
  rw [shown, List.filter_filter]
  refine List.filter_congr fun d _ => ?_
  cases habout : d.isAbout id with
  | false => rfl
  | true =>
    have hid : d.contactId? = some id := of_decide_eq_true habout
    rw [hid, Option.all_some, h]
    rfl

namespace Outside

/-- The contacts of an audience that have an address. -/
def veilOf (audience : Audience) (address : String) (id : String) : Bool :=
  audience.contacts.any fun contact => contact.id = id && contact.address? = some address

/-- An identifier is that of one contact only, so it is known whether this has the address. -/
theorem veilOf_eq_true_iff {audience : Audience} (hids : audience.ids.Nodup) {address : String}
    {contact : Contact} (hcontact : contact ∈ audience.contacts) :
    veilOf audience address contact.id = true ↔ contact.address? = some address := by
  rw [veilOf, List.any_eq_true]
  constructor
  · rintro ⟨contact', hmem, heq⟩
    simp only [Bool.and_eq_true, decide_eq_true_eq] at heq
    rw [← List.inj_on_of_nodup_map hids hmem hcontact heq.1]
    exact heq.2
  · intro haddress
    exact ⟨contact, hcontact, by simp [haddress]⟩

variable {μ : Type} {o o' : Outside μ} {M : μ → μ → Prop}

/-- A store with a campaign that can be dispatched agrees with itself on the campaign. -/
theorem near_self {id : String} {recipients : Recipients} {c : Connection}
    (h : c.Awaits id recipients) {m m' : μ} (hM : M m m') :
    ∃ tenant, Near tenant id M (c, m) (c, m') := by
  obtain ⟨-, campaign, _, hload, -⟩ := h
  obtain ⟨r, hfind, -⟩ := Store.row_of_load hload
  refine ⟨r.tenant, .refl fun r' hfind' => ?_, rfl, hM⟩
  rw [hfind] at hfind'
  cases hfind'
  rfl

/-- From the claim on, whatever is done over the message to a contact with another address is the
same in worlds that do the same for other addresses. -/
theorem Alike.filter_isAbout {address : String} (h : Alike (some address) logged M o o')
    {id tenant : String} {concurrency : Nat} {defaultSender : Option String}
    {s s' : Connection × μ} (hnear : Near tenant id M s s') {campaign : Campaign}
    {audience : Audience} {tenant' : Tenant} (hid : campaign.id = id) (hids : audience.ids.Nodup)
    {contact : Contact} (hcontact : contact ∈ audience.contacts)
    (haddress : contact.address? ≠ some address) :
    List.Forall₂ (Deed.Alike logged)
      (((o.engine id concurrency defaultSender).deedsOf
        (.claiming campaign audience tenant') s).filter (·.isAbout contact.id))
      (((o'.engine id concurrency defaultSender).deedsOf
        (.claiming campaign audience tenant') s').filter (·.isAbout contact.id)) := by
  have hveil : ∀ contact ∈ audience.contacts, ∀ address', contact.address? = some address' →
      (veilOf audience address contact.id = true ↔ address' ∈ some address) := by
    intro contact hcontact address' haddress'
    rw [veilOf_eq_true_iff hids hcontact, haddress']
    simp [eq_comm]
  have hshown : veilOf audience address contact.id = false :=
    Bool.eq_false_iff.2 fun hveiled => haddress ((veilOf_eq_true_iff hids hcontact).1 hveiled)
  obtain ⟨halike, -, -⟩ := (h.twins tenant id concurrency defaultSender).claiming
    (veilOf audience address) campaign audience tenant' hveil hid hnear
  have hfiltered := alike_filter_isAbout halike contact.id
  rwa [filter_isAbout_shown hshown, filter_isAbout_shown hshown] at hfiltered

/-- **Recipients are isolated from each other and from the log.**  A campaign is dispatched from one
store in two worlds that do the same (`Alike`) but for what the channels do over messages to one
address and for which events cannot be appended; nobody asks for a stop.  If the campaign cannot be
dispatched, nothing is done and both dispatches end in the same way.  Otherwise both end with the
campaign completed.  The same contacts are skipped and workers are started for the same, and
whatever is done over the message to a contact with another address is the same in both, up to the
time of its event and the answer of the log.  The numbers of either report are those of the messages
that were taken by the channels and those that were not, so if all channels did the same after all,
it is the same report. -/
theorem recipient_isolation {address : String} (h : Alike (some address) False M o o')
    (hgo : ¬ o.MayStop) (hgo' : ¬ o'.MayStop) {id : String} {c : Connection}
    (hcancel : c.store.cancelRequested id ≠ .ok true) {m m' : μ} (hM : M m m') {concurrency : Nat}
    (hlimit : max 1 concurrency ≤ maxWorkers) (defaultSender : Option String)
    (recipients : Recipients) :
    let e := o.engine id concurrency defaultSender
    let e' := o'.engine id concurrency defaultSender
    let ds := e.deedsOf (.loading id recipients) (c, m)
    let ds' := e'.deedsOf (.loading id recipients) (c, m')
    (¬ c.Awaits id recipients ∧ ds = [] ∧ ds' = [] ∧
      (e'.execute id recipients (c, m')).1 = (e.execute id recipients (c, m)).1) ∨
    ∃ (audience : Audience) (report report' : Report),
      (e.execute id recipients (c, m)).1 = .answered (.ok report) ∧
      (e'.execute id recipients (c, m')).1 = .answered (.ok report') ∧
      (e.execute id recipients (c, m)).2.1.store.status? id = some Status.completed.name ∧
      (e'.execute id recipients (c, m')).2.1.store.status? id = some Status.completed.name ∧
      report'.audienceSize = report.audienceSize ∧ report'.skipped = report.skipped ∧
      (∀ contact ∈ audience.contacts, contact.address? ≠ some address →
        List.Forall₂ (Deed.Alike False) (ds.filter (·.isAbout contact.id))
          (ds'.filter (·.isAbout contact.id))) ∧
      report.Covers id audience ds ∧ report'.Covers id audience ds' ∧
      (calledIn ds' = calledIn ds → report' = report) := by
  intro e e' ds ds'
  rcases beginning μ id recipients c with
    ⟨hnot, ending, hway⟩ | ⟨hawaits, campaign, audience, tenant, hload, -, -, hway⟩
  · obtain ⟨hds, hfinish⟩ := (hway o concurrency defaultSender m).ended
    obtain ⟨hds', hfinish'⟩ := (hway o' concurrency defaultSender m').ended
    refine .inl ⟨hnot, hds, hds', ?_⟩
    rw [Engine.execute, Engine.execute, hfinish, hfinish']
  · have hid := Store.id_of_load hload
    have hbegun := hway o concurrency defaultSender m
    have hbegun' := hway o' concurrency defaultSender m'
    have hids : audience.ids.Nodup := hbegun.path.indexed.nodup_ids
    obtain ⟨_, r, _, _, -, -, hending, hcovers, hstatus⟩ :=
      completes hgo hawaits hcancel hlimit hid hbegun.runs_execute
    obtain ⟨_, r', _, _, -, -, hending', hcovers', hstatus'⟩ :=
      completes hgo' hawaits hcancel hlimit hid hbegun'.runs_execute
    obtain ⟨tenant', hnear⟩ := near_self hawaits hM
    refine .inr ⟨audience, r.report, r'.report, hending, hending', hstatus, hstatus',
      hcovers'.audienceSize.trans hcovers.audienceSize.symm,
      hcovers'.skipped.trans hcovers.skipped.symm,
      fun contact hcontact haddress => ?_, hcovers, hcovers',
      fun hcalled => hcovers.report_eq hcovers' (hcalled ▸ .refl _)⟩
    have hds : ds = e.deedsOf (.claiming campaign audience tenant) (c, m) := hbegun.deedsOf_eq
    have hds' : ds' = e'.deedsOf (.claiming campaign audience tenant) (c, m') := hbegun'.deedsOf_eq
    rw [hds, hds']
    exact h.filter_isAbout hnear hid hids hcontact haddress

end Outside

namespace Sample

/-- A world in which the channel breaks down over the messages to one address, and no event can be
appended. -/
def hostile : Outside Unit where
  channels := [("console", fun email =>
    if email.recipient = "a@shop.test" then pure (.crashed, false)
    else pure (.accepted ⟨"console", none, true⟩, false))]
  size_bounds := by decide
  refuses _ := pure (some (.store .closed))
  clock := pure default
  now _ := now

theorem alike_hostile :
    Outside.Alike (some "a@shop.test") False (fun _ _ => True) outside hostile where
  channels := .cons ⟨rfl, fun email hother _ _ _ => by
    have hne : ¬ email.recipient = "a@shop.test" := fun heq => hother (heq ▸ rfl)
    dsimp only
    rw [if_neg hne]
    exact ⟨rfl, trivial⟩⟩ .nil
  send_left c hc email _ := by
    obtain rfl := List.mem_singleton.1 hc
    exact ⟨fun _ _ _ => trivial, fun _ => rfl⟩
  send_right c hc email _ := by
    obtain rfl := List.mem_singleton.1 hc
    refine ⟨fun _ _ _ => trivial, fun m => ?_⟩
    dsimp only
    split <;> rfl
  refuses hlogged := hlogged.elim
  refuses_left _ _ _ _ := trivial
  refuses_right _ _ _ _ := trivial
  clock_left _ _ _ := trivial
  clock_right _ _ _ := trivial

/-- Two contacts that can be written to, of which one has this address, and one that cannot. -/
def trio : List Contact :=
  [{ Contact.ofIdentity "a" "t" with email := some "a@shop.test" },
    { Contact.ofIdentity "b" "t" with email := some "b@shop.test" }, .ofIdentity "d" "t"]

end Sample

/-- The draft is completed in a friendly world and in a hostile one, with as many contacts skipped.
The contact with another address is written to once in either of them. -/
theorem Outside.recipient_isolation_of_hostile :
    let e := Sample.outside.engine Sample.campaign.id 1 none
    let e' := Sample.hostile.engine Sample.campaign.id 1 none
    let ds := e.deedsOf (.loading Sample.campaign.id (.list Sample.trio)) (Sample.connection, ())
    let ds' := e'.deedsOf (.loading Sample.campaign.id (.list Sample.trio)) (Sample.connection, ())
    ∃ report report' : Report,
      (e.execute Sample.campaign.id (.list Sample.trio) (Sample.connection, ())).1 =
        .answered (.ok report) ∧
      (e'.execute Sample.campaign.id (.list Sample.trio) (Sample.connection, ())).1 =
        .answered (.ok report') ∧
      report'.skipped = report.skipped ∧
      (calledIn (ds.filter (·.isAbout "b"))).map (·.1.id) = ["b"] ∧
      List.Forall₂ (Deed.Alike False) (ds.filter (·.isAbout "b")) (ds'.filter (·.isAbout "b")) := by
  intro e e' ds ds'
  have hgo : ¬ Sample.hostile.MayStop := by
    rintro ⟨c, hc, email, m, hstop⟩
    obtain rfl := List.mem_singleton.1 hc
    dsimp only at hstop
    split at hstop <;> cases hstop
  have hcancel : Sample.connection.store.cancelRequested Sample.campaign.id ≠ .ok true := by decide
  have hlimit : max 1 1 ≤ maxWorkers := by decide
  have hmemory : (fun _ _ : Unit => True) () () := trivial
  rcases Outside.recipient_isolation Sample.alike_hostile Sample.not_mayStop_outside hgo
    hcancel hmemory hlimit none (.list Sample.trio) with
    ⟨hnot, -⟩ | ⟨audience, report, report', h, h', -, -, -, hskipped, hothers, hcovers, -⟩
  · exact absurd (Sample.awaits_campaign _) hnot
  · have hds : ds = _ := (Sample.proceeds_given Sample.trio).ended.1
    have hstarted : startedIn ds = Sample.trio.take 2 := by
      rw [hds]
      rfl
    have hcalled : (calledIn (ds.filter (·.isAbout "b"))).map (·.1.id) = ["b"] := by
      rw [hds]
      rfl
    -- whoever was started belongs to the audience
    have hmem : { Contact.ofIdentity "b" "t" with email := some "b@shop.test" } ∈
        audience.contacts := by
      refine (List.mem_filter.1 (?_ : _ ∈ audience.contacts.filter (·.address?.isSome))).1
      rw [← hcovers.started, hstarted]
      exact List.mem_cons_of_mem _ List.mem_cons_self
    exact ⟨report, report', h, h', hskipped, hcalled, hothers _ hmem (by decide)⟩

end Dispatch
end Mailshot
