import Mailshot.Proofs.Dispatch.Errand
import Mailshot.Proofs.Dispatch.Lawful

/-!
# What contacts and the log are told

The message to a contact is made of the campaign, its tenant and the contact, and the event in the
log says what became of it.  What can go wrong is that things get mixed up, as many workers are at
work at once and the event is put together when the message has been through several hands.

`Reports` says what an event has to say about the calls for one message, and
`reports_of_event?` that it does once these calls have come to an end.  Since all that is done
about a contact is one errand (`Path.tended`), this holds for each of them by itself, in whatever
order turns are had (`Path.messages_told`).
-/

set_option autoImplicit false

namespace Mailshot
namespace Dispatch

open Failover (Tries)

/-! ## The sender -/

/-- Of some names this is the first one that is not blank, or there is none. -/
def IsFirstName (names : List (Option String)) (first : Option String) : Prop :=
  (∃ before name after, names = before ++ some name :: after ∧
    (∀ n ∈ before, n.all blank = true) ∧ blank name = false ∧ first = some name) ∨
  (∀ n ∈ names, n.all blank = true) ∧ first = none

theorem isFirstName_firstName? (names : List (Option String)) :
    IsFirstName names (firstName? names) := by
  induction names with
  | nil => exact .inr ⟨fun _ hn => absurd hn List.not_mem_nil, rfl⟩
  | cons n names ih =>
    by_cases hblank : n.all blank = true
    · have hskip : firstName? (n :: names) = firstName? names := by
        rw [firstName?, List.findSome?_cons]
        cases n with
        | none => rfl
        | some name =>
          have hname : blank name = true := hblank
          rw [Option.filter_some, hname]
          rfl
      rw [hskip]
      rcases ih with ⟨before, name, after, rfl, hbefore, hname, hfirst⟩ | ⟨hall, hfirst⟩
      · exact .inl ⟨n :: before, name, after, rfl, List.forall_mem_cons.2 ⟨hblank, hbefore⟩, hname,
          hfirst⟩
      · exact .inr ⟨List.forall_mem_cons.2 ⟨hblank, hall⟩, hfirst⟩
    · cases n with
      | none => exact absurd rfl hblank
      | some name =>
        have hname : blank name = false := Bool.eq_false_iff.2 hblank
        refine .inl ⟨[], name, names, rfl, fun _ hn => absurd hn List.not_mem_nil, hname, ?_⟩
        rw [firstName?, List.findSome?_cons, Option.filter_some, hname]
        rfl

/-! ## The event -/

/-- An event says what came of these calls of channels with these names. -/
structure Reports (names : List String) (calls : List Failover.Call) (event : SendEvent) :
    Prop where
  /-- It says that the message was sent just if a channel took it. -/
  sent_iff : event.kind = .sent ↔ ∃ call ∈ calls, ∃ receipt, call.attempt = .accepted receipt
  /-- Then it has the details from the channel that did. -/
  sent : ∀ call ∈ calls, ∀ receipt, call.attempt = .accepted receipt →
    event.messageId = receipt.messageId ∧
      event.metadata = some (.object [("attempts", .number (.ofNat calls.length)),
        ("channel", .string receipt.channel), ("mock", .bool receipt.mock)])
  /-- Otherwise it has the error of the last channel that was called, and its name. -/
  failed : event.kind ≠ .sent → event.kind = .failed ∧ event.messageId = none ∧
    ∃ earlier last error name, calls = earlier ++ [last] ∧ last.attempt = .refused error ∧
      names[last.place]? = some name ∧
      event.metadata = some (.object [("attempts", .number (.ofNat calls.length)),
        ("channel", .string name), ("error", .string error.message)])

/-- The event of a message that is settled reports the calls for it. -/
theorem reports_of_event? {names : List String} {email : OutboundEmail}
    {calls : List Failover.Call} {d : Delivery} (h : Tries names email calls (some d)) {job : Job}
    {contact : Contact} {time : Instant} {event : SendEvent}
    (hevent : job.event? contact time d = some event) : Reports names calls event := by
  have hplaces := h.map_place
  obtain ⟨earlier, last, rfl, hexact⟩ := h.isExact
  have hmem : last ∈ earlier ++ [last] := by simp
  have hlength : (earlier ++ [last]).length = earlier.length + 1 := by simp
  cases d with
  | crashed => cases hevent
  | accepted receipt attempts =>
    cases hevent
    obtain ⟨hlast, rfl⟩ := (hexact.accepted_iff receipt attempts).1 rfl
    constructor
    · exact ⟨fun _ => ⟨last, hmem, receipt, hlast⟩, fun _ => rfl⟩
    · intro call hcall receipt' haccepted
      rw [hexact.eq_last hcall haccepted, hlast] at haccepted
      cases haccepted
      exact ⟨rfl, by rw [hlength]; rfl⟩
    · exact fun hkind => absurd rfl hkind
  | failed error name attempts =>
    cases hevent
    obtain ⟨hlast, hname, rfl⟩ := (hexact.failed_iff error name attempts).1 rfl
    have hnone : ∀ call ∈ earlier ++ [last], ∀ receipt, call.attempt ≠ .accepted receipt := by
      intro call hcall receipt haccepted
      rw [hexact.eq_last hcall haccepted, hlast] at haccepted
      cases haccepted
    have hplace : last.place = earlier.length := by
      rw [hlength, List.map_append, List.range_succ] at hplaces
      exact (List.cons.inj (List.append_inj_right' hplaces rfl)).1
    constructor
    · exact ⟨nofun,
        fun ⟨call, hcall, receipt, haccepted⟩ => absurd haccepted (hnone call hcall receipt)⟩
    · exact fun call hcall receipt haccepted => absurd haccepted (hnone call hcall receipt)
    · exact fun _ => ⟨rfl, rfl, earlier, last, error, name, rfl, hlast, hplace ▸ hname,
        by rw [hlength]; rfl⟩

/-! ## One contact -/

/-- What a channel was called with. -/
def Deed.call? : Deed → Option Failover.Call
  | called _ email place attempt => some ⟨place, email, attempt⟩
  | _ => none

/-- The calls of channels, in order. -/
def callsIn (ds : List Deed) : List Failover.Call := ds.filterMap Deed.call?

@[simp] theorem callsIn_nil : callsIn [] = [] := rfl

@[simp] theorem callsIn_cons (d : Deed) (ds : List Deed) :
    callsIn (d :: ds) = d.call?.toList ++ callsIn ds := filterMap_cons_eq _ d ds

@[simp] theorem callsIn_append (ds ds' : List Deed) :
    callsIn (ds ++ ds') = callsIn ds ++ callsIn ds' := List.filterMap_append

@[simp] theorem callsIn_map_ofCall (contact : Contact) (calls : List Failover.Call) :
    callsIn (calls.map (.ofCall contact)) = calls := by
  rw [callsIn, List.filterMap_map]
  exact List.filterMap_some

@[simp] theorem recordedIn_map_ofCall (contact : Contact) (calls : List Failover.Call) :
    recordedIn (calls.map (.ofCall contact)) = [] :=
  List.filterMap_eq_nil_iff.2 fun d hd => by
    obtain ⟨call, -, rfl⟩ := List.mem_map.1 hd
    rfl

/-- An event is about its campaign and its contact. -/
theorem Job.of_event? {job : Job} {contact : Contact} {time : Instant} {d : Delivery}
    {event : SendEvent} (h : job.event? contact time d = some event) :
    event.campaign = job.campaign.id ∧ event.tenant = job.tenant.id ∧
      event.contact = contact.id := by
  cases d <;> cases h <;> exact ⟨rfl, rfl, rfl⟩

/-- There is one unless a channel broke down. -/
theorem Job.event?_eq_none {names : List String} {email : OutboundEmail}
    {calls : List Failover.Call} {d : Delivery} (h : Tries names email calls (some d)) (job : Job)
    (contact : Contact) (time : Instant) :
    job.event? contact time d = none ↔ ∃ call ∈ calls, call.attempt = .crashed := by
  obtain ⟨earlier, last, rfl, hexact⟩ := h.isExact
  rw [← hexact.eq_crashed_iff]
  cases d <;> simp [event?]

/-- What is told in the errand of a worker. -/
theorem Errand.told {names : List String} {job : Job} {contact : Contact} {ds : List Deed}
    {w : Option Worker} (h : Errand names job contact ds w) :
    ∃ address, contact.address? = some address ∧
      (∀ call ∈ callsIn ds, call.email = job.email contact address) ∧
      (∀ event ∈ recordedIn ds, event.campaign = job.campaign.id ∧ event.tenant = job.tenant.id ∧
        event.contact = contact.id ∧ Reports names (callsIn ds) event) ∧
      (recordedIn ds).length ≤ 1 ∧
      (w = none → ((recordedIn ds).length = 1 ↔
        ∀ call ∈ callsIn ds, call.attempt ≠ .crashed)) := by
  cases h with
  | @calling address haddress calls h =>
    simp only [callsIn_cons, callsIn_map_ofCall, recordedIn_cons, recordedIn_map_ofCall]
    exact ⟨address, haddress, h.email_eq, fun _ hevent => absurd hevent List.not_mem_nil,
      Nat.zero_le _, nofun⟩
  | @settled address haddress calls d h time =>
    simp only [callsIn_cons, callsIn_map_ofCall, recordedIn_cons, recordedIn_map_ofCall]
    refine ⟨address, haddress, h.email_eq, fun _ hevent => absurd hevent List.not_mem_nil,
      Nat.zero_le _, fun hlost => ?_⟩
    obtain ⟨call, hcall, hcrashed⟩ :=
      (Job.event?_eq_none h job contact time).1 (Option.map_eq_none_iff.1 hlost)
    exact ⟨nofun, fun hall => absurd hcrashed (hall call hcall)⟩
  | @recorded address haddress calls d h time event hevent answer =>
    have hcalls : callsIn (.started contact :: calls.map (.ofCall contact) ++
        [.recorded event answer]) = calls := by simp [Deed.call?]
    have hevents : recordedIn (.started contact :: calls.map (.ofCall contact) ++
        [.recorded event answer]) = [event] := by simp [Deed.recorded?]
    have hwell : ∀ call ∈ calls, call.attempt ≠ .crashed := by
      intro call hcall hcrashed
      rw [(Job.event?_eq_none h job contact time).2 ⟨call, hcall, hcrashed⟩] at hevent
      cases hevent
    rw [hcalls, hevents]
    refine ⟨address, haddress, h.email_eq, fun event' hmem => ?_, Nat.le_refl 1,
      fun _ => ⟨fun _ => hwell, fun _ => rfl⟩⟩
    rw [List.mem_singleton.1 hmem]
    obtain ⟨hcampaign, htenant, hcontact⟩ := Job.of_event? hevent
    exact ⟨hcampaign, htenant, hcontact, reports_of_event? h hevent⟩

/-! ## Any dispatch -/

namespace Engine

variable {σ : Type} {e : Engine σ}

/-- What is stored under an identifier has this identifier. -/
structure Identifies (e : Engine σ) : Prop where
  load : ∀ id s campaign, (e.campaigns.load id s).1 = .ok campaign → campaign.id = id
  tenant : ∀ id s tenant, (e.campaigns.tenant id s).1 = .ok tenant → tenant.id = id

/-- So it is in the store. -/
theorem identifies_ofStore (now : Connection → String) (failover : Failover Connection)
    (clock : StateM Connection Instant) (concurrency : Nat) (defaultSender : Option String) :
    (Engine.ofStore now failover clock concurrency defaultSender).Identifies where
  load _ _ _ h := Store.id_of_load (of_read_fst h).2
  tenant _ _ _ h := Store.id_of_tenant (of_read_fst h).2

theorem Goes.before_claiming {a : Stage} {d : Option Deed} {campaign : Campaign}
    {audience : Audience} {tenant : Tenant}
    (h : e.Goes a d (.claiming campaign audience tenant)) :
    a = .claiming campaign audience tenant ∨ a = .identifying campaign audience := by
  cases h with
  | rest => exact .inl rfl
  | identify => exact .inr rfl

theorem tenant_of_step {campaign : Campaign} {audience : Audience} {tenant : Tenant} {turn : Turn}
    {s : σ} (h : (e.step turn (.identifying campaign audience) s).1 =
      .claiming campaign audience tenant) :
    (e.campaigns.tenant campaign.tenant s).1 = .ok tenant := by
  cases turn with
  | worker i => cases h
  | dispatcher =>
    simp only [step, bind_apply] at h
    cases htenant : (e.campaigns.tenant campaign.tenant s).1 with
    | error err =>
      rw [htenant] at h
      cases h
    | ok tenant' =>
      rw [htenant] at h
      cases h
      rfl

/-- The tenant for which a campaign is claimed was read as that of the campaign. -/
theorem Path.exists_tenant {id : String} {recipients : Recipients} {campaign : Campaign}
    {audience : Audience} {tenant : Tenant} {ds : List Deed}
    (h : e.Path (.loading id recipients) ds (.claiming campaign audience tenant)) :
    ∃ s, (e.campaigns.tenant campaign.tenant s).1 = .ok tenant := by
  generalize hstage : Stage.claiming campaign audience tenant = stage at h
  induction h with
  | refl => cases hstage
  | @step ds now h turn s ih =>
    have hgoes := e.goes_step turn now s
    rw [← hstage] at hgoes
    rcases hgoes.before_claiming with rfl | rfl
    · exact ih rfl
    · exact ⟨s, tenant_of_step hstage.symm⟩

/-- **Messages and events say what happened**, in whatever order turns are had.  The campaign and
its tenant are those that were read.  Whatever is done about anybody is done about a contact whose
worker was started.  All channels that its message is handed to are handed the message that the
campaign, the tenant and this contact make, and all events that are recorded about it report these
calls.  There is one event at most, and in the end there is one just if no channel broke down. -/
theorem Path.messages_told {id : String} {recipients : Recipients} {campaign : Campaign}
    {audience : Audience} {tenant : Tenant} {ds : List Deed} {stage : Stage}
    (hbefore : e.Path (.loading id recipients) [] (.claiming campaign audience tenant))
    (h : e.Path (.claiming campaign audience tenant) ds stage) :
    (∃ s, (e.campaigns.load id s).1 = .ok campaign) ∧
      (∃ s, (e.campaigns.tenant campaign.tenant s).1 = .ok tenant) ∧
      (e.Identifies → campaign.id = id ∧ tenant.id = campaign.tenant) ∧
      (∀ d ∈ ds, ∀ contactId, d.contactId? = some contactId →
        ∃ contact ∈ startedIn ds, contact.id = contactId) ∧
      ∀ contact ∈ startedIn ds, ∃ email sender,
        contact.email = some email ∧
        IsFirstName [campaign.fromName, some tenant.name, e.defaultSender] sender ∧
        (∀ call ∈ callsIn (doneFor contact.id ds), call.email = {
          recipient := trim email
          subject := Template.personalize campaign.subject contact tenant
          html := Template.personalize campaign.body contact tenant
          senderName := sender
          replyTo := campaign.replyTo }) ∧
        (∀ event ∈ recordedIn (doneFor contact.id ds), event.campaign = campaign.id ∧
          event.tenant = tenant.id ∧ event.contact = contact.id ∧
          Reports e.failover.names (callsIn (doneFor contact.id ds)) event) ∧
        (recordedIn (doneFor contact.id ds)).length ≤ 1 ∧
        ∀ ending, stage = .ended ending → ((recordedIn (doneFor contact.id ds)).length = 1 ↔
          ∀ call ∈ callsIn (doneFor contact.id ds), call.attempt ≠ .crashed) := by
  obtain ⟨s, htenant⟩ := hbefore.exists_tenant
  have htended := h.tended hbefore.indexed.nodup_ids
  obtain ⟨s', hload⟩ := hbefore.reads
  refine ⟨⟨s', hload⟩, ⟨s, htenant⟩, fun hidentifies => ?_, fun d hd contactId hid => ?_,
    fun contact hcontact => ?_⟩
  · exact ⟨hidentifies.load id s' campaign hload,
      hidentifies.tenant campaign.tenant s tenant htenant⟩
  · exact List.mem_map.1 (htended.known d hd contactId hid)
  · obtain ⟨w, herrand, hworkers⟩ := htended.errand contact hcontact
    obtain ⟨address, haddress, hcalls, hevents, hone, hover⟩ := herrand.told
    obtain ⟨haddress, -⟩ := Option.filter_eq_some_iff.1 haddress
    obtain ⟨email, hemail, rfl⟩ := Option.map_eq_some_iff.1 haddress
    refine ⟨email, _, hemail, isFirstName_firstName? _, hcalls, hevents, hone,
      fun ending hended => hover ?_⟩
    rw [hended] at hworkers
    exact Option.toList_eq_nil_iff.1 hworkers.symm

/-- Of two contacts the one with an address is written to, and its event says that this was so. -/
theorem Path.messages_told_of_one :
    ∃ ds ending, (Sample.engine .console 1).Path (.loading "c" (.list Sample.contacts)) []
        (.claiming Sample.campaign (.ofList Sample.contacts) Sample.tenant) ∧
      (Sample.engine .console 1).Path
        (.claiming Sample.campaign (.ofList Sample.contacts) Sample.tenant) ds (.ended ending) ∧
      (startedIn ds).map (·.id) = ["a"] ∧
      ∀ contact ∈ startedIn ds, (recordedIn (doneFor contact.id ds)).length = 1 ∧
        ∀ event ∈ recordedIn (doneFor contact.id ds), event.kind = .sent ∧ event.tenant = "t" := by
  have hbefore : (Sample.engine .console 1).Path (.loading "c" (.list Sample.contacts)) []
      (.claiming Sample.campaign (.ofList Sample.contacts) Sample.tenant) :=
    path_follow [.dispatcher, .dispatcher] _ Sample.connection
  have hafter := path_follow (e := Sample.engine .console 1)
    [.dispatcher, .dispatcher, .dispatcher, .worker 0, .worker 0, .dispatcher, .dispatcher,
      .dispatcher]
    (.claiming Sample.campaign (.ofList Sample.contacts) Sample.tenant) Sample.connection
  generalize hrun : ((Sample.engine .console 1).follow _ _ _).1 = run at hafter
  have hending : run.2 = .ended (.answered (.ok ⟨"c", .completed, 2, 1, 0, 1⟩)) := by
    rw [← hrun]
    rfl
  have hstarted : (startedIn run.1).map (·.id) = ["a"] := by
    rw [← hrun]
    rfl
  have haccepted : (callsIn (doneFor "a" run.1)).map (·.attempt) =
      [.accepted ⟨"console", none, true⟩] := by
    rw [← hrun]
    rfl
  rw [hending] at hafter
  obtain ⟨-, -, hidentified, -, htold⟩ := messages_told hbefore hafter
  have htenant := (hidentified (identifies_ofStore _ _ _ _ _)).2
  refine ⟨run.1, _, hbefore, hafter, hstarted, fun contact hcontact => ?_⟩
  obtain ⟨_, _, -, -, -, hevents, -, hone⟩ := htold contact hcontact
  have hid : contact.id = "a" := by
    have hmem := List.mem_map_of_mem (f := (·.id)) hcontact
    rw [hstarted] at hmem
    exact List.mem_singleton.1 hmem
  rw [hid] at hevents hone ⊢
  obtain ⟨call, hcall, hattempt⟩ := List.mem_map.1 (haccepted ▸ List.mem_singleton.2 rfl)
  refine ⟨(hone _ rfl).2 fun call' hcall' hcrashed => ?_, fun event hevent => ?_⟩
  · have hmem := List.mem_map_of_mem (f := (·.attempt)) hcall'
    rw [haccepted, hcrashed] at hmem
    cases List.mem_singleton.1 hmem
  · obtain ⟨-, hsame, -, hreports⟩ := hevents event hevent
    exact ⟨hreports.sent_iff.2 ⟨call, hcall, _, hattempt⟩, hsame.trans htenant⟩

end Engine

end Dispatch
end Mailshot
