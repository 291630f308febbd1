import Mailshot.Proofs.Dispatch.Calm
import Mailshot.Proofs.Dispatch.Outside
import Mailshot.Proofs.Dispatch.Recipients
import Mailshot.Proofs.Dispatch.Report

/-!
# A dispatch that has the store to itself

What becomes of a dispatch depends on the store at the beginning, if nobody else has access to it
and no channel may ask for a stop.  It ends before its claim, for a reason that lies in the store,
or it gets its campaign (`Outside.beginning`); from then on its campaign can be completed
(`Outside.calm`).  Neither has to do with the world outside.
-/

set_option autoImplicit false

namespace Mailshot

/-- The contacts that a campaign goes to can be found: they are given, or no rows of the tenant hold
bytes, or no group makes anybody read them. -/
def Store.CanFind (s : Store) (id tenant : String) : Dispatch.Recipients → Prop
  | .list _ => True
  | .segments => s.holdsBytes tenant = true → ∀ g ∈ s.linkedRuleGroups id, g.compile.isNever = true

/-- The contacts that a campaign of a tenant may go to: those that are given, whosever they are, or
those of the tenant. -/
def Dispatch.Recipients.candidates (s : Store) (tenant : String) :
    Dispatch.Recipients → List Contact
  | .list contacts => contacts
  | .segments => s.contactsOf tenant

namespace Connection

/-- There is a campaign that can be dispatched, of a tenant that is known, to contacts that can be
found. -/
def Awaits (id : String) (recipients : Dispatch.Recipients) (c : Connection) : Prop :=
  c.isOpen = true ∧ ∃ campaign tenant, c.store.load id = .ok campaign ∧
    campaign.status.isSendable = true ∧ c.store.tenant campaign.tenant = .ok tenant ∧
    c.store.CanFind id campaign.tenant recipients

/-- A campaign is being sent, and can be completed. -/
def Underway (id : String) (c : Connection) : Prop :=
  c.isOpen = true ∧ c.store.status? id = some Status.sending.name

/-- A campaign is being sent, and nobody asked for that to stop. -/
def IsSending (id : String) (c : Connection) : Prop :=
  c.isOpen = true ∧ ∃ r, c.store.campaigns.find? id = some r ∧
    r.status = Status.sending.name ∧ r.cancelRequested = false

namespace Awaits

variable {id : String} {recipients : Dispatch.Recipients} {c : Connection}

/-- A campaign that can be dispatched can be claimed. -/
theorem claim_store (h : c.Awaits id recipients) (now : String) :
    (c.store.claim id now).1 = true := by
  obtain ⟨-, campaign, tenant, hload, hsendable, -⟩ := h
  obtain ⟨r, hfind, hparse, -, -, -⟩ := Store.row_of_load hload
  rw [Store.claim_fst, Store.status?, hfind, Option.map_some, Status.eq_name_of_ofName? hparse]
  cases hstatus : campaign.status with
  | draft => exact .inl rfl
  | scheduled => exact .inr rfl
  | sending | completed =>
    rw [hstatus] at hsendable
    cases hsendable

/-- It is claimed by whoever asks for it. -/
theorem claim_underway (h : c.Awaits id recipients) (now : String) :
    (Connection.claim id now c).1 = .ok true ∧ (Connection.claim id now c).2.Underway id := by
  rw [Connection.claim, call, if_pos h.1, h.claim_store]
  refine ⟨rfl, h.1, ?_⟩
  show (c.store.claim id now).2.status? id = _
  rw [Store.status?_claim, if_pos ⟨h.claim_store now, rfl⟩]

/-- So it is when nobody asked for a stop. -/
theorem claim (h : c.Awaits id recipients) (hgo : c.store.cancelRequested id ≠ .ok true)
    (now : String) :
    (Connection.claim id now c).1 = .ok true ∧ (Connection.claim id now c).2.IsSending id := by
  have hclaim := h.claim_store now
  obtain ⟨hopen, campaign, tenant, hload, -, -⟩ := h
  obtain ⟨r, hfind, -, -, -, -⟩ := Store.row_of_load hload
  have hflag : r.cancelRequested = false := by
    rw [Store.cancelRequested, hfind] at hgo
    exact Bool.eq_false_iff.2 fun heq => hgo (congrArg Except.ok heq)
  have hrow : (c.store.claim id now).2.campaigns.find? id =
      some { r with status := Status.sending.name, updatedAt := now } := by
    have hset := c.store.find?_setWhere id [.draft, .scheduled]
      (fun r => { r with status := Status.sending.name, updatedAt := now }) id
    rwa [if_pos ⟨hclaim, rfl⟩, hfind] at hset
  rw [Connection.claim, call, if_pos hopen, hclaim]
  exact ⟨rfl, hopen, _, hrow, rfl, hflag⟩

end Awaits

/-- A campaign that is being sent can be completed. -/
theorem Underway.complete {id : String} {c : Connection} (h : c.Underway id) (now : String) :
    (Connection.complete id now c).1 = .ok () ∧
      (Connection.complete id now c).2.store.status? id = some Status.completed.name := by
  have hmark := (c.store.markCompleted_fst id now).2 h.2
  rw [Connection.complete, call, if_pos h.1, Store.complete_eq, if_pos hmark]
  refine ⟨rfl, ?_⟩
  rw [Store.status?_markCompleted, if_pos ⟨hmark, rfl⟩]

namespace IsSending

variable {id : String} {c : Connection}

theorem status? (h : c.IsSending id) : c.store.status? id = some Status.sending.name := by
  obtain ⟨-, r, hfind, hstatus, -⟩ := h
  rw [Store.status?, hfind, Option.map_some, hstatus]

theorem cancelRequested (h : c.IsSending id) : (Connection.cancelRequested id c).1 = .ok false := by
  obtain ⟨hopen, r, hfind, -, hflag⟩ := h
  rw [Connection.cancelRequested, read, if_pos hopen, Store.cancelRequested, hfind]
  exact congrArg Except.ok hflag

theorem append (h : c.IsSending id) (event : SendEvent) :
    (Connection.append event c).2.IsSending id := by
  rw [Connection.append, change, call, if_pos h.1]
  exact h

/-- It can be completed. -/
theorem complete (h : c.IsSending id) (now : String) : (Connection.complete id now c).1 = .ok () ∧
    (Connection.complete id now c).2.store.status? id = some Status.completed.name :=
  Underway.complete ⟨h.1, h.status?⟩ now

end IsSending
end Connection

namespace Dispatch
namespace Outside

variable {μ : Type} {id : String}

/-! ## From the claim on -/

section Calm

variable {o : Outside μ} {concurrency : Nat} {defaultSender : Option String}

/-- If no channel may ask for a stop, nothing that is called changes the store, unless it claims,
completes or records. -/
theorem keeping_store (hgo : ¬ o.MayStop) :
    (o.engine id concurrency defaultSender).Keeping fun s s' => s'.1 = s.1 where
  refl _ := rfl
  trans _ _ _ h h' := h'.trans h
  load _ s := read_snd _ _ s.1
  tenant _ s := read_snd _ _ s.1
  linkedRuleGroups _ s := read_snd _ _ s.1
  cancelRequested _ s := read_snd _ _ s.1
  contacts p tenant s := contactSource_matching_snd p tenant s.1
  channels c hc email s := by
    obtain ⟨c', hc', rfl⟩ := List.mem_map.1 hc
    have hno : (aside (c'.2 email) s).1.2 = false :=
      Bool.eq_false_iff.2 fun hstop => hgo ⟨c', hc', email, s.2, hstop⟩
    simp only [channel, Engine.bind_apply, hno]
    rfl
  clock _ := rfl

/-- **A dispatch whose channels do not ask for a stop goes through with it** once it has its
campaign. -/
theorem calm (hgo : ¬ o.MayStop) :
    (o.engine id concurrency defaultSender).Calm (fun s => s.1.IsSending id) id where
  keeping := (keeping_store hgo).invariant fun s s' heq hs => by
    show s'.1.IsSending id
    rw [heq]
    exact hs
  record event s hs := by
    show (o.record event s).2.1.IsSending id
    simp only [record, Engine.bind_apply]
    cases (aside (o.refuses event) s).1 with
    | some err => exact hs
    | none => exact Connection.IsSending.append hs event
  go s hs := by
    show Engine.stopRequested (Connection.cancelRequested id s.1).1 = false
    rw [Connection.IsSending.cancelRequested hs]
    rfl
  complete s hs := (Connection.IsSending.complete hs _).1

end Calm

/-! ## Up to the claim -/

section Beginning

variable {o : Outside μ} {concurrency : Nat} {defaultSender : Option String} {m : μ}
  {c : Connection}

/-- Reading the store is all that is done. -/
theorem onStore_read {ε α : Type} (refuse : StoreFault → ε) (f : Store → Except ε α) :
    onStore (Connection.read refuse f) (c, m) = ((Connection.read refuse f c).1, c, m) :=
  Prod.ext rfl (Prod.ext (read_snd refuse f c) rfl)

theorem load_apply (q : String) : (o.engine id concurrency defaultSender).campaigns.load q (c, m) =
    ((Connection.load q c).1, c, m) :=
  onStore_read (c := c) (m := m) CampaignError.store fun s => s.load q

theorem tenant_apply (q : String) :
    (o.engine id concurrency defaultSender).campaigns.tenant q (c, m) =
      ((Connection.tenant q c).1, c, m) :=
  onStore_read (c := c) (m := m) CampaignError.store fun s => s.tenant q

theorem linkedRuleGroups_apply (q : String) :
    (o.engine id concurrency defaultSender).campaigns.linkedRuleGroups q (c, m) =
      ((Connection.linkedRuleGroups q c).1, c, m) :=
  onStore_read (c := c) (m := m) CampaignError.store fun s => .ok (s.linkedRuleGroups q)

/-- A step up to the claim that does nothing but read. -/
theorem proceeds_reading {stage stage' : Stage}
    (hstage : stage.isEarly = true)
    (hstep : (o.engine id concurrency defaultSender).step .dispatcher stage (c, m) =
      (stage', c, m)) :
    (o.engine id concurrency defaultSender).Proceeds stage (c, m) [] stage' (c, m) := by
  cases stage with
  | loading | linking | resolving | identifying => exact .single (d := none) rfl hstep rfl
  | _ => cases hstage

/-- An audience that the contacts of a group have joined. -/
def gathered (s : Store) (tenant : String) (audience : Audience) (g : RuleGroup) : Audience :=
  if g.compile.isNever then audience
  else audience.insertAll ((s.matching g.compile tenant).filter (·.tenant = tenant))

/-- Those that have joined are contacts of the tenant. -/
theorem foldl_gathered_subset (s : Store) (tenant : String) (groups : List RuleGroup)
    {audience : Audience} (h : audience.contacts ⊆ s.contactsOf tenant) :
    (groups.foldl (gathered s tenant) audience).contacts ⊆ s.contactsOf tenant := by
  induction groups generalizing audience with
  | nil => exact h
  | cons g groups ih =>
    refine ih ?_
    rw [gathered]
    split
    · exact h
    · next hnever =>
      intro contact hmem
      rcases Audience.mem_insertAll hmem with hmem | hmem
      · exact h hmem
      · have hmatching := (List.mem_filter.1 hmem).1
        rw [Store.matching, if_neg hnever] at hmatching
        exact (List.mem_filter.1 hmatching).1

/-- Whether the contacts of a group can be found in a store. -/
def finds (s : Store) (tenant : String) (g : RuleGroup) : Bool :=
  g.compile.isNever || !s.holdsBytes tenant

/-- The contacts of a group join the audience, if they can be found. -/
theorem addGroup_eq (hopen : c.isOpen = true) (tenant : String) (audience : Audience)
    (g : RuleGroup) :
    (o.engine id concurrency defaultSender).contacts.addGroup tenant audience g (c, m) =
      (if finds c.store tenant g then .ok (gathered c.store tenant audience g)
        else .error (.store .notText), c, m) := by
  rw [ContactSource.addGroup, gathered, finds]
  cases hnever : g.compile.isNever with
  | true => rfl
  | false =>
    have hmatching : (o.engine id concurrency defaultSender).contacts.matching g.compile tenant
        (c, m) = ((c.store.answerOn tenant (c.store.matching g.compile tenant)).mapError .store,
          c, m) := by
      show onStore (Connection.contactSource.matching g.compile tenant) (c, m) = _
      rw [Connection.contactSource]
      dsimp only
      rw [if_neg (Bool.eq_false_iff.1 hnever), onStore_read, Connection.read, if_pos hopen]
    simp only [Bool.false_eq_true, if_false, Engine.bind_apply, hmatching, Store.answerOn]
    cases c.store.holdsBytes tenant <;> rfl

/-- The contacts of all groups are found, one group after the other. -/
theorem proceeds_resolving (hopen : c.isOpen = true) (campaign : Campaign)
    (groups : List RuleGroup) (hfinds : ∀ g ∈ groups, finds c.store campaign.tenant g = true)
    (audience : Audience) :
    (o.engine id concurrency defaultSender).Proceeds (.resolving campaign audience groups) (c, m)
      [] (.identifying campaign (groups.foldl (gathered c.store campaign.tenant) audience))
        (c, m) := by
  induction groups generalizing audience with
  | nil => exact proceeds_reading rfl rfl
  | cons g gs ih =>
    obtain ⟨hg, hgs⟩ := List.forall_mem_cons.1 hfinds
    refine (proceeds_reading rfl ?_).trans (ih hgs _)
    simp only [Engine.step, Engine.bind_apply, addGroup_eq hopen, if_pos hg]
    rfl

/-- The contacts of one group are not found, and that is the end. -/
theorem proceeds_resolving_unfound (hopen : c.isOpen = true) (campaign : Campaign)
    (groups : List RuleGroup) (hfinds : ¬ ∀ g ∈ groups, finds c.store campaign.tenant g = true)
    (audience : Audience) :
    (o.engine id concurrency defaultSender).Proceeds (.resolving campaign audience groups) (c, m)
      [] (.failure (.resolution (.store .notText))) (c, m) := by
  induction groups generalizing audience with
  | nil => exact absurd (List.forall_mem_nil _) hfinds
  | cons g gs ih =>
    by_cases hg : finds c.store campaign.tenant g = true
    · have hgs : ¬ ∀ g ∈ gs, finds c.store campaign.tenant g = true := fun hgs =>
        hfinds (List.forall_mem_cons.2 ⟨hg, hgs⟩)
      refine (proceeds_reading rfl ?_).trans (ih hgs (gathered c.store campaign.tenant audience g))
      simp only [Engine.step, Engine.bind_apply, addGroup_eq hopen, if_pos hg]
      rfl
    · refine proceeds_reading rfl ?_
      simp only [Engine.step, Engine.bind_apply, addGroup_eq hopen, if_neg hg]
      rfl

/-- A campaign that can be sent leads to the groups that it goes to. -/
theorem proceeds_linked {campaign : Campaign} (hload : (Connection.load id c).1 = .ok campaign)
    (hsendable : campaign.status.isSendable = true) :
    (o.engine id concurrency defaultSender).Proceeds (.loading id .segments) (c, m) []
      (.resolving campaign .empty (c.store.linkedRuleGroups id)) (c, m) := by
  have hlinking : (o.engine id concurrency defaultSender).Proceeds (.loading id .segments) (c, m)
      [] (.linking id campaign) (c, m) := by
    refine proceeds_reading rfl ?_
    simp only [Engine.step, Engine.bind_apply, load_apply, hload, if_pos hsendable]
    rfl
  refine hlinking.trans (proceeds_reading rfl ?_)
  have hgroups : (Connection.linkedRuleGroups id c).1 = .ok (c.store.linkedRuleGroups id) := by
    rw [Connection.linkedRuleGroups, Connection.read, if_pos (of_read_fst hload).1]
  simp only [Engine.step, Engine.bind_apply, linkedRuleGroups_apply, hgroups]
  rfl

theorem canFind_segments_iff {s : Store} {tenant : String} :
    s.CanFind id tenant .segments ↔ ∀ g ∈ s.linkedRuleGroups id, finds s tenant g = true := by
  simp only [Store.CanFind, finds, Bool.or_eq_true, Bool.not_eq_true']
  cases s.holdsBytes tenant <;> simp

/-- A campaign that can be sent leads to the contacts of the groups that it goes to, if they can be
found. -/
theorem proceeds_segments {campaign : Campaign} (hload : (Connection.load id c).1 = .ok campaign)
    (hsendable : campaign.status.isSendable = true)
    (hfind : c.store.CanFind id campaign.tenant .segments) :
    (o.engine id concurrency defaultSender).Proceeds (.loading id .segments) (c, m) []
      (.identifying campaign ((c.store.linkedRuleGroups id).foldl
        (gathered c.store campaign.tenant) .empty)) (c, m) :=
  (proceeds_linked hload hsendable).trans (proceeds_resolving (of_read_fst hload).1 campaign _
    (canFind_segments_iff.1 hfind) .empty)

/-- A campaign that can be sent leads to an audience, or to an error if its contacts cannot be
found. -/
theorem proceeds_audience {campaign : Campaign} (hload : (Connection.load id c).1 = .ok campaign)
    (hsendable : campaign.status.isSendable = true) (recipients : Recipients) :
    (c.store.CanFind id campaign.tenant recipients ∧ ∃ audience : Audience,
      audience.contacts ⊆ recipients.candidates c.store campaign.tenant ∧
      ∀ (o : Outside μ) concurrency defaultSender m,
        (o.engine id concurrency defaultSender).Proceeds (.loading id recipients) (c, m) []
          (.identifying campaign audience) (c, m)) ∨
    (¬ c.store.CanFind id campaign.tenant recipients ∧
      ∀ (o : Outside μ) concurrency defaultSender m,
        (o.engine id concurrency defaultSender).Proceeds (.loading id recipients) (c, m) []
          (.failure (.resolution (.store .notText))) (c, m)) := by
  cases recipients with
  | list contacts =>
    refine .inl ⟨trivial, .ofList (contacts.filter (·.tenant = campaign.tenant)),
      fun contact hmem => ?_, fun o concurrency defaultSender m => proceeds_reading rfl ?_⟩
    · rcases Audience.mem_insertAll hmem with hmem | hmem
      · cases hmem
      · exact (List.mem_filter.1 hmem).1
    · simp only [Engine.step, Engine.bind_apply, load_apply, hload, if_pos hsendable]
      rfl
  | segments =>
    by_cases hfind : c.store.CanFind id campaign.tenant .segments
    · have hnone : Audience.empty.contacts ⊆ c.store.contactsOf campaign.tenant :=
        List.nil_subset _
      exact .inl ⟨hfind, _, foldl_gathered_subset _ _ _ hnone,
        fun _ _ _ _ => proceeds_segments hload hsendable hfind⟩
    · exact .inr ⟨hfind, fun _ _ _ _ => (proceeds_linked hload hsendable).trans
        (proceeds_resolving_unfound (of_read_fst hload).1 campaign _
          (fun hfinds => hfind (canFind_segments_iff.2 hfinds)) .empty)⟩

variable (μ)

/-- **What becomes of a dispatch up to its claim lies in the store.**  If the campaign can be
dispatched it comes to be claimed for an audience of contacts that it may go to; otherwise the
dispatch ends before that.  It has done nothing then, and has not had to do with the world
outside. -/
theorem beginning (id : String) (recipients : Recipients) (c : Connection) :
    (¬ c.Awaits id recipients ∧ ∃ ending, ∀ (o : Outside μ) concurrency defaultSender m,
      (o.engine id concurrency defaultSender).Proceeds (.loading id recipients) (c, m) []
        (.ended ending) (c, m)) ∨
    (c.Awaits id recipients ∧ ∃ campaign audience tenant, c.store.load id = .ok campaign ∧
      tenant.id = campaign.tenant ∧
      audience.contacts ⊆ recipients.candidates c.store campaign.tenant ∧
      ∀ (o : Outside μ) concurrency defaultSender m,
        (o.engine id concurrency defaultSender).Proceeds (.loading id recipients) (c, m) []
          (.claiming campaign audience tenant) (c, m)) := by
  have hload_ok : c.isOpen = true → (Connection.load id c).1 = c.store.load id := fun hopen => by
    rw [Connection.load, Connection.read, if_pos hopen]
  cases hload : (Connection.load id c).1 with
  | error err =>
    refine .inl ⟨?_, .answered (.error (.campaign err)), fun o concurrency defaultSender m =>
      proceeds_reading rfl ?_⟩
    · rintro ⟨hopen, campaign, tenant, hok, -⟩
      rw [hload_ok hopen, hok] at hload
      cases hload
    · simp only [Engine.step, Engine.bind_apply, load_apply, hload]
      rfl
  | ok campaign =>
    obtain ⟨hopen, hstored⟩ := of_read_fst hload
    cases hsendable : campaign.status.isSendable with
    | false =>
      refine .inl ⟨?_, .answered (.ok (.ofSkipped id campaign.status)),
        fun o concurrency defaultSender m => proceeds_reading rfl ?_⟩
      · rintro ⟨-, campaign', tenant, hok, hsendable', -⟩
        cases hstored.symm.trans hok
        rw [hsendable] at hsendable'
        cases hsendable'
      · simp only [Engine.step, Engine.bind_apply, load_apply, hload, hsendable, Bool.false_eq_true,
          if_false]
        rfl
    | true =>
      rcases proceeds_audience (μ := μ) hload hsendable recipients with
        ⟨hfind, audience, hcandidates, hway⟩ | ⟨hfind, hway⟩
      · have hread : (Connection.tenant campaign.tenant c).1 = c.store.tenant campaign.tenant := by
          rw [Connection.tenant, Connection.read, if_pos hopen]
        cases htenant : c.store.tenant campaign.tenant with
        | error err =>
          refine .inl ⟨?_, .answered (.error (.campaign err)), fun o concurrency defaultSender m =>
            (hway o concurrency defaultSender m).trans (proceeds_reading rfl ?_)⟩
          · rintro ⟨-, campaign', tenant, hok, -, htenant', -⟩
            cases hstored.symm.trans hok
            rw [htenant] at htenant'
            cases htenant'
          · simp only [Engine.step, Engine.bind_apply, tenant_apply, hread, htenant]
            rfl
        | ok tenant =>
          refine .inr ⟨⟨hopen, campaign, tenant, hstored, hsendable, htenant, hfind⟩, campaign,
            audience, tenant, hstored, Store.id_of_tenant htenant, hcandidates,
            fun o concurrency defaultSender m =>
              (hway o concurrency defaultSender m).trans (proceeds_reading rfl ?_)⟩
          simp only [Engine.step, Engine.bind_apply, tenant_apply, hread, htenant]
          rfl
      · refine .inl ⟨?_, _, hway⟩
        rintro ⟨-, campaign', _, hok, -, -, hfind'⟩
        cases hstored.symm.trans hok
        exact hfind hfind'

end Beginning

/-! ## From the beginning to the end -/

/-- **A dispatch that comes to its claim, and whose channels do not ask for a stop, goes through
with it**, in whatever order turns are had: it deals with its whole audience, and completes the
campaign. -/
theorem completes {o : Outside μ} (hgo : ¬ o.MayStop) {c : Connection} {recipients : Recipients}
    (hawaits : c.Awaits id recipients) (hcancel : c.store.cancelRequested id ≠ .ok true)
    {concurrency : Nat} (hlimit : max 1 concurrency ≤ maxWorkers) {defaultSender : Option String}
    {campaign : Campaign} {audience : Audience} {tenant : Tenant} (hid : campaign.id = id) {m : μ}
    {ds : List Deed} {ending : Ending} {t : Connection × μ}
    (h : (o.engine id concurrency defaultSender).Runs (.claiming campaign audience tenant) (c, m) ds
      (.ended ending) t) :
    ∃ during r t', ds = .asked id (.ok true) :: (during ++ [.completed id (.ok ())]) ∧
      (o.engine id concurrency defaultSender).Sends (fun s => s.1.IsSending id)
        ((o.engine id concurrency defaultSender).opening campaign audience tenant)
        ((Connection.claim id (o.now m) c).2, m) during r t' ∧
      r.IsDrained ∧ ending = .answered (.ok r.report) ∧ r.report.Covers id audience ds ∧
      t.1.store.status? id = some Status.completed.name := by
  subst hid
  obtain ⟨hclaim, hsending⟩ := hawaits.claim hcancel (o.now m)
  have hwon : ((o.engine campaign.id concurrency defaultSender).campaigns.claim campaign.id
      (c, m)).1 = .ok true := hclaim
  have hcalm : (o.engine campaign.id concurrency defaultSender).Calm
      (fun s => s.1.IsSending campaign.id) campaign.id := calm hgo
  cases h.completes hcalm hlimit hwon hsending with
  | @ended during r _ t' hsends hdrained ht =>
    have hgoing := hsends.stopped_eq hcalm.go
    have hcovers := hsends.trail.covers hdrained hgoing
    refine ⟨during, r, _, rfl, hsends, hdrained, rfl, ⟨hcovers.campaign, hcovers.outcome,
      hcovers.audienceSize, hcovers.skipped, ?_, ?_, ?_⟩, (Connection.IsSending.complete ht _).2⟩
    · simpa using hcovers.started
    · simpa using hcovers.sent
    · simpa using hcovers.failed

end Outside

namespace Sample

/-- The draft can be dispatched. -/
theorem awaits_campaign (contacts : List Contact) :
    connection.Awaits campaign.id (.list contacts) :=
  ⟨rfl, campaign, tenant, rfl, rfl, rfl, trivial⟩

/-- It is dispatched to contacts that are given. -/
theorem proceeds_given (contacts : List Contact) :
    let e := outside.engine campaign.id 1 none
    let audience := Audience.ofList (contacts.filter (·.tenant = campaign.tenant))
    let out := e.sweep campaign audience tenant (e.campaigns.claim campaign.id (connection, ())).2
    let answer := e.campaigns.complete campaign.id out.2
    e.Proceeds (.loading campaign.id (.list contacts)) (connection, ())
      (.asked campaign.id (.ok true) :: (out.1.1 ++ [.completed campaign.id answer.1]))
      (.ended (.closing out.1.2.report answer.1)) answer.2 := by
  intro e audience out answer
  have hidentifying : e.Proceeds (.loading campaign.id (.list contacts)) (connection, ()) []
      (.identifying campaign audience) (connection, ()) := Outside.proceeds_reading rfl rfl
  have hclaiming : e.Proceeds (.identifying campaign audience) (connection, ()) []
      (.claiming campaign audience tenant) (connection, ()) := Outside.proceeds_reading rfl rfl
  have hlimit : e.limit ≤ maxWorkers := by decide
  exact (hidentifying.trans hclaiming).trans
    (Engine.proceeds_won campaign audience tenant (connection, ()) rfl hlimit)

end Sample

end Dispatch
end Mailshot
