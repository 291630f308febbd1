import Mailshot.Proofs.Dispatch.Alone

/-!
# Tenants have nothing to do with each other

A campaign of one tenant is dispatched from two stores that agree on this tenant and on the
campaign, and differ in whatever they hold of others.  Nobody could tell from what is done which of
the stores it was (`tenant_isolation`): segments are joined over the tenant of the campaign,
contacts are asked for by tenant, and those of others are left out once more before the campaign is
claimed.  What a dispatch leaves behind of itself is where its campaign stands and when that was
noted, and events.
-/

set_option autoImplicit false

namespace Mailshot
namespace Dispatch

/-- Whether the contact that it concerns is one of some, and belongs to a tenant.  The contact of an
event is one that a worker was started for. -/
def Deed.OfTenant (tenant : String) (pool : List Contact) (ds : List Deed) : Deed → Prop
  | started contact | called contact _ _ _ => contact ∈ pool ∧ contact.tenant = tenant
  | recorded event _ => event.tenant = tenant ∧ ∃ contact ∈ pool,
    contact.tenant = tenant ∧ event.contact = contact.id ∧ started contact ∈ ds
  | _ => True

section Alike

variable {ds ds' : List Deed} {logged : Prop}

/-- What is picked out of deeds that are alike is the same, if it is so for any two of them. -/
theorem filterMap_eq_of_alike {β : Type} {f : Deed → Option β}
    (hf : ∀ d d', Deed.Alike logged d d' → f d' = f d)
    (h : List.Forall₂ (Deed.Alike logged) ds ds') : ds'.filterMap f = ds.filterMap f := by
  induction h with
  | nil => rfl
  | cons halike _ ih => rw [List.filterMap_cons, List.filterMap_cons, hf _ _ halike, ih]

/-- Deeds that are alike hand the same to the channels. -/
theorem calledIn_eq (h : List.Forall₂ (Deed.Alike logged) ds ds') : calledIn ds' = calledIn ds :=
  filterMap_eq_of_alike (fun _ _ halike => by cases halike <;> rfl) h

/-- They append the same events, whatever time it is. -/
theorem map_untimed_appendedIn_eq (h : List.Forall₂ (Deed.Alike logged) ds ds') (hlogged : logged) :
    (appendedIn ds').map SendEvent.untimed = (appendedIn ds).map SendEvent.untimed := by
  rw [appendedIn, appendedIn, List.map_filterMap, List.map_filterMap]
  refine filterMap_eq_of_alike (fun d d' halike => ?_) h
  cases halike with
  | same d => rfl
  | @recorded event event' answer answer' hevent hanswer =>
    rw [hanswer hlogged]
    cases answer with
    | error err => rfl
    | ok done => exact congrArg some hevent

end Alike

namespace Engine

variable {σ : Type} {e : Engine σ}

/-- What a dispatch does from the claim on concerns contacts of its audience and the tenant, if the
audience belongs to the tenant. -/
theorem Path.ofTenant {campaign : Campaign} {audience : Audience} {tenant : Tenant}
    {ds : List Deed} {stage : Stage}
    (h : e.Path (.claiming campaign audience tenant) ds stage)
    (haudience : ∀ contact ∈ audience.contacts, contact.tenant = tenant.id) :
    ∀ d ∈ ds, d.OfTenant tenant.id audience.contacts ds := by
  intro d hd
  rcases h.since.won_or_not with hwon | ⟨rfl, -⟩ | ⟨answer, -, rfl, -⟩
  · obtain ⟨during, last, r, rfl, htrail, hlast⟩ := hwon
    have hopening : (e.opening campaign audience tenant).Within
        fun contact => contact ∈ audience.contacts ∧ contact.tenant = tenant.id :=
      ⟨fun contact hmem => ⟨hmem, haudience contact hmem⟩, fun _ _ heq => (by cases heq),
        fun _ _ _ hmem => absurd hmem List.not_mem_nil,
        fun _ hmem => absurd hmem List.not_mem_nil⟩
    have hconcerns := (htrail.concerns hopening).1
    rcases List.mem_cons.1 hd with rfl | hd
    · trivial
    · rcases List.mem_append.1 hd with hd | hd
      · cases d with
        | recorded event answer =>
          have hrecorded : event ∈ recordedIn during := List.mem_filterMap.2 ⟨_, hd, rfl⟩
          have htenant := (htrail.signed.recorded event hrecorded).2
          rw [htrail.job_eq] at htenant
          obtain ⟨contact, hstarted, hcontact⟩ := htrail.inHand.started_of_recorded hrecorded
          obtain ⟨hmem, hof⟩ := hconcerns _ hstarted
          exact ⟨htenant, contact, hmem, hof, hcontact,
            List.mem_cons_of_mem _ (List.mem_append_left _ hstarted)⟩
        | started | called => exact hconcerns _ hd
        | _ => trivial
      · rcases hlast with rfl | ⟨answer, rfl⟩
        · cases hd
        · obtain rfl := List.mem_singleton.1 hd
          trivial
  · cases hd
  · obtain rfl := List.mem_singleton.1 hd
    trivial

end Engine

/-- More contacts may be among those that are asked about. -/
theorem Deed.OfTenant.mono {tenant : String} {pool pool' : List Contact} {ds : List Deed} {d : Deed}
    (h : d.OfTenant tenant pool ds) (hpool : pool ⊆ pool') : d.OfTenant tenant pool' ds := by
  cases d with
  | started | called => exact ⟨hpool h.1, h.2⟩
  | recorded event answer =>
    obtain ⟨htenant, contact, hmem, hrest⟩ := h
    exact ⟨htenant, contact, hpool hmem, hrest⟩
  | _ => trivial

namespace Outside

variable {μ : Type} {o o' : Outside μ} {M : μ → μ → Prop} {tenant id : String}

/-- A dispatch of the campaign of a tenant has to do with contacts of this tenant only, and of these
with those that the campaign may go to. -/
theorem ofTenant_deedsOf (o : Outside μ) {s : Connection × μ}
    (howned : ∀ r, s.1.store.campaigns.find? id = some r → r.tenant = tenant) (concurrency : Nat)
    (defaultSender : Option String) (recipients : Recipients) :
    let ds := (o.engine id concurrency defaultSender).deedsOf (.loading id recipients) s
    ∀ d ∈ ds, d.OfTenant tenant (recipients.candidates s.1.store tenant) ds := by
  obtain ⟨c, m⟩ := s
  rcases beginning μ id recipients c with
    ⟨-, ending, hway⟩ | ⟨-, campaign, audience, tenant', hload, htenant', hcandidates, hway⟩
  · rw [(hway o concurrency defaultSender m).ended.1]
    exact fun d hd => absurd hd List.not_mem_nil
  · obtain ⟨r, hfind, -, -, hcampaign, -⟩ := Store.row_of_load hload
    obtain rfl : campaign.tenant = tenant := hcampaign.trans (howned r hfind)
    have hbegun := hway o concurrency defaultSender m
    have hhomely := hbegun.path.homely trivial
    rw [hbegun.deedsOf_eq, List.nil_append]
    intro ds d hd
    have hof := (Engine.proceeds_finish _ _).path.ofTenant
      (fun contact hmem => (hhomely contact hmem).trans htenant'.symm) d hd
    rw [htenant'] at hof
    exact hof.mono hcandidates

/-- **Tenant isolation.**  The campaign of a tenant is dispatched from two stores that agree on the
tenant's row, contacts and segments, on the campaign and on its links to these segments (`Near`),
with channels that do the same (`Alike`).  Then the dispatches end in the same way, hand the same to
the channels and append the same events, up to the time.  All contacts that they have to do with
belong to the tenant, and are in the store or among those that were given.  Nothing changes in
either of the stores but where the campaign stands, and whether it was asked to stop if on the way a
channel asks for that, the time that is noted for this, and the events that are appended. -/
theorem tenant_isolation (h : Alike none True M o o') {s s' : Connection × μ}
    (hnear : Near tenant id M s s') (concurrency : Nat) (defaultSender : Option String)
    (recipients : Recipients) :
    let e := o.engine id concurrency defaultSender
    let e' := o'.engine id concurrency defaultSender
    let ds := e.deedsOf (.loading id recipients) s
    let ds' := e'.deedsOf (.loading id recipients) s'
    (e'.execute id recipients s').1 = (e.execute id recipients s).1 ∧
      calledIn ds' = calledIn ds ∧
      (appendedIn ds').map SendEvent.untimed = (appendedIn ds).map SendEvent.untimed ∧
      (∀ d ∈ ds, d.OfTenant tenant (recipients.candidates s.1.store tenant) ds) ∧
      (∀ d ∈ ds', d.OfTenant tenant (recipients.candidates s'.1.store tenant) ds') ∧
      Touches id (∃ p ∈ e.passed (.loading id recipients) s, o.Asks p.1.turn p.1 p.2)
        (appendedIn ds) s.1 (e.execute id recipients s).2.1 ∧
      Touches id (∃ p ∈ e'.passed (.loading id recipients) s', o'.Asks p.1.turn p.1 p.2)
        (appendedIn ds') s'.1 (e'.execute id recipients s').2.1 := by
  intro e e' ds ds'
  have htwins := h.twins tenant id concurrency defaultSender
  obtain ⟨halike, hending, -⟩ := htwins.execute recipients hnear
  exact ⟨hending, calledIn_eq halike, map_untimed_appendedIn_eq halike trivial,
    o.ofTenant_deedsOf hnear.store.owned concurrency defaultSender recipients,
    o'.ofTenant_deedsOf (fun _ => hnear.store.owned_right) concurrency defaultSender recipients,
    touches_finish _ s fun _ hd => campaign_of_mem (Engine.proceeds_finish _ s).path hd,
    touches_finish _ s' fun _ hd => campaign_of_mem (Engine.proceeds_finish _ s').path hd⟩

end Outside

namespace Sample

/-- The store with the draft, and with things of another tenant: a contact, and a segment to which
the draft is linked. -/
def crowded : Connection := .ofStore { connection.store with
  tenants := connection.store.tenants.insert "u" "Other"
  contacts := connection.store.contacts.insert "z" (Store.rowOfContact (.ofIdentity "z" "u"))
  segments := connection.store.segments.insert "s" ⟨"u", "All", "", ""⟩
  links := [(campaign.id, "s")] }

/-- Neither store tells the draft and its tenant from what they are in the other. -/
theorem near_crowded :
    Outside.Near tenant.id campaign.id (fun _ _ => True) (connection, ()) (crowded, ()) where
  store := {
    tenants := by decide
    contacts := by decide
    segments := by decide
    campaigns := by decide
    owned := fun r hfind => by
      cases hfind
      rfl
    links := fun segment row hfind => by cases hfind }
  isOpen := rfl
  memory := trivial

theorem alike_outside : Outside.Alike none True (fun _ _ => True) outside outside where
  channels := .cons ⟨rfl, fun _ _ _ _ _ => ⟨rfl, trivial⟩⟩ .nil
  send_left _ _ _ hhidden := by cases hhidden
  send_right _ _ _ hhidden := by cases hhidden
  refuses _ _ _ _ _ _ _ := rfl
  refuses_left _ _ _ _ := trivial
  refuses_right _ _ _ _ := trivial
  clock_left _ _ _ := trivial
  clock_right _ _ _ := trivial

/-- A contact of the tenant and one of the other tenant. -/
def mixed : List Contact :=
  [{ Contact.ofIdentity "z" "u" with email := some "z@other.test" },
    { Contact.ofIdentity "a" "t" with email := some "a@shop.test" }]

end Sample

namespace Outside

/-- The draft is dispatched to its segments, among which there is one of another tenant, as it is
without that.  If contacts of both tenants are given, it goes to that of its own. -/
theorem tenant_isolation_of_crowded :
    let e := Sample.outside.engine Sample.campaign.id 1 none
    let given := Stage.loading Sample.campaign.id (.list Sample.mixed)
    (e.execute Sample.campaign.id .segments (Sample.crowded, ())).1 =
        (e.execute Sample.campaign.id .segments (Sample.connection, ())).1 ∧
      calledIn (e.deedsOf given (Sample.crowded, ())) =
        calledIn (e.deedsOf given (Sample.connection, ())) ∧
      (calledIn (e.deedsOf given (Sample.connection, ()))).map (·.1.id) = ["a"] := by
  intro e given
  obtain ⟨hending, -⟩ :=
    tenant_isolation Sample.alike_outside Sample.near_crowded 1 none .segments
  obtain ⟨-, hcalled, -⟩ :=
    tenant_isolation Sample.alike_outside Sample.near_crowded 1 none (.list Sample.mixed)
  refine ⟨hending, hcalled, ?_⟩
  have hgiven : e.deedsOf given (Sample.connection, ()) = _ :=
    (Sample.proceeds_given Sample.mixed).ended.1
  rw [hgiven]
  rfl

/-- More is changed of the campaign than where it stands and whether it was asked to stop: the time
is noted. -/
theorem time_noted_by_dispatch :
    let e := Sample.outside.engine Sample.campaign.id 1 none
    let left := (e.execute Sample.campaign.id (.list Sample.mixed) (Sample.connection, ())).2.1
    ∃ r r', Sample.connection.store.campaigns.find? Sample.campaign.id = some r ∧
      left.store.campaigns.find? Sample.campaign.id = some r' ∧
      r' ≠ { r with status := r'.status, cancelRequested := r'.cancelRequested } := by
  intro e left
  have hleft : left = _ :=
    congrArg (·.2.1) (Sample.proceeds_given Sample.mixed).ended.2
  refine ⟨_, _, rfl, by rw [hleft]; rfl, fun heq => ?_⟩
  have htime : Sample.now = "" := congrArg CampaignRow.updatedAt heq
  exact absurd htime (by decide)

end Outside

end Dispatch
end Mailshot
