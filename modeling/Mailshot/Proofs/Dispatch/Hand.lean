import Mathlib.Data.List.Nodup
import Mailshot.Proofs.Dispatch.Account

/-!
# Who is written to, and on whose behalf

Two more invariants of a dispatch that is sending.  `Run.Once` says that no channel is handed the
message to one contact twice: a worker goes through the channels in their order, and of the workers
that were started no two are for the same contact.  `Run.Signed` says that the events are those of
the campaign.
-/

set_option autoImplicit false

namespace Mailshot
namespace Dispatch

/-- The identifier of the contact whose message was handed over, and the place of the channel. -/
@[simp] def Deed.handed? : Deed → Option (String × Nat)
  | called contact _ place _ => some (contact.id, place)
  | _ => none

/-- Whose message was handed to which channel, in order. -/
def handedIn (ds : List Deed) : List (String × Nat) := ds.filterMap Deed.handed?

@[simp] theorem handedIn_nil : handedIn [] = [] := rfl

@[simp] theorem handedIn_cons (d : Deed) (ds : List Deed) :
    handedIn (d :: ds) = d.handed?.toList ++ handedIn ds := filterMap_cons_eq _ d ds

@[simp] theorem handedIn_append (ds ds' : List Deed) :
    handedIn (ds ++ ds') = handedIn ds ++ handedIn ds' := List.filterMap_append

/-! ## Each contact once -/

/-- The workers that are at work are for different contacts. -/
theorem Run.InHand.nodup_workers {ds : List Deed} {r : Run} (h : r.InHand ds)
    (hids : ((startedIn ds).map (·.id)).Nodup) : (r.workers.map (·.contactId)).Nodup := by
  have hnodup := h.accounted.nodup_iff.2 hids
  exact (List.nodup_append.1 (List.nodup_append.1 hnodup).2.1).2.1

/-- A worker that is at work was started. -/
theorem Run.InHand.contactId_mem {ds : List Deed} {r : Run} (h : r.InHand ds) {w : Worker}
    (hw : w ∈ r.workers) : w.contactId ∈ (startedIn ds).map (·.id) :=
  h.accounted.subset (List.mem_append_right _ (List.mem_append_right _ (List.mem_map_of_mem hw)))

/-- An event is that of a contact whose worker was started. -/
theorem Run.InHand.started_of_recorded {ds : List Deed} {r : Run} (h : r.InHand ds)
    {event : SendEvent} (hevent : event ∈ recordedIn ds) :
    ∃ contact, .started contact ∈ ds ∧ event.contact = contact.id := by
  have hid : event.contact ∈ (startedIn ds).map (·.id) :=
    h.accounted.subset (List.mem_append_left _ (List.mem_map_of_mem hevent))
  obtain ⟨contact, hstarted, heq⟩ := List.mem_map.1 hid
  obtain ⟨d, hd, hpicked⟩ := List.mem_filterMap.1 hstarted
  cases d <;> cases hpicked
  exact ⟨contact, hd, heq.symm⟩

/-- The others are for other contacts. -/
theorem contactId_ne_of_mem_eraseIdx {workers : List Worker} {i : Nat} {w w' : Worker}
    (hnodup : (workers.map (·.contactId)).Nodup) (hw : workers[i]? = some w)
    (hw' : w' ∈ workers.eraseIdx i) : w'.contactId ≠ w.contactId := by
  intro heq
  have hperm := (perm_cons_eraseIdx hw).map (·.contactId)
  refine (List.nodup_cons.1 (hperm.nodup_iff.1 hnodup)).1 ?_
  show w.contactId ∈ _
  rw [← heq]
  exact List.mem_map_of_mem hw'

/-- No channel was handed the message to one contact twice, nor is about to be. -/
structure Run.Once (ds : List Deed) (r : Run) : Prop where
  /-- No channel was. -/
  nodup : (handedIn ds).Nodup
  /-- Messages are handed over by workers that were started. -/
  known : ∀ p ∈ handedIn ds, p.1 ∈ (startedIn ds).map (·.id)
  /-- The channel that is next comes after those that a worker has tried. -/
  fresh : ∀ contact email place, .calling contact email place ∈ r.workers →
    ∀ p ∈ handedIn ds, p.1 = contact.id → p.2 < place

/-- If nothing is handed over and no worker begins, nothing changes. -/
theorem Run.Once.frame {ds : List Deed} {r r' : Run} {d : Option Deed} (h : r.Once ds)
    (hd : handedIn d.toList = [])
    (hworkers : ∀ contact email place, .calling contact email place ∈ r'.workers →
      .calling contact email place ∈ r.workers) : r'.Once (ds ++ d.toList) := by
  constructor
  · rw [handedIn_append, hd, List.append_nil]
    exact h.nodup
  · intro p hp
    rw [handedIn_append, hd, List.append_nil] at hp
    rw [startedIn_append, List.map_append]
    exact List.mem_append_left _ (h.known p hp)
  · intro contact email place hmem p hp
    rw [handedIn_append, hd, List.append_nil] at hp
    exact h.fresh contact email place (hworkers contact email place hmem) p hp

/-- A worker hands over its message and goes on to the next channel, if it goes on at all. -/
theorem Run.Once.hand {ds : List Deed} {r r' : Run} {i : Nat} {contact : Contact}
    {email : OutboundEmail} {place : Nat} {attempt : Attempt} (h : r.Once ds) (hhand : r.InHand ds)
    (hids : ((startedIn ds).map (·.id)).Nodup)
    (hworker : r.workers[i]? = some (.calling contact email place))
    (hworkers : ∀ w ∈ r'.workers, w.isCalling → w ∈ r.workers.eraseIdx i ∨
      w = .calling contact email (place + 1)) :
    r'.Once (ds ++ (some (Deed.called contact email place attempt)).toList) := by
  have hmem : .calling contact email place ∈ r.workers := List.mem_of_getElem? hworker
  have hfresh := h.fresh contact email place hmem
  constructor
  · rw [handedIn_append]
    refine List.nodup_append.2 ⟨h.nodup, List.nodup_singleton _, ?_⟩
    intro p hp q hq heq
    obtain rfl := List.mem_singleton.1 hq
    subst heq
    exact Nat.lt_irrefl _ (hfresh _ hp rfl)
  · intro p hp
    rw [startedIn_append, List.map_append]
    refine List.mem_append_left _ ?_
    rcases List.mem_append.1 (handedIn_append _ _ ▸ hp) with hp | hp
    · exact h.known p hp
    · obtain rfl := List.mem_singleton.1 hp
      exact hhand.contactId_mem hmem
  · intro contact' email' place' hmem' p hp hid
    rcases hworkers _ hmem' rfl with hother | hsame
    · have hne := contactId_ne_of_mem_eraseIdx (hhand.nodup_workers hids) hworker hother
      rcases List.mem_append.1 (handedIn_append _ _ ▸ hp) with hp | hp
      · exact h.fresh contact' email' place' (List.mem_of_mem_eraseIdx hother) p hp hid
      · obtain rfl := List.mem_singleton.1 hp
        exact absurd hid.symm hne
    · cases hsame
      rcases List.mem_append.1 (handedIn_append _ _ ▸ hp) with hp | hp
      · exact Nat.lt_succ_of_lt (hfresh p hp hid)
      · obtain rfl := List.mem_singleton.1 hp
        exact Nat.lt_succ_self _

/-- A worker that is put in the place of another is one of the workers then, and the rest are those
that were there. -/
theorem mem_eraseIdx_or_eq_of_mem_set {α : Type} {l : List α} {i : Nat} {a b x : α}
    (h : l[i]? = some a) (hx : x ∈ l.set i b) : x ∈ l.eraseIdx i ∨ x = b := by
  rcases List.mem_cons.1 ((set_perm_cons_eraseIdx h b).subset hx) with rfl | hx
  · exact .inr rfl
  · exact .inl hx

/-- A worker hands over its message, and that settles it. -/
theorem Run.Once.settle {ds : List Deed} {r r' : Run} {i : Nat} {contact : Contact}
    {email : OutboundEmail} {place : Nat} {attempt : Attempt} {event : SendEvent} (h : r.Once ds)
    (hhand : r.InHand ds) (hids : ((startedIn ds).map (·.id)).Nodup)
    (hworker : r.workers[i]? = some (.calling contact email place))
    (hworkers : r'.workers = r.workers.set i (.recording event)) :
    r'.Once (ds ++ (some (Deed.called contact email place attempt)).toList) := by
  refine h.hand hhand hids hworker fun w hw hcalling => ?_
  rw [hworkers] at hw
  rcases mem_eraseIdx_or_eq_of_mem_set hworker hw with hw | rfl
  · exact .inl hw
  · cases hcalling

/-- **Whatever a step can come to hands no message to a channel twice.** -/
theorem Run.Once.goes {limit : Nat} {ds : List Deed} {r r' : Run} {d : Option Deed}
    (h : r.Once ds) (hhand : r.InHand ds) (hgoes : r.Goes limit d r')
    (hids : ((startedIn (ds ++ d.toList)).map (·.id)).Nodup) : r'.Once (ds ++ d.toList) := by
  have hbefore : ((startedIn ds).map (·.id)).Nodup := by
    rw [startedIn_append, List.map_append] at hids
    exact (List.nodup_append.1 hids).1
  cases hgoes with
  | pass | ready | stop => exact h.frame rfl fun _ _ _ hmem => hmem
  | @start contact address hnext =>
    rw [startedIn_append, List.map_append] at hids
    have hnew : contact.id ∉ (startedIn ds).map (·.id) := fun hold =>
      (List.nodup_append.1 hids).2.2 _ hold contact.id List.mem_cons_self rfl
    constructor
    · simpa using h.nodup
    · intro p hp
      rw [startedIn_append, List.map_append]
      exact List.mem_append_left _ (h.known p (by simpa using hp))
    · intro contact' email' place' hmem p hp hid
      have hp' : p ∈ handedIn ds := by simpa using hp
      rcases List.mem_append.1 hmem with hmem | hmem
      · exact h.fresh contact' email' place' hmem p hp' hid
      · cases List.mem_singleton.1 hmem
        exact absurd (hid ▸ h.known p hp') hnew
  | retry hworker =>
    refine h.hand hhand hbefore hworker fun w hw _ => ?_
    exact mem_eraseIdx_or_eq_of_mem_set hworker hw
  | accept time receipt hworker => exact h.settle hhand hbefore hworker rfl
  | refuse time error name hworker => exact h.settle hhand hbefore hworker rfl
  | lack time error hworker =>
    refine h.frame rfl fun contact email place hmem => ?_
    rcases List.mem_or_eq_of_mem_set hmem with hmem | heq
    · exact hmem
    · cases heq
  | lose hworker => exact h.hand hhand hbefore hworker fun w hw _ => .inl hw
  | record answer hworker => exact h.frame rfl fun _ _ _ hmem => List.mem_of_mem_eraseIdx hmem

/-! ## On behalf of one campaign -/

/-- The events are those of the campaign and its tenant. -/
structure Run.Signed (ds : List Deed) (r : Run) : Prop where
  /-- Those that were recorded are. -/
  recorded : ∀ event ∈ recordedIn ds,
    event.campaign = r.job.campaign.id ∧ event.tenant = r.job.tenant.id
  /-- Those that are recorded next are. -/
  pending : ∀ event, .recording event ∈ r.workers →
    event.campaign = r.job.campaign.id ∧ event.tenant = r.job.tenant.id

/-- If no event is recorded and none but those of the campaign come up, nothing changes. -/
theorem Run.Signed.frame {ds : List Deed} {r r' : Run} {d : Option Deed} (h : r.Signed ds)
    (hjob : r'.job = r.job) (hd : recordedIn d.toList = [])
    (hworkers : ∀ event, .recording event ∈ r'.workers → .recording event ∈ r.workers ∨
      event.campaign = r.job.campaign.id ∧ event.tenant = r.job.tenant.id) :
    r'.Signed (ds ++ d.toList) := by
  constructor
  · rw [recordedIn_append, hd, List.append_nil, hjob]
    exact h.recorded
  · intro event hmem
    rw [hjob]
    exact (hworkers event hmem).elim (h.pending event) id

/-- A worker goes on with its message, or comes to an event of the campaign. -/
theorem Run.Signed.replace {ds : List Deed} {r r' : Run} {d : Option Deed} {i : Nat} {w : Worker}
    (h : r.Signed ds) (hjob : r'.job = r.job) (hd : recordedIn d.toList = [])
    (hworkers : r'.workers = r.workers.set i w) (hw : ∀ event, w = .recording event →
      event.campaign = r.job.campaign.id ∧ event.tenant = r.job.tenant.id) :
    r'.Signed (ds ++ d.toList) := by
  refine h.frame hjob hd fun event hmem => ?_
  rw [hworkers] at hmem
  rcases List.mem_or_eq_of_mem_set hmem with hmem | heq
  · exact .inl hmem
  · exact .inr (hw event heq.symm)

/-- **Whatever a step can come to keeps events in the name of the campaign.** -/
theorem Run.Signed.goes {limit : Nat} {ds : List Deed} {r r' : Run} {d : Option Deed}
    (h : r.Signed ds) (hgoes : r.Goes limit d r') : r'.Signed (ds ++ d.toList) := by
  cases hgoes with
  | pass | ready | stop => exact h.frame rfl rfl fun _ hmem => .inl hmem
  | start hnext =>
    refine h.frame rfl rfl fun event hmem => ?_
    rcases List.mem_append.1 hmem with hmem | hmem
    · exact .inl hmem
    · cases List.mem_singleton.1 hmem
  | retry hworker =>
    refine h.replace rfl rfl rfl fun event heq => ?_
    cases heq
  | accept | refuse | lack =>
    refine h.replace rfl rfl rfl fun event heq => ?_
    cases heq
    exact ⟨rfl, rfl⟩
  | lose hworker =>
    exact h.frame rfl rfl fun event hmem => .inl (List.mem_of_mem_eraseIdx hmem)
  | @record i event answer hworker =>
    constructor
    · intro event' hevent'
      rcases List.mem_append.1 (recordedIn_append _ _ ▸ hevent') with hevent' | hevent'
      · exact h.recorded event' hevent'
      · obtain rfl := List.mem_singleton.1 hevent'
        exact h.pending event' (List.mem_of_getElem? hworker)
    · intro event' hmem
      exact h.pending event' (List.mem_of_mem_eraseIdx hmem)

/-! ## From the opening on -/

namespace Run.Trail

variable {σ : Type} {e : Engine σ} {campaign : Campaign} {audience : Audience} {tenant : Tenant}
  {limit : Nat} {ds : List Deed} {r : Run}

/-- **No channel is handed the message to one contact twice.** -/
theorem once (h : (e.opening campaign audience tenant).Trail limit ds r)
    (hids : audience.ids.Nodup) : r.Once ds := by
  induction h with
  | refl =>
    constructor
    · exact List.nodup_nil
    · intro p hp
      cases hp
    · intro contact email place hmem
      cases hmem
  | step h hgoes ih => exact ih.goes h.inHand hgoes ((h.step hgoes).nodup_started hids)

theorem signed (h : (e.opening campaign audience tenant).Trail limit ds r) : r.Signed ds := by
  induction h with
  | refl =>
    constructor
    · intro event hevent
      cases hevent
    · intro event hmem
      cases hmem
  | step _ hgoes ih => exact ih.goes hgoes

end Run.Trail

end Dispatch
end Mailshot
