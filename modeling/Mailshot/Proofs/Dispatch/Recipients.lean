import Mailshot.Proofs.Dispatch.Account

/-!
# Whom a dispatch has to do with

Contacts come in with the audience, and nobody else ever does.  `Run.Within` says so of a dispatch
that is sending, `Deed.Concerns` of what it does, and `Stage.Homely` of the way up to the claim: all
contacts belong to the tenant of the campaign, since others are left out wherever contacts are
found.
-/

set_option autoImplicit false

namespace Mailshot

namespace Audience

/-- Insertion brings in no contact but the inserted one. -/
theorem mem_insert {a : Audience} {c contact : Contact}
    (h : contact ∈ (a.insert c).2.contacts) : contact ∈ a.contacts ∨ contact = c := by
  rw [insert] at h
  split at h
  · exact .inl h
  · exact (List.mem_append.1 h).imp_right List.mem_singleton.1

theorem mem_insertAll {a : Audience} {contacts : List Contact} {contact : Contact}
    (h : contact ∈ (a.insertAll contacts).contacts) :
    contact ∈ a.contacts ∨ contact ∈ contacts := by
  induction contacts generalizing a with
  | nil => exact .inl h
  | cons c contacts ih =>
    rcases ih h with h | h
    · exact (mem_insert h).imp_right fun heq => List.mem_cons.2 (.inl heq)
    · exact .inr (List.mem_cons_of_mem c h)

end Audience

namespace Dispatch

/-! ## Up to the claim -/

/-- All contacts that were found belong to the tenant of the campaign. -/
def Stage.Homely : Stage → Prop
  | .resolving campaign audience _ | .identifying campaign audience
  | .claiming campaign audience _ =>
    ∀ contact ∈ audience.contacts, contact.tenant = campaign.tenant
  | _ => True

namespace Engine

variable {σ : Type} {e : Engine σ}

/-- The contacts of one group that join the audience belong to the tenant. -/
theorem tenant_of_addGroup {tenant : String} {audience audience' : Audience} {g : RuleGroup} {s : σ}
    (h : (e.contacts.addGroup tenant audience g s).1 = .ok audience')
    (haudience : ∀ contact ∈ audience.contacts, contact.tenant = tenant) :
    ∀ contact ∈ audience'.contacts, contact.tenant = tenant := by
  simp only [ContactSource.addGroup] at h
  split at h
  · cases h
    exact haudience
  · simp only [bind_apply] at h
    cases hmatching : (e.contacts.matching g.compile tenant s).1 with
    | error err =>
      rw [hmatching] at h
      cases h
    | ok contacts =>
      rw [hmatching] at h
      cases h
      intro contact hmem
      rcases Audience.mem_insertAll hmem with hmem | hmem
      · exact haudience contact hmem
      · exact of_decide_eq_true (List.mem_filter.1 hmem).2

theorem homely_of_goes_sending {r : Run} {d : Option Deed} {stage : Stage}
    (h : e.Goes (.sending r) d stage) : stage.Homely := by
  rcases h.of_sending with ⟨_, rfl⟩ | ⟨_, rfl⟩ <;> trivial

/-- **Nobody comes in who does not belong to the tenant.** -/
theorem homely_step (turn : Turn) {stage : Stage} (s : σ) (h : stage.Homely) :
    (e.step turn stage s).1.Homely := by
  cases turn with
  | worker i =>
    cases stage with
    | sending r => exact homely_of_goes_sending (e.goes_step (.worker i) (.sending r) s)
    | _ => exact h
  | dispatcher =>
    cases stage with
    | sending r => exact homely_of_goes_sending (e.goes_step .dispatcher (.sending r) s)
    | ended ending => trivial
    | loading id recipients =>
      simp only [step, bind_apply]
      cases (e.campaigns.load id s).1 with
      | error err => trivial
      | ok campaign =>
        dsimp only
        split
        · cases recipients with
          | segments => trivial
          | list contacts =>
            intro contact hmem
            rcases Audience.mem_insertAll hmem with hmem | hmem
            · cases hmem
            · exact of_decide_eq_true (List.mem_filter.1 hmem).2
        · trivial
    | linking id campaign =>
      simp only [step, bind_apply]
      cases (e.campaigns.linkedRuleGroups id s).1 with
      | error err => trivial
      | ok groups => exact fun contact hmem => absurd hmem List.not_mem_nil
    | resolving campaign audience groups =>
      cases groups with
      | nil => exact h
      | cons g gs =>
        simp only [step, bind_apply]
        cases hadd : (e.contacts.addGroup campaign.tenant audience g s).1 with
        | error err => trivial
        | ok audience' => exact tenant_of_addGroup hadd h
    | identifying campaign audience =>
      simp only [step, bind_apply]
      cases (e.campaigns.tenant campaign.tenant s).1 with
      | error err => trivial
      | ok tenant => exact h
    | claiming campaign audience tenant =>
      simp only [step, bind_apply]
      cases (e.campaigns.claim campaign.id s).1 with
      | error err => trivial
      | ok won =>
        cases won with
        | false => trivial
        | true =>
          simp only [pure_apply, start_eq]
          split <;> trivial
    | completing report =>
      simp only [step, bind_apply]
      cases (e.campaigns.complete report.campaign s).1 <;> trivial

theorem Path.homely {stage stage' : Stage} {ds : List Deed} (h : e.Path stage ds stage')
    (hstage : stage.Homely) : stage'.Homely := by
  induction h with
  | refl => exact hstage
  | step _ turn s ih => exact homely_step turn s ih

end Engine

/-! ## From the claim on -/

/-- All contacts of a dispatch that is sending have a property. -/
structure Run.Within (p : Contact → Prop) (r : Run) : Prop where
  waiting : ∀ contact ∈ r.waiting, p contact
  next : ∀ contact address, r.next = some (contact, address) → p contact
  calling : ∀ contact email place, .calling contact email place ∈ r.workers → p contact
  recording : ∀ event, .recording event ∈ r.workers →
    ∃ contact, p contact ∧ event.contact = contact.id

/-- What is done concerns a contact with a property. -/
def Deed.Concerns (p : Contact → Prop) : Deed → Prop
  | started contact | called contact _ _ _ => p contact
  | recorded event _ => ∃ contact, p contact ∧ event.contact = contact.id
  | _ => True

namespace Run

variable {p : Contact → Prop} {r r' : Run}

/-- Whatever a worker does, and the dispatcher unless it starts one, the contacts of a dispatch are
those that it had. -/
theorem Within.frame (h : r.Within p) (hwaiting : ∀ contact ∈ r'.waiting, contact ∈ r.waiting)
    (hnext : ∀ contact address, r'.next = some (contact, address) → p contact)
    (hworkers : ∀ w ∈ r'.workers, w ∈ r.workers ∨
      (∃ contact email place, w = .calling contact email place ∧ p contact) ∨
      ∃ event contact, w = .recording event ∧ p contact ∧ event.contact = contact.id) :
    r'.Within p where
  waiting contact hmem := h.waiting contact (hwaiting contact hmem)
  next := hnext
  calling contact email place hmem := by
    rcases hworkers _ hmem with hmem | ⟨_, _, _, heq, hp⟩ | ⟨_, _, heq, -⟩
    · exact h.calling contact email place hmem
    · cases heq
      exact hp
    · cases heq
  recording event hmem := by
    rcases hworkers _ hmem with hmem | ⟨_, _, _, heq, -⟩ | ⟨_, contact, heq, hp, hid⟩
    · exact h.recording event hmem
    · cases heq
    · cases heq
      exact ⟨contact, hp, hid⟩

/-- **Whatever a step can come to concerns the contacts that a dispatch has, and brings in no
others.** -/
theorem Within.goes {limit : Nat} {d : Option Deed} (h : r.Within p) (hgoes : r.Goes limit d r') :
    (∀ deed ∈ d, deed.Concerns p) ∧ r'.Within p := by
  have hworker : ∀ {i : Nat} {contact : Contact} {email : OutboundEmail} {place : Nat},
      r.workers[i]? = some (.calling contact email place) → p contact :=
    fun hw => h.calling _ _ _ (List.mem_of_getElem? hw)
  have hnone : ∀ deed ∈ (none : Option Deed), deed.Concerns p := fun _ hd => by cases hd
  cases hgoes with
  | pass hnext hwaiting =>
    refine ⟨hnone, h.frame (fun contact hmem => ?_) h.next fun w hw => .inl hw⟩
    rw [hwaiting]
    exact List.mem_cons_of_mem _ hmem
  | @ready contact rest address hnext hwaiting =>
    refine ⟨hnone, h.frame (fun contact hmem => ?_) (fun contact' address' heq => ?_)
      fun w hw => .inl hw⟩
    · rw [hwaiting]
      exact List.mem_cons_of_mem _ hmem
    · cases heq
      exact h.waiting contact (hwaiting ▸ List.mem_cons_self)
  | stop =>
    exact ⟨hnone, h.frame (fun _ hmem => absurd hmem List.not_mem_nil)
      (fun _ _ heq => by cases heq) fun w hw => .inl hw⟩
  | @start contact address hnext =>
    have hp : p contact := h.next contact address hnext
    refine ⟨fun deed hd => ?_, h.frame (fun _ hmem => hmem) (fun _ _ heq => by cases heq)
      fun w hw => ?_⟩
    · cases hd
      exact hp
    · rcases List.mem_append.1 hw with hw | hw
      · exact .inl hw
      · obtain rfl := List.mem_singleton.1 hw
        exact .inr (.inl ⟨_, _, _, rfl, hp⟩)
  | retry hw =>
    refine ⟨fun deed hd => ?_, h.frame (fun _ hmem => hmem) h.next fun w hmem => ?_⟩
    · cases hd
      exact hworker hw
    · exact (List.mem_or_eq_of_mem_set hmem).imp_right fun heq =>
        .inl ⟨_, _, _, heq, hworker hw⟩
  | accept time receipt hw | refuse time error name hw =>
    refine ⟨fun deed hd => ?_, h.frame (fun _ hmem => hmem) h.next fun w hmem => ?_⟩
    · cases hd
      exact hworker hw
    · exact (List.mem_or_eq_of_mem_set hmem).imp_right fun heq =>
        .inr ⟨_, _, heq, hworker hw, rfl⟩
  | lack time error hw =>
    refine ⟨hnone, h.frame (fun _ hmem => hmem) h.next fun w hmem => ?_⟩
    exact (List.mem_or_eq_of_mem_set hmem).imp_right fun heq =>
      .inr ⟨_, _, heq, hworker hw, rfl⟩
  | lose hw =>
    refine ⟨fun deed hd => ?_, h.frame (fun _ hmem => hmem) h.next
      fun w hmem => .inl (List.mem_of_mem_eraseIdx hmem)⟩
    cases hd
    exact hworker hw
  | record answer hw =>
    refine ⟨fun deed hd => ?_, h.frame (fun _ hmem => hmem) h.next
      fun w hmem => .inl (List.mem_of_mem_eraseIdx hmem)⟩
    cases hd
    exact h.recording _ (List.mem_of_getElem? hw)

end Run

namespace Run.Trail

variable {limit : Nat} {ds : List Deed} {r r' : Run} {p : Contact → Prop}

/-- **All that is done concerns the contacts that a dispatch had.** -/
theorem concerns (h : r.Trail limit ds r') (hr : r.Within p) :
    (∀ d ∈ ds, d.Concerns p) ∧ r'.Within p := by
  induction h with
  | refl => exact ⟨fun d hd => absurd hd List.not_mem_nil, hr⟩
  | step _ hgoes ih =>
    obtain ⟨hbefore, hwithin⟩ := ih
    obtain ⟨hnow, hwithin⟩ := hwithin.goes hgoes
    refine ⟨fun d hd => ?_, hwithin⟩
    rcases List.mem_append.1 hd with hd | hd
    · exact hbefore d hd
    · exact hnow d (Option.mem_toList.1 hd)

end Run.Trail

end Dispatch
end Mailshot
