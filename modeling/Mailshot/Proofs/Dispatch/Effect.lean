import Mailshot.Proofs.Dispatch.Path

/-!
# What a step does to the state

A step leaves the state to its collaborators.  `Engine.Keeping` says that those who are only asked,
and the channels and the clock, keep to a relation between the state before and the state after;
claiming, completing and recording are left out, since they are there to change something.

`Engine.Keeping.after_step` puts this together for a whole step: its deed tells which of the calls
that change something was made, and if none was, the relation holds.
-/

set_option autoImplicit false

namespace Mailshot
namespace Dispatch

variable {σ : Type} {E : σ → σ → Prop}

/-- An action keeps to a relation between the state before and the state after it. -/
def Keeps {α : Type} (E : σ → σ → Prop) (m : StateM σ α) : Prop := ∀ s, E s (m s).2

theorem keeps_pure {α : Type} (hrefl : ∀ s, E s s) (a : α) : Keeps E (pure a : StateM σ α) :=
  fun s => hrefl s

theorem Keeps.bind {α β : Type} {m : StateM σ α} {f : α → StateM σ β}
    (htrans : ∀ a b c, E a b → E b c → E a c) (h : Keeps E m) (hf : ∀ a, Keeps E (f a)) :
    Keeps E (m >>= f) :=
  fun s => htrans _ _ _ (h s) (hf (m s).1 (m s).2)

/-- Whether by it the campaign is claimed or completed, or an event is recorded. -/
def Deed.isCommit : Deed → Bool
  | asked _ _ | completed _ _ | recorded _ _ => true
  | _ => false

namespace Engine

/-- Whatever a dispatch calls keeps to a relation, but for the calls that claim, complete and
record. -/
structure Keeping (E : σ → σ → Prop) (e : Engine σ) : Prop where
  refl : ∀ s, E s s
  trans : ∀ a b c, E a b → E b c → E a c
  load : ∀ id, Keeps E (e.campaigns.load id)
  tenant : ∀ id, Keeps E (e.campaigns.tenant id)
  linkedRuleGroups : ∀ id, Keeps E (e.campaigns.linkedRuleGroups id)
  cancelRequested : ∀ id, Keeps E (e.campaigns.cancelRequested id)
  contacts : ∀ predicate tenant, Keeps E (e.contacts.matching predicate tenant)
  channels : ∀ channel ∈ e.failover.channels, ∀ email, Keeps E (channel.send email)
  clock : Keeps E e.clock

/-- What a step in which this is done may do to the state. -/
inductive After (E : σ → σ → Prop) (e : Engine σ) (s : σ) : Option Deed → σ → Prop
  /-- The campaign is claimed if that is possible. -/
  | asked (id : String) :
      After E e s (some (.asked id (e.campaigns.claim id s).1)) (e.campaigns.claim id s).2
  /-- The campaign is completed if that is possible. -/
  | completed (id : String) :
      After E e s (some (.completed id (e.campaigns.complete id s).1))
        (e.campaigns.complete id s).2
  /-- An event is recorded if that is possible. -/
  | recorded (event : SendEvent) :
      After E e s (some (.recorded event (e.record event s).1)) (e.record event s).2
  /-- Nothing of the kind is done. -/
  | other {d : Option Deed} {s' : σ} (hd : ∀ deed ∈ d, deed.isCommit = false) (h : E s s') :
      After E e s d s'

namespace Keeping

variable {e : Engine σ}

/-- What a relation carries over from the state before to the state after is kept. -/
theorem invariant {P : σ → Prop} (h : e.Keeping E) (hP : ∀ s s', E s s' → P s → P s') :
    e.Keeping fun s s' => P s → P s' where
  refl _ hs := hs
  trans _ _ _ h h' hs := h' (h hs)
  load id s := hP _ _ (h.load id s)
  tenant id s := hP _ _ (h.tenant id s)
  linkedRuleGroups id s := hP _ _ (h.linkedRuleGroups id s)
  cancelRequested id s := hP _ _ (h.cancelRequested id s)
  contacts predicate tenant s := hP _ _ (h.contacts predicate tenant s)
  channels channel hchannel email s := hP _ _ (h.channels channel hchannel email s)
  clock s := hP _ _ (h.clock s)

theorem keeps_dispatcherStep (h : e.Keeping E) (r : Run) : Keeps E (e.dispatcherStep r) := by
  rw [dispatcherStep]
  split
  · refine (h.cancelRequested _).bind h.trans fun answer => ?_
    split <;> exact keeps_pure h.refl _
  · split
    · split
      · exact keeps_pure h.refl _
      · split <;> exact keeps_pure h.refl _
    · split <;> exact keeps_pure h.refl _

theorem keeps_addGroup (h : e.Keeping E) (tenant : String) (audience : Audience) (g : RuleGroup) :
    Keeps E (e.contacts.addGroup tenant audience g) := by
  rw [ContactSource.addGroup]
  split
  · exact keeps_pure h.refl _
  · refine (h.contacts _ tenant).bind h.trans fun answer => ?_
    split <;> exact keeps_pure h.refl _

/-- A step of a worker. -/
theorem after_workerStep (h : e.Keeping E) (r : Run) (i : Nat) (s : σ) :
    After E e s (e.deed (.worker i) (.sending r) s) (e.workerStep r i s).2 := by
  cases hworker : r.workers[i]? with
  | none =>
    simp only [workerStep, deed, hworker]
    exact .other (fun _ hd => by cases hd) (h.refl s)
  | some w =>
    cases w with
    | recording event =>
      simp only [workerStep, deed, hworker]
      exact .recorded event
    | calling contact email place =>
      cases hchannel : e.failover.channels[place]? with
      | none =>
        simp only [workerStep, deed, hworker, hchannel]
        exact .other (fun _ hd => by cases hd) (h.clock s)
      | some channel =>
        have hmem : channel ∈ e.failover.channels := List.mem_of_getElem? hchannel
        simp only [workerStep, deed, hworker, hchannel]
        refine .other (fun _ hd => by cases hd; rfl) ?_
        exact h.trans _ _ _ (h.channels channel hmem email s) (h.clock _)

/-- A step of the dispatcher up to the claim, which does nothing that others can notice. -/
theorem keeps_early (h : e.Keeping E) {stage : Stage} (hearly : stage.isEarly = true) :
    Keeps E (e.step .dispatcher stage) := by
  cases stage with
  | loading id recipients =>
    refine (h.load id).bind h.trans fun answer => ?_
    split
    · exact keeps_pure h.refl _
    · split
      · split <;> exact keeps_pure h.refl _
      · exact keeps_pure h.refl _
  | linking id campaign =>
    refine (h.linkedRuleGroups id).bind h.trans fun answer => ?_
    split <;> exact keeps_pure h.refl _
  | resolving campaign audience groups =>
    cases groups with
    | nil => exact keeps_pure h.refl _
    | cons g gs =>
      refine (h.keeps_addGroup campaign.tenant audience g).bind h.trans fun answer => ?_
      split <;> exact keeps_pure h.refl _
  | identifying campaign audience =>
    refine (h.tenant campaign.tenant).bind h.trans fun answer => ?_
    split <;> exact keeps_pure h.refl _
  | _ => cases hearly

/-- **What a step does to the state** can be told from what is done in it. -/
theorem after_step (h : e.Keeping E) (turn : Turn) (stage : Stage) (s : σ) :
    After E e s (e.deed turn stage s) (e.step turn stage s).2 := by
  have hnone : ∀ deed ∈ (none : Option Deed), deed.isCommit = false := fun _ hd => by cases hd
  cases turn with
  | worker i =>
    cases stage with
    | sending r => exact h.after_workerStep r i s
    | _ => exact .other hnone (h.refl s)
  | dispatcher =>
    cases stage with
    | sending r =>
      refine .other (fun deed hd => ?_) (h.keeps_dispatcherStep r s)
      simp only [Engine.deed] at hd
      split at hd
      · split at hd <;> cases hd
        rfl
      · cases hd
    | claiming campaign audience tenant =>
      have hstate : (e.step .dispatcher (.claiming campaign audience tenant) s).2 =
          (e.campaigns.claim campaign.id s).2 := by
        simp only [step, bind_apply]
        cases (e.campaigns.claim campaign.id s).1 with
        | error err => rfl
        | ok won => cases won <;> rfl
      rw [hstate]
      exact .asked campaign.id
    | completing report =>
      have hstate : (e.step .dispatcher (.completing report) s).2 =
          (e.campaigns.complete report.campaign s).2 := by
        simp only [step, bind_apply]
        cases (e.campaigns.complete report.campaign s).1 <;> rfl
      rw [hstate]
      exact .completed report.campaign
    | ended ending => exact .other hnone (h.refl s)
    | loading | linking | resolving | identifying => exact .other hnone (h.keeps_early rfl s)

end Keeping
end Engine
end Dispatch
end Mailshot
