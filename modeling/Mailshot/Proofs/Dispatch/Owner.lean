import Mailshot.Proofs.Dispatch.Hand
import Mailshot.Proofs.Dispatch.Lifetime
import Mailshot.Proofs.Store.Segments

/-!
# On whose behalf a dispatch records

A campaign belongs to one tenant for good (`Store.ownerOf?_after`).  A dispatch reads the campaign,
looks for its tenant, and signs its events with the identifier of what it finds.  So they are signed
by the owner of the campaign, as the store has it at any later time: `Stage.Owned` says how far this
is settled in each stage, and `Engine.Lawful.owned_step` that no step loses it.
-/

set_option autoImplicit false

namespace Mailshot
namespace Store

/-- A statement leaves a campaign with its tenant. -/
theorem Statement.ownerOf?_apply {s : Store} (hs : s.Sound) {id tenant : String}
    (h : s.ownerOf? id = some tenant) (st : Statement) :
    (st.apply s).ownerOf? id = some tenant := by
  obtain ⟨r, hfind, rfl⟩ := Option.map_eq_some_iff.1 h
  obtain ⟨r', hfind', hbecomes⟩ := (st.does_apply s).becomes hs hfind
  rw [ownerOf?, hfind', hbecomes.written]
  rfl

/-- **A campaign belongs to one tenant for good.** -/
theorem ownerOf?_after {s : Store} (hs : s.Sound) {id tenant : String}
    (h : s.ownerOf? id = some tenant) (sts : List Statement) :
    (s.after sts).ownerOf? id = some tenant := by
  induction sts generalizing s with
  | nil => exact h
  | cons st sts ih => exact ih ((st.does_apply s).sound hs) (Statement.ownerOf?_apply hs h st)

/-- A campaign is read with its owner. -/
theorem ownerOf?_of_load {s : Store} {id : String} {campaign : Campaign}
    (h : s.load id = .ok campaign) : s.ownerOf? id = some campaign.tenant := by
  obtain ⟨r, hfind, -, -, htenant, -⟩ := row_of_load h
  rw [ownerOf?, hfind, htenant]
  rfl

end Store

namespace Dispatch

/-- As far as it is settled on whose behalf a campaign is dispatched, it is that of its owner. -/
def Stage.Owned (s : Store) (id : String) : Stage → Prop
  | .loading id' _ => id' = id
  | .linking _ campaign | .resolving campaign _ _ | .identifying campaign _ =>
    s.ownerOf? id = some campaign.tenant
  | .claiming _ _ tenant => s.ownerOf? id = some tenant.id
  | .sending r => s.ownerOf? id = some r.job.tenant.id
  | .completing _ | .ended _ => True

theorem Stage.Owned.after {s : Store} (hs : s.Sound) {id : String} {stage : Stage}
    (h : stage.Owned s id) (sts : List Store.Statement) : stage.Owned (s.after sts) id := by
  cases stage with
  | loading => exact h
  | completing | ended => trivial
  | _ => exact Store.ownerOf?_after hs h sts

namespace Engine

variable {σ : Type} {view : σ → Connection} {e : Engine σ} {s : σ} {id : String} {stage : Stage}

/-- What comes after the campaign and the tenant were read goes on in the same name. -/
theorem Goes.owned {store : Store} {a b : Stage} {d : Option Deed} (hgoes : e.Goes a d b)
    (h : a.Owned store id) (hloading : ∀ id recipients, a ≠ .loading id recipients)
    (hidentifying : ∀ campaign audience, a ≠ .identifying campaign audience) :
    b.Owned store id := by
  cases hgoes with
  | rest | link | add | gather | win => exact h
  | work hgoes =>
    rw [Stage.Owned, hgoes.job_eq]
    exact h
  | skip | load | pick => exact absurd rfl (hloading _ _)
  | identify => exact absurd rfl (hidentifying _ _)
  | _ => trivial

/-- The campaign is read with its owner. -/
theorem Lawful.owned_loading (h : e.Lawful view) (recipients : Recipients) :
    (e.step .dispatcher (.loading id recipients) s).1.Owned (view s).store id := by
  have hfst : (Connection.load id (view s)).1 = (e.campaigns.load id s).1 :=
    congrArg Prod.fst (h.load id s)
  simp only [step, bind_apply]
  cases hload : (e.campaigns.load id s).1 with
  | error err => trivial
  | ok campaign =>
    have howner := Store.ownerOf?_of_load (of_read_fst (hfst.trans hload)).2
    dsimp only
    split
    · cases recipients with
      | segments => exact howner
      | list contacts => exact howner
    · trivial

/-- The tenant is the one that was looked for. -/
theorem Lawful.owned_identifying (h : e.Lawful view) {campaign : Campaign} {audience : Audience}
    (howned : (Stage.identifying campaign audience).Owned (view s).store id) :
    (e.step .dispatcher (.identifying campaign audience) s).1.Owned (view s).store id := by
  have hfst : (Connection.tenant campaign.tenant (view s)).1 =
      (e.campaigns.tenant campaign.tenant s).1 := congrArg Prod.fst (h.tenant campaign.tenant s)
  simp only [step, bind_apply]
  cases htenant : (e.campaigns.tenant campaign.tenant s).1 with
  | error err => trivial
  | ok tenant =>
    show (view s).store.ownerOf? id = some tenant.id
    rw [Store.id_of_tenant (of_read_fst (hfst.trans htenant)).2]
    exact howned

/-- **A dispatch goes on in the name of the owner.** -/
theorem Lawful.owned_step (h : e.Lawful view) (turn : Turn) (hs : (view s).store.Sound)
    (howned : stage.Owned (view s).store id) :
    (e.step turn stage s).1.Owned (view (e.step turn stage s).2).store id := by
  obtain ⟨sts, hsts⟩ := h.exists_after turn stage s
  rw [hsts]
  refine Stage.Owned.after hs ?_ sts
  have hgoes := e.goes_step turn stage s
  cases turn with
  | worker i =>
    cases stage with
    | loading | identifying => exact howned
    | _ => exact hgoes.owned howned (fun _ _ heq => by cases heq) fun _ _ heq => by cases heq
  | dispatcher =>
    cases stage with
    | loading id' recipients =>
      obtain rfl : id' = id := howned
      exact h.owned_loading recipients
    | identifying => exact h.owned_identifying howned
    | _ => exact hgoes.owned howned (fun _ _ heq => by cases heq) fun _ _ heq => by cases heq

/-- An event that is recorded in a step is signed by the tenant of the dispatch. -/
theorem Path.owner_of_recorded {store : Store} {recipients : Recipients} {ds : List Deed}
    (h : e.Path (.loading id recipients) ds stage) (howned : stage.Owned store id) {turn : Turn}
    {event : SendEvent} {answer : Except CampaignError Unit}
    (hdeed : e.deed turn stage s = some (.recorded event answer)) :
    store.ownerOf? id = some event.tenant := by
  have hgoes := e.goes_step turn stage s
  rw [hdeed] at hgoes
  generalize (e.step turn stage s).1 = now at hgoes
  cases hgoes with
  | work hwork =>
    rcases h.through_claiming with ⟨-, hearly⟩ | ⟨_, _, _, -, -, -, hafter⟩
    · exact hearly.elim
    · cases hafter.since with
      | sending hlimit htrail =>
        cases hwork with
        | record answer hworker =>
          rw [(htrail.signed.pending event (List.mem_of_getElem? hworker)).2]
          exact howned

end Engine
end Dispatch
end Mailshot
