import Mailshot.Proofs.Dispatch.Effect
import Mailshot.Proofs.Store.Statement

/-!
# What a dispatch does to the store

A dispatch shares its store with others.  Its collaborators are only asked to keep to the store
(`Engine.Lawful`): the campaigns are those of the store, and whatever else a collaborator does to
the store others might do as well (`Store.Elsewhere`).  A channel may ask for sending to stop, for
example.  Nothing is asked of the rest of the state, so that channels may keep books of their own,
and the store may become unreachable and reachable again at any time.

`Engine.Lawful.effect_step` is what others may rely on: what a step does to the store can be told
from its deed.
-/

set_option autoImplicit false

namespace Mailshot
namespace Dispatch

variable {σ : Type} {view : σ → Connection}

/-! ## What an action does to the store -/

/-- An action answers what a call of the connection answers, and does the same to the store. -/
def Acts {α : Type} (view : σ → Connection) (m : StateM σ α) (call : StateM Connection α) : Prop :=
  ∀ s, call (view s) = ((m s).1, view (m s).2)

/-- An action does so with a call that notes the time, whatever time it is. -/
def ActsInTime {α : Type} (view : σ → Connection) (m : StateM σ α)
    (call : String → StateM Connection α) : Prop :=
  ∀ s, ∃ now, call now (view s) = ((m s).1, view (m s).2)

/-- An action does nothing to the store that others may not do. -/
def Minds {α : Type} (view : σ → Connection) (m : StateM σ α) : Prop :=
  ∀ s, Store.Elsewhere (view s).store (view (m s).2).store

theorem minds_pure {α : Type} (a : α) : Minds view (pure a : StateM σ α) :=
  fun s => Store.Elsewhere.refl (view s).store

/-- Reading leaves a connection as it is. -/
theorem read_snd {ε α : Type} (refuse : StoreFault → ε) (f : Store → Except ε α)
    (c : Connection) : (Connection.read refuse f c).2 = c := by
  rw [Connection.read]
  split <;> rfl

/-- What is read comes from a store that can be reached. -/
theorem of_read_fst {ε α : Type} {refuse : StoreFault → ε} {f : Store → Except ε α}
    {c : Connection} {a : α} (h : (Connection.read refuse f c).1 = .ok a) :
    c.isOpen = true ∧ f c.store = .ok a := by
  rw [Connection.read] at h
  split at h
  · next hopen => exact ⟨hopen, h⟩
  · cases h

/-- So does looking for contacts. -/
theorem contactSource_matching_snd (p : Predicate) (tenant : String) (c : Connection) :
    (Connection.contactSource.matching p tenant c).2 = c := by
  rw [Connection.contactSource]
  dsimp only
  split
  · rfl
  · exact read_snd _ _ c

/-- What only reads the store minds it. -/
theorem Acts.minds {ε α : Type} {m : StateM σ (Except ε α)} {refuse : StoreFault → ε}
    {f : Store → Except ε α} (h : Acts view m (Connection.read refuse f)) : Minds view m := by
  intro s
  have hsame : view s = view (m s).2 :=
    (read_snd refuse f (view s)).symm.trans (congrArg Prod.snd (h s))
  rw [← hsame]
  exact .refl _

/-- The campaigns of a dispatch are those of the store, and its other collaborators do nothing to
the store that others may not do. -/
structure Engine.Lawful (view : σ → Connection) (e : Engine σ) : Prop where
  load : ∀ id, Acts view (e.campaigns.load id) (Connection.load id)
  tenant : ∀ id, Acts view (e.campaigns.tenant id) (Connection.tenant id)
  linkedRuleGroups : ∀ id,
    Acts view (e.campaigns.linkedRuleGroups id) (Connection.linkedRuleGroups id)
  claim : ∀ id, ActsInTime view (e.campaigns.claim id) (Connection.claim id)
  complete : ∀ id, ActsInTime view (e.campaigns.complete id) (Connection.complete id)
  cancelRequested : ∀ id, Acts view (e.campaigns.cancelRequested id) (Connection.cancelRequested id)
  contacts : ∀ predicate tenant, Minds view (e.contacts.matching predicate tenant)
  channels : ∀ channel ∈ e.failover.channels, ∀ email, Minds view (channel.send email)
  record : ∀ event, Minds view (e.record event)
  clock : Minds view e.clock

/-- A dispatch that works with a connection is lawful if its channels and its clock are. -/
theorem Engine.lawful_ofStore (now : Connection → String) (failover : Failover Connection)
    (clock : StateM Connection Instant) (concurrency : Nat) (defaultSender : Option String)
    (hchannels : ∀ channel ∈ failover.channels, ∀ email, Minds id (channel.send email))
    (hclock : Minds id clock) :
    (Engine.ofStore now failover clock concurrency defaultSender).Lawful id where
  load _ _ := rfl
  tenant _ _ := rfl
  linkedRuleGroups _ _ := rfl
  claim _ c := ⟨now c, rfl⟩
  complete _ c := ⟨now c, rfl⟩
  cancelRequested _ _ := rfl
  contacts predicate tenant := by
    intro s
    show Store.Elsewhere _ (Connection.contactSource.matching predicate tenant s).2.store
    rw [contactSource_matching_snd]
    exact .refl _
  channels := hchannels
  record event := by
    intro s
    show Store.Elsewhere s.store (Connection.append event s).2.store
    rw [Connection.append, Connection.change, Connection.call]
    split
    · exact .of_statement (.append event) rfl
    · exact .refl _
  clock := hclock

namespace Engine

variable {e : Engine σ}

/-- Under an identifier the store has the campaign with this identifier. -/
theorem Lawful.id_eq (h : e.Lawful view) {id : String} {campaign : Campaign}
    (hreads : e.Reads id campaign) : campaign.id = id := by
  obtain ⟨s, hload⟩ := hreads
  exact Store.id_of_load (of_read_fst ((congrArg Prod.fst (h.load id s)).trans hload)).2

/-! ## What a step does to the store -/

/-- Whatever a lawful dispatch calls does nothing to the store that others may not do, unless it
claims, completes or records. -/
theorem Lawful.keeping (h : e.Lawful view) :
    e.Keeping fun s s' => Store.Elsewhere (view s).store (view s').store where
  refl _ := .refl _
  trans _ _ _ h h' := h.trans h'
  load id := (h.load id).minds
  tenant id := (h.tenant id).minds
  linkedRuleGroups id := (h.linkedRuleGroups id).minds
  cancelRequested id := (h.cancelRequested id).minds
  contacts := h.contacts
  channels := h.channels
  clock := h.clock

end Engine

/-- Whether a campaign is claimed or completed by it. -/
def Deed.isGuard : Deed → Bool
  | asked _ _ | completed _ _ => true
  | _ => false

/-- A dispatch that is sending neither claims nor completes. -/
theorem Run.Goes.isGuard_eq {limit : Nat} {r r' : Run} {d : Option Deed} (h : r.Goes limit d r') :
    ∀ deed ∈ d, deed.isGuard = false := by
  intro deed hdeed
  cases h <;> cases hdeed <;> rfl

/-- What a step in which this is done may do to the store. -/
inductive Deed.Effect : Option Deed → Connection → Connection → Prop
  /-- The campaign is claimed if that is possible. -/
  | ask {id now : String} {answer : Except CampaignError Bool} {c c' : Connection}
      (h : Connection.claim id now c = (answer, c')) : Effect (some (.asked id answer)) c c'
  /-- The campaign is completed if that is possible. -/
  | complete {id now : String} {answer : Except CampaignError Unit} {c c' : Connection}
      (h : Connection.complete id now c = (answer, c')) : Effect (some (.completed id answer)) c c'
  /-- Nothing happens that others may not do. -/
  | mind {d : Option Deed} {c c' : Connection} (hd : ∀ deed ∈ d, deed.isGuard = false)
      (h : Store.Elsewhere c.store c'.store) : Effect d c c'

namespace Engine

variable {e : Engine σ}

/-- **What a step does to the store** can be told from what is done in it. -/
theorem Lawful.effect_step (h : e.Lawful view) (turn : Turn) (stage : Stage) (s : σ) :
    Deed.Effect (e.deed turn stage s) (view s) (view (e.step turn stage s).2) := by
  have hafter := h.keeping.after_step turn stage s
  generalize e.deed turn stage s = d at hafter ⊢
  generalize (e.step turn stage s).2 = s' at hafter ⊢
  cases hafter with
  | asked id =>
    obtain ⟨now, hclaim⟩ := h.claim id s
    exact .ask hclaim
  | completed id =>
    obtain ⟨now, hcomplete⟩ := h.complete id s
    exact .complete hcomplete
  | recorded event => exact .mind (fun deed hdeed => by cases hdeed; rfl) (h.record event s)
  | other hd helse =>
    refine .mind (fun deed hdeed => ?_) helse
    have hcommit := hd deed hdeed
    cases deed <;> first | rfl | cases hcommit

end Engine
end Dispatch
end Mailshot
