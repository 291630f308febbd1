import Mathlib.Logic.Relation
import Mailshot.Store.Connection

/-!
# What statements do to a campaign

A `Store.Statement` is one statement that may change the store, carried out as a whole.  What it
does to the status of a campaign is known from the statement (`Store.Statement.status?_apply`):
claiming moves a campaign into sending, completing moves it out, and no other statement does either.

`Store.Elsewhere` is what may happen to a store on the part of others while a campaign is
dispatched: any statements, in any number, but those that claim or complete a campaign.  A campaign
that is being sent or was sent does not notice (`Elsewhere.status?_eq`).
-/

set_option autoImplicit false

namespace Mailshot

/-- A status is known by its name. -/
theorem Status.name_inj {a b : Status} : a.name = b.name ↔ a = b := by
  refine ⟨fun h => ?_, congrArg name⟩
  exact Option.some.inj (by rw [← a.ofName?_name, h, b.ofName?_name])

namespace Store

/-- Where a campaign stands, as it is written. -/
def status? (s : Store) (id : String) : Option String := (s.campaigns.find? id).map (·.status)

/-- A campaign that is read has a row. -/
theorem row_of_load {s : Store} {id : String} {campaign : Campaign}
    (h : s.load id = .ok campaign) : ∃ r, s.campaigns.find? id = some r ∧
      Status.ofName? r.status = some campaign.status ∧ campaign.id = id ∧
      campaign.tenant = r.tenant ∧ campaign.cancelRequested = r.cancelRequested := by
  rw [load] at h
  split at h
  · next r hfind =>
    rw [campaignOfRow, Status.parse] at h
    cases hparse : Status.ofName? r.status with
    | none =>
      rw [hparse] at h
      cases h
    | some status =>
      rw [hparse] at h
      cases h
      exact ⟨r, hfind, hparse, rfl, rfl, rfl⟩
  · cases h

/-- Under an identifier there is the campaign with this identifier. -/
theorem id_of_load {s : Store} {id : String} {campaign : Campaign}
    (h : s.load id = .ok campaign) : campaign.id = id := by
  obtain ⟨_, -, -, hid, -⟩ := row_of_load h
  exact hid

/-- Under an identifier there is the tenant with this identifier. -/
theorem id_of_tenant {s : Store} {id : String} {t : Tenant} (h : s.tenant id = .ok t) :
    t.id = id := by
  rw [tenant] at h
  split at h <;> cases h
  rfl

/-! ## Changing a row if its status is right -/

section SetWhere

variable (s : Store) (id : String) (statuses : List Status) (f : CampaignRow → CampaignRow)

/-- A row is changed just if its status is one of those that are asked for. -/
theorem setWhere_fst :
    (s.setWhere id statuses f).1 = true ↔ ∃ status ∈ statuses, s.status? id = some status.name := by
  rw [setWhere, status?]
  cases s.campaigns.find? id with
  | none => simp
  | some r =>
    dsimp only
    split
    · next h => simpa [eq_comm] using h
    · next h => simpa [eq_comm] using h

/-- Otherwise nothing is changed. -/
theorem setWhere_snd (h : (s.setWhere id statuses f).1 = false) :
    (s.setWhere id statuses f).2 = s := by
  rw [setWhere] at h ⊢
  split
  · split
    · next hfind hstatus => simp [hfind, hstatus] at h
    · rfl
  · rfl

/-- Only this row is changed. -/
theorem find?_setWhere (q : String) :
    (s.setWhere id statuses f).2.campaigns.find? q =
      if (s.setWhere id statuses f).1 = true ∧ id = q then (s.campaigns.find? q).map f
      else s.campaigns.find? q := by
  rw [setWhere]
  cases hfind : s.campaigns.find? id with
  | none => simp
  | some r =>
    dsimp only
    split
    · rw [Table.find?_insert]
      by_cases hid : id = q
      · subst hid
        simp [hfind]
      · simp [hid]
    · simp

theorem status?_setWhere {status : Status} (hf : ∀ r, (f r).status = status.name) (q : String) :
    (s.setWhere id statuses f).2.status? q =
      if (s.setWhere id statuses f).1 = true ∧ id = q then some status.name else s.status? q := by
  rw [status?, find?_setWhere]
  split
  · next h =>
    obtain ⟨hset, rfl⟩ := h
    obtain ⟨_, -, hstatus⟩ := (s.setWhere_fst id statuses f).1 hset
    obtain ⟨r, hr, -⟩ := Option.map_eq_some_iff.1 hstatus
    rw [hr, Option.map_some, Option.map_some, hf]
  · rfl

end SetWhere

/-- A claim succeeds just if the campaign is a draft or scheduled. -/
theorem claim_fst (s : Store) (id now : String) :
    (s.claim id now).1 = true ↔
      s.status? id = some Status.draft.name ∨ s.status? id = some Status.scheduled.name := by
  rw [claim, setWhere_fst]
  simp

theorem status?_claim (s : Store) (id now q : String) :
    (s.claim id now).2.status? q =
      if (s.claim id now).1 = true ∧ id = q then some Status.sending.name else s.status? q :=
  s.status?_setWhere id _ _ (fun _ => rfl) q

theorem markCompleted_fst (s : Store) (id now : String) :
    (s.markCompleted id now).1 = true ↔ s.status? id = some Status.sending.name := by
  rw [markCompleted, setWhere_fst]
  simp

/-- Completing a campaign is one statement, and another one that explains a refusal. -/
theorem complete_eq (s : Store) (id now : String) :
    s.complete id now =
      if (s.markCompleted id now).1 then (.ok (), (s.markCompleted id now).2)
      else (.error ((s.markCompleted id now).2.explainComplete id),
        (s.markCompleted id now).2) := by
  rw [complete]
  split
  · next h => rw [h, if_pos rfl]
  · next h => rw [h, if_neg Bool.false_ne_true]

theorem status?_markCompleted (s : Store) (id now q : String) :
    (s.markCompleted id now).2.status? q =
      if (s.markCompleted id now).1 = true ∧ id = q then some Status.completed.name
      else s.status? q :=
  s.status?_setWhere id _ _ (fun _ => rfl) q

/-- Asking for sending to stop is one statement, and another one that explains a refusal. -/
theorem requestCancel_eq (s : Store) (id now : String) :
    s.requestCancel id now =
      if (s.markCancelled id now).1 then (.ok (), (s.markCancelled id now).2)
      else (.error ((s.markCancelled id now).2.explainCancel id),
        (s.markCancelled id now).2) := by
  rw [requestCancel]
  split
  · next h => rw [h, if_pos rfl]
  · next h => rw [h, if_neg Bool.false_ne_true]

theorem requestCancel_snd (s : Store) (id now : String) :
    (s.requestCancel id now).2 = (s.markCancelled id now).2 := by
  rw [requestCancel_eq]
  split <;> rfl

theorem markScheduled_fst (s : Store) (id now : String) (time : Instant) :
    (s.markScheduled id now time).1 = true ↔ s.status? id = some Status.draft.name := by
  rw [markScheduled, setWhere_fst]
  simp

theorem status?_markScheduled (s : Store) (id now : String) (time : Instant) (q : String) :
    (s.markScheduled id now time).2.status? q =
      if (s.markScheduled id now time).1 = true ∧ id = q then some Status.scheduled.name
      else s.status? q :=
  s.status?_setWhere id _ _ (fun _ => rfl) q

/-- Asking for sending to stop leaves every campaign where it stands. -/
theorem status?_markCancelled (s : Store) (id now q : String) :
    (s.markCancelled id now).2.status? q = s.status? q := by
  rw [status?, markCancelled, find?_setWhere, status?]
  split
  · rw [Option.map_map]
    rfl
  · rfl

/-! ## Statements -/

/-- One statement that may change the store. -/
inductive Statement where
  /-- A tenant is stored. -/
  | upsertTenant (tenant : Tenant)
  /-- A contact is stored. -/
  | upsertContact (contact : Contact)
  /-- A campaign is made. -/
  | createCampaign (id createdAt : String) (new : NewCampaign)
  /-- A segment is made. -/
  | createSegment (id createdAt tenant name : String) (rules : RuleGroup)
  /-- A campaign is to go to a segment. -/
  | link (campaign segment : String)
  /-- A draft is given a moment. -/
  | markScheduled (id now : String) (time : Instant)
  /-- Sending is to stop. -/
  | markCancelled (id now : String)
  /-- A campaign is claimed for sending. -/
  | claim (id now : String)
  /-- A campaign is completed. -/
  | markCompleted (id now : String)
  /-- An event is appended. -/
  | append (event : SendEvent)

/-- The store after a statement that is carried out or refused. -/
def orSame (s : Store) : Except StoreFault Store → Store
  | .ok s' => s'
  | .error _ => s

namespace Statement

/-- The store after a statement.  A statement that is refused changes nothing. -/
def apply (s : Store) : Statement → Store
  | upsertTenant tenant => s.upsertTenant tenant
  | upsertContact contact => s.orSame (s.upsertContact contact)
  | createCampaign id createdAt new => s.orSame (s.createCampaign id createdAt new)
  | createSegment id createdAt tenant name rules =>
    s.orSame (s.createSegment id createdAt tenant name rules)
  | link campaign segment => s.orSame (s.link campaign segment)
  | markScheduled id now time => (s.markScheduled id now time).2
  | markCancelled id now => (s.markCancelled id now).2
  | claim id now => (s.claim id now).2
  | markCompleted id now => (s.markCompleted id now).2
  | append event => s.append event

/-- How a statement may move a campaign on. -/
inductive Moves (id : String) : Statement → Option String → Option String → Prop
  /-- It is made. -/
  | create (createdAt : String) (new : NewCampaign) :
      Moves id (.createCampaign id createdAt new) none (some Status.draft.name)
  /-- It is given a moment. -/
  | schedule (now : String) (time : Instant) :
      Moves id (.markScheduled id now time) (some Status.draft.name) (some Status.scheduled.name)
  /-- It is claimed. -/
  | claim (now : String) {status : Status} (hstatus : status.isSendable = true) :
      Moves id (.claim id now) (some status.name) (some Status.sending.name)
  /-- It is completed. -/
  | complete (now : String) :
      Moves id (.markCompleted id now) (some Status.sending.name) (some Status.completed.name)

variable (s : Store) (id : String)

theorem status?_createCampaign (id' createdAt : String) (new : NewCampaign) :
    (apply s (.createCampaign id' createdAt new)).status? id = s.status? id ∨
      Moves id (.createCampaign id' createdAt new) (s.status? id)
        ((apply s (.createCampaign id' createdAt new)).status? id) := by
  rw [apply, Store.createCampaign]
  split
  · exact .inl rfl
  · split
    · exact .inl rfl
    · next hfresh =>
      by_cases hid : id' = id
      · subst hid
        have hnone : s.status? id' = none := by
          rw [status?, Option.map_eq_none_iff, ← Option.not_isSome_iff_eq_none]
          exact hfresh
        rw [hnone, orSame, status?, Table.find?_insert, if_pos rfl]
        exact .inr (.create createdAt new)
      · rw [orSame, status?, Table.find?_insert, if_neg hid]
        exact .inl rfl

/-- **What a statement does to the status of a campaign**: nothing, or what the life of a campaign
allows. -/
theorem status?_apply (st : Statement) :
    (st.apply s).status? id = s.status? id ∨
      st.Moves id (s.status? id) ((st.apply s).status? id) := by
  cases st with
  | upsertTenant | append => exact .inl rfl
  | upsertContact contact =>
    rw [apply, Store.upsertContact]
    split <;> exact .inl rfl
  | createCampaign id' createdAt new => exact status?_createCampaign s id id' createdAt new
  | createSegment id' createdAt tenant name rules =>
    rw [apply, Store.createSegment]
    split
    · exact .inl rfl
    · split <;> exact .inl rfl
  | link campaign segment =>
    rw [apply, Store.link]
    split
    · exact .inl rfl
    · split <;> exact .inl rfl
  | markCancelled id' now => exact .inl (s.status?_markCancelled id' now id)
  | markScheduled id' now time =>
    rw [apply, status?_markScheduled]
    split
    · next h =>
      obtain ⟨hset, rfl⟩ := h
      rw [(s.markScheduled_fst id' now time).1 hset]
      exact .inr (.schedule now time)
    · exact .inl rfl
  | claim id' now =>
    rw [apply, status?_claim]
    split
    · next h =>
      obtain ⟨hset, rfl⟩ := h
      rcases (s.claim_fst id' now).1 hset with hstatus | hstatus
      · rw [hstatus]
        exact .inr (.claim now rfl)
      · rw [hstatus]
        exact .inr (.claim now rfl)
    · exact .inl rfl
  | markCompleted id' now =>
    rw [apply, status?_markCompleted]
    split
    · next h =>
      obtain ⟨hset, rfl⟩ := h
      rw [(s.markCompleted_fst id' now).1 hset]
      exact .inr (.complete now)
    · exact .inl rfl

/-- Whether a statement neither claims nor completes a campaign. -/
def isElsewhere : Statement → Bool
  | claim _ _ | markCompleted _ _ => false
  | _ => true

/-- Without claiming or completing it, a campaign is only made, or moved on as a draft. -/
theorem Moves.eq_of_isElsewhere {id : String} {st : Statement} {before after : Option String}
    (h : st.Moves id before after) (helse : st.isElsewhere = true) :
    before = none ∨ before = some Status.draft.name := by
  cases h with
  | create => exact .inl rfl
  | schedule => exact .inr rfl
  | claim | complete => cases helse

end Statement

/-! ## What others do -/

/-- Statements were carried out, none of which claims or completes a campaign. -/
def Elsewhere : Store → Store → Prop :=
  Relation.ReflTransGen fun s s' => ∃ st : Statement, st.isElsewhere = true ∧ s' = st.apply s

namespace Elsewhere

variable {s s' : Store}

theorem refl (s : Store) : Elsewhere s s := Relation.ReflTransGen.refl

theorem of_statement (st : Statement) (h : st.isElsewhere = true) : Elsewhere s (st.apply s) :=
  Relation.ReflTransGen.single ⟨st, h, rfl⟩

theorem trans {s'' : Store} (h : Elsewhere s s') (h' : Elsewhere s' s'') : Elsewhere s s'' :=
  Relation.ReflTransGen.trans h h'

/-- Asking for sending to stop is nothing else. -/
theorem requestCancel (id now : String) : Elsewhere s (s.requestCancel id now).2 := by
  rw [requestCancel_snd]
  exact of_statement (.markCancelled id now) rfl

/-- **Nobody else moves a campaign that is being sent or was sent.** -/
theorem status?_eq (h : Elsewhere s s') {id : String} {status : Status}
    (hstatus : status.isSendable = false) (hs : s.status? id = some status.name) :
    s'.status? id = some status.name := by
  induction h with
  | refl => exact hs
  | tail _ hstep ih =>
    obtain ⟨st, helse, rfl⟩ := hstep
    rcases Statement.status?_apply _ id st with hsame | hmoves
    · rw [hsame, ih]
    · rcases hmoves.eq_of_isElsewhere helse with hnone | hdraft
      · rw [ih] at hnone
        cases hnone
      · rw [ih] at hdraft
        rw [Status.name_inj.1 (Option.some.inj hdraft)] at hstatus
        cases hstatus

end Elsewhere

end Store

/-! ## Claiming and completing over a connection -/

namespace Connection

variable {id now : String} {c c' : Connection}

/-- A claim over a connection succeeds, and then the campaign was a draft or scheduled, or it
changes nothing. -/
theorem claim_cases {answer : Except CampaignError Bool} (h : claim id now c = (answer, c')) :
    (answer = .ok true ∧ (c.store.claim id now).1 = true ∧
        c'.store = (c.store.claim id now).2) ∨
      answer ≠ .ok true ∧ c' = c := by
  rw [claim, call] at h
  split at h
  · cases h
    cases hclaim : (c.store.claim id now).1 with
    | true => exact .inl ⟨rfl, rfl, rfl⟩
    | false =>
      refine .inr ⟨by simp, ?_⟩
      rw [Store.claim] at hclaim ⊢
      rw [Store.setWhere_snd _ _ _ _ hclaim]
  · cases h
    exact .inr ⟨by simp, rfl⟩

/-- A campaign is completed over a connection, and then it was being sent, or nothing is changed,
because the store cannot be reached or the campaign is not being sent. -/
theorem complete_cases {answer : Except CampaignError Unit}
    (h : complete id now c = (answer, c')) :
    (answer = .ok () ∧ (c.store.markCompleted id now).1 = true ∧
        c'.store = (c.store.markCompleted id now).2) ∨
      ∃ err, answer = .error err ∧ c' = c ∧
        ((∃ fault, err = .store fault) ∨ (c.store.markCompleted id now).1 = false) := by
  rw [complete, call] at h
  split at h
  · rw [Store.complete_eq] at h
    cases hmark : (c.store.markCompleted id now).1 with
    | true =>
      rw [hmark, if_pos rfl] at h
      cases h
      exact .inl ⟨rfl, rfl, rfl⟩
    | false =>
      rw [hmark, if_neg Bool.false_ne_true] at h
      cases h
      refine .inr ⟨_, rfl, ?_, .inr rfl⟩
      rw [Store.markCompleted] at hmark ⊢
      rw [Store.setWhere_snd _ _ _ _ hmark]
  · cases h
    exact .inr ⟨_, rfl, rfl, .inl ⟨_, rfl⟩⟩

end Connection
end Mailshot
