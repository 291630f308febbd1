import Mailshot.Proofs.Dispatch.System
import Mailshot.Proofs.Store.Lifecycle

/-!
# The life of a store with dispatches

A store is empty at first.  Then statements are carried out, and dispatches come in and have their
turns, in any order; between two steps of a dispatch anybody may carry out any statement, also one
that claims or completes a campaign.  `Lives` collects what may come of it, together with all the
statements in the order in which they were carried out: a step of a dispatch is nothing but
statements either (`Engine.Lawful.exists_after`), so that what holds of statements in a row holds at
any time (`Store.Orderly`).

What a dispatch gains from it is that the tenant of its campaign is there (`Stage.Housed`).
-/

set_option autoImplicit false

namespace Mailshot

namespace Store

/-- What others did is statements in a row. -/
theorem Elsewhere.exists_after {s s' : Store} (h : Elsewhere s s') :
    ∃ sts, s' = s.after sts ∧ ∀ st ∈ sts, st.isElsewhere = true := by
  induction h with
  | refl => exact ⟨[], rfl, fun _ hst => absurd hst List.not_mem_nil⟩
  | tail _ hstep ih =>
    obtain ⟨st, helse, rfl⟩ := hstep
    obtain ⟨sts, rfl, hall⟩ := ih
    refine ⟨sts ++ [st], (after_append _ sts [st]).symm, fun st' hst' => ?_⟩
    rcases List.mem_append.1 hst' with hst' | hst'
    · exact hall st' hst'
    · exact List.mem_singleton.1 hst' ▸ helse

/-- Such statements in a row are what others may do. -/
theorem elsewhere_after (s : Store) {sts : List Statement}
    (h : ∀ st ∈ sts, st.isElsewhere = true) : Elsewhere s (s.after sts) := by
  induction sts generalizing s with
  | nil => exact .refl s
  | cons st sts ih =>
    exact (Elsewhere.of_statement st (h st List.mem_cons_self)).trans
      (ih _ fun st' hst' => h st' (List.mem_cons_of_mem st hst'))

/-- What holds of the campaigns of a store that was empty before these statements. -/
structure Orderly (sts : List Statement) : Prop where
  /-- What is stored makes sense at any time. -/
  sound : ∀ before later, sts = before ++ later → (empty.after before).Sound
  /-- A statement leaves every campaign there, and changes its row only as its status allows. -/
  becomes : ∀ before st later, sts = before ++ st :: later → ∀ id r,
    (empty.after before).campaigns.find? id = some r →
      ∃ r', (empty.after (before ++ [st])).campaigns.find? id = some r' ∧ r.Becomes r'
  /-- No campaign enters a status twice. -/
  once : ∀ id status, entries id status empty sts ≤ 1
  /-- None comes back to a status that it left. -/
  onward : ∀ before between later, sts = before ++ between ++ later → ∀ id (status : Status),
    (empty.after before).status? id = some status.name →
      (empty.after (before ++ between)).status? id ≠ some status.name →
        (empty.after sts).status? id ≠ some status.name

/-- **Any statements are carried out in good order.** -/
theorem orderly (sts : List Statement) : Orderly sts where
  sound before _ _ := sound_empty.after before
  becomes before st _ _ id r hfind := by
    rw [after_append]
    exact (st.does_apply _).becomes (sound_empty.after before) hfind
  once id status := entries_le_one empty id status sts
  onward before between later hsts id status hstatus hleft := by
    rw [after_append] at hleft
    rw [hsts, after_append, after_append]
    exact status?_ne_of_left hstatus hleft later

end Store

namespace Dispatch

variable {σ : Type} {view : σ → Connection}

/-! ## A step is statements -/

/-- What a step does to the store is statements in a row. -/
theorem Deed.Effect.exists_after {d : Option Deed} {c c' : Connection} (h : Effect d c c') :
    ∃ sts, c'.store = c.store.after sts := by
  cases h with
  | @ask id now answer c c' hask =>
    rcases Connection.claim_cases hask with ⟨-, -, hstore⟩ | ⟨-, rfl⟩
    · exact ⟨[.claim id now], hstore⟩
    · exact ⟨[], rfl⟩
  | @complete id now answer c c' hcomplete =>
    rcases Connection.complete_cases hcomplete with ⟨-, -, hstore⟩ | ⟨_, -, rfl, -⟩
    · exact ⟨[.markCompleted id now], hstore⟩
    · exact ⟨[], rfl⟩
  | mind _ helse =>
    obtain ⟨sts, hsts, -⟩ := helse.exists_after
    exact ⟨sts, hsts⟩

theorem Engine.Lawful.exists_after {e : Engine σ} (h : e.Lawful view) (turn : Engine.Turn)
    (stage : Stage) (s : σ) :
    ∃ sts, (view (e.step turn stage s).2).store = (view s).store.after sts :=
  (h.effect_step turn stage s).exists_after

/-! ## The tenant is there -/

/-- The tenant of the campaign is there as long as it is needed, and was not looked for in vain. -/
def Stage.Housed (s : Store) : Stage → Prop
  | .linking _ campaign | .resolving campaign _ _ | .identifying campaign _ =>
    s.hasTenant campaign.tenant = true
  | .ended (.answered (.error (.campaign (.tenantNotFound _)))) => False
  | _ => True

theorem Stage.Housed.after {s : Store} {stage : Stage} (h : stage.Housed s)
    (sts : List Store.Statement) : stage.Housed (s.after sts) := by
  unfold Housed at h ⊢
  split at h
  · exact Store.hasTenant_after h sts
  · exact Store.hasTenant_after h sts
  · exact Store.hasTenant_after h sts
  · exact h
  · trivial

theorem Stage.housed_failure {s : Store} {err : Error}
    (h : ∀ tenant, err ≠ .campaign (.tenantNotFound tenant)) : (failure err).Housed s := by
  unfold Housed failure
  split
  · next heq => cases heq
  · next heq => cases heq
  · next heq => cases heq
  · next tenant heq =>
    cases heq
    exact h tenant rfl
  · trivial

/-- A campaign that is read has a tenant that is there. -/
theorem hasTenant_of_load {c : Connection} (hs : c.store.Sound) {id : String} {campaign : Campaign}
    (h : (Connection.load id c).1 = .ok campaign) : c.store.hasTenant campaign.tenant = true := by
  obtain ⟨r, hfind, -, -, htenant, -⟩ := Store.row_of_load (of_read_fst h).2
  rw [htenant]
  exact (hs.campaigns.of_find? hfind).2

/-- If no campaign is read, that is not because of a tenant. -/
theorem ne_tenantNotFound_of_load {c : Connection} {id : String} {err : CampaignError}
    (h : (Connection.load id c).1 = .error err) (tenant : String) :
    err ≠ .tenantNotFound tenant := by
  rintro rfl
  rw [Connection.load, Connection.read] at h
  split at h
  · dsimp only at h
    rw [Store.load] at h
    split at h
    · next r hfind =>
      rw [Store.campaignOfRow, Status.parse] at h
      cases hparse : Status.ofName? r.status with
      | none => rw [hparse] at h; cases h
      | some status => rw [hparse] at h; cases h
    · cases h
  · cases h

/-- A tenant that is there is read, or the store cannot be reached. -/
theorem ne_tenantNotFound_of_tenant {c : Connection} {id : String} {err : CampaignError}
    (htenant : c.store.hasTenant id = true) (h : (Connection.tenant id c).1 = .error err)
    (tenant : String) : err ≠ .tenantNotFound tenant := by
  rintro rfl
  rw [Connection.tenant, Connection.read] at h
  split at h
  · dsimp only at h
    rw [Store.tenant] at h
    obtain ⟨name, hname⟩ := Option.isSome_iff_exists.1 htenant
    have hfind : c.store.tenants.find? id = some name := hname
    rw [hfind] at h
    cases h
  · cases h

theorem ne_tenantNotFound_of_linkedRuleGroups {c : Connection} {id : String} {err : CampaignError}
    (h : (Connection.linkedRuleGroups id c).1 = .error err) (tenant : String) :
    err ≠ .tenantNotFound tenant := by
  rintro rfl
  rw [Connection.linkedRuleGroups, Connection.read] at h
  split at h <;> cases h

theorem ne_tenantNotFound_of_claim {c : Connection} {id now : String} {err : CampaignError}
    (h : (Connection.claim id now c).1 = .error err) (tenant : String) :
    err ≠ .tenantNotFound tenant := by
  rintro rfl
  rw [Connection.claim, Connection.call] at h
  split at h <;> cases h

namespace Engine

variable {e : Engine σ}

theorem housed_of_goes_sending {store : Store} {r : Run} {d : Option Deed} {stage : Stage}
    (h : e.Goes (.sending r) d stage) : stage.Housed store := by
  rcases h.of_sending with ⟨_, rfl⟩ | ⟨_, rfl⟩ <;> trivial

/-- **The tenant stays where it is needed.** -/
theorem Lawful.housed_step (h : e.Lawful view) (turn : Turn) {stage : Stage} {s : σ}
    (hs : (view s).store.Sound) (hhoused : stage.Housed (view s).store) :
    (e.step turn stage s).1.Housed (view (e.step turn stage s).2).store := by
  obtain ⟨sts, hsts⟩ := h.exists_after turn stage s
  rw [hsts]
  refine Stage.Housed.after ?_ sts
  cases turn with
  | worker i =>
    cases stage with
    | sending r => exact housed_of_goes_sending (e.goes_step (.worker i) (.sending r) s)
    | _ => exact hhoused
  | dispatcher =>
    cases stage with
    | sending r => exact housed_of_goes_sending (e.goes_step .dispatcher (.sending r) s)
    | ended ending => exact hhoused
    | loading id recipients =>
      have hfst : (Connection.load id (view s)).1 = (e.campaigns.load id s).1 :=
        congrArg Prod.fst (h.load id s)
      simp only [step, bind_apply]
      cases hload : (e.campaigns.load id s).1 with
      | error err =>
        refine Stage.housed_failure fun tenant heq => ?_
        exact ne_tenantNotFound_of_load (hfst.trans hload) tenant (Error.campaign.inj heq)
      | ok campaign =>
        have htenant := hasTenant_of_load hs (hfst.trans hload)
        dsimp only
        split
        · cases recipients with
          | segments => exact htenant
          | list contacts => exact htenant
        · trivial
    | linking id campaign =>
      have hfst : (Connection.linkedRuleGroups id (view s)).1 =
          (e.campaigns.linkedRuleGroups id s).1 := congrArg Prod.fst (h.linkedRuleGroups id s)
      simp only [step, bind_apply]
      cases hgroups : (e.campaigns.linkedRuleGroups id s).1 with
      | error err =>
        refine Stage.housed_failure fun tenant heq => ?_
        exact ne_tenantNotFound_of_linkedRuleGroups (hfst.trans hgroups) tenant
          (Error.campaign.inj heq)
      | ok groups => exact hhoused
    | resolving campaign audience groups =>
      cases groups with
      | nil => exact hhoused
      | cons g gs =>
        simp only [step, bind_apply]
        cases (e.contacts.addGroup campaign.tenant audience g s).1 with
        | error err => exact Stage.housed_failure fun tenant heq => by cases heq
        | ok audience => exact hhoused
    | identifying campaign audience =>
      have hfst : (Connection.tenant campaign.tenant (view s)).1 =
          (e.campaigns.tenant campaign.tenant s).1 :=
        congrArg Prod.fst (h.tenant campaign.tenant s)
      simp only [step, bind_apply]
      cases htenant : (e.campaigns.tenant campaign.tenant s).1 with
      | error err =>
        refine Stage.housed_failure fun tenant heq => ?_
        exact ne_tenantNotFound_of_tenant hhoused (hfst.trans htenant) tenant
          (Error.campaign.inj heq)
      | ok tenant => trivial
    | claiming campaign audience tenant =>
      obtain ⟨now, hacts⟩ := h.claim campaign.id s
      have hfst : (Connection.claim campaign.id now (view s)).1 =
          (e.campaigns.claim campaign.id s).1 := congrArg Prod.fst hacts
      simp only [step, bind_apply]
      cases hclaim : (e.campaigns.claim campaign.id s).1 with
      | error err =>
        refine Stage.housed_failure fun tenant heq => ?_
        exact ne_tenantNotFound_of_claim (hfst.trans hclaim) tenant (Error.campaign.inj heq)
      | ok won =>
        cases won with
        | false => exact Stage.housed_failure fun tenant heq => by cases heq
        | true =>
          simp only [pure_apply, start_eq]
          split <;> trivial
    | completing report =>
      simp only [step, bind_apply]
      cases (e.campaigns.complete report.campaign s).1 with
      | error err => exact Stage.housed_failure fun tenant heq => by cases heq
      | ok done => trivial

/-- **A dispatch that goes on until it is over finds the tenant of its campaign.** -/
theorem Lawful.housed_finish (h : e.Lawful view) (stage : Stage) (s : σ)
    (hs : (view s).store.Sound) (hhoused : stage.Housed (view s).store) :
    (Stage.ended (e.finish stage s).1).Housed (view (e.finish stage s).2).store := by
  fun_induction finish e stage s with
  | case1 stage s ending hending =>
    cases stage with
    | ended ending' => cases hending; exact hhoused
    | _ => cases hending
  | case2 stage s hending next ih =>
    refine ih ?_ (h.housed_step stage.turn hs hhoused)
    obtain ⟨sts, hsts⟩ := h.exists_after stage.turn stage s
    rw [hsts]
    exact hs.after sts

end Engine

/-! ## Statements and dispatches in any order -/

/-- What may come of a store that is empty at first, and the statements that were carried out. -/
inductive Lives (view : σ → Connection) : List Store.Statement → System σ → Prop
  /-- Nothing is stored, and there is no dispatch yet. -/
  | init {s : σ} (hempty : (view s).store = Store.empty) : Lives view [] ⟨s, []⟩
  /-- A dispatch comes in. -/
  | enter {sts : List Store.Statement} {sys : System σ} (h : Lives view sts sys)
      {engine : Engine σ} (hlawful : engine.Lawful view) (id : String) (recipients : Recipients) :
      Lives view sts
        { sys with calls := sys.calls ++ [⟨engine, id, recipients, .loading id recipients⟩] }
  /-- A dispatch has a turn, in which some statements are carried out. -/
  | turn {sts : List Store.Statement} {sys : System σ} (h : Lives view sts sys) {i : Nat}
      {call : Call σ} (hcall : sys.calls[i]? = some call) (turn : Engine.Turn)
      {done : List Store.Statement}
      (hdone : (view (call.engine.step turn call.stage sys.state).2).store =
        (view sys.state).store.after done) :
      Lives view (sts ++ done)
        { state := (call.engine.step turn call.stage sys.state).2
          calls := sys.calls.set i
            { call with stage := (call.engine.step turn call.stage sys.state).1 } }
  /-- Anybody carries out a statement. -/
  | statement {sts : List Store.Statement} {sys : System σ} (h : Lives view sts sys)
      (st : Store.Statement) {s : σ} (hstore : (view s).store = st.apply (view sys.state).store) :
      Lives view (sts ++ [st]) { sys with state := s }

namespace Lives

variable {sts : List Store.Statement} {sys : System σ}

/-- A dispatch may have a turn whenever it likes. -/
theorem exists_turn (h : Lives view sts sys) {i : Nat} {call : Call σ}
    (hcall : sys.calls[i]? = some call) (hlawful : call.engine.Lawful view)
    (turn : Engine.Turn) :
    ∃ done, Lives view (sts ++ done)
      { state := (call.engine.step turn call.stage sys.state).2
        calls := sys.calls.set i
          { call with stage := (call.engine.step turn call.stage sys.state).1 } } := by
  obtain ⟨done, hdone⟩ := hlawful.exists_after turn call.stage sys.state
  exact ⟨done, h.turn hcall turn hdone⟩

/-- The store is what the statements made of an empty one. -/
theorem store_eq (h : Lives view sts sys) : (view sys.state).store = Store.empty.after sts := by
  induction h with
  | init hempty => exact hempty
  | enter _ _ _ _ ih => exact ih
  | turn _ _ _ hdone ih => rw [hdone, ih, Store.after_append]
  | statement _ st hstore ih =>
    rw [hstore, ih, Store.after_append, Store.after_cons, Store.after_nil]

/-- What is stored makes sense. -/
theorem sound (h : Lives view sts sys) : (view sys.state).store.Sound := by
  rw [h.store_eq]
  exact Store.sound_empty.after sts

/-- Every dispatch is lawful, and the tenant of its campaign is there. -/
theorem housed (h : Lives view sts sys) :
    ∀ call ∈ sys.calls, call.engine.Lawful view ∧ call.stage.Housed (view sys.state).store := by
  induction h with
  | init => exact fun call hcall => absurd hcall List.not_mem_nil
  | enter _ hlawful id recipients ih =>
    intro call hcall
    rcases List.mem_append.1 hcall with hcall | hcall
    · exact ih call hcall
    · obtain rfl := List.mem_singleton.1 hcall
      exact ⟨hlawful, trivial⟩
  | @turn sts sys h i other hother turn done hdone ih =>
    intro call hcall
    rcases List.mem_or_eq_of_mem_set hcall with hcall | rfl
    · rw [hdone]
      exact ⟨(ih call hcall).1, (ih call hcall).2.after done⟩
    · obtain ⟨hlawful, hhoused⟩ := ih other (List.mem_of_getElem? hother)
      exact ⟨hlawful, hlawful.housed_step turn h.sound hhoused⟩
  | statement _ st hstore ih =>
    intro call hcall
    rw [hstore]
    exact ⟨(ih call hcall).1, (ih call hcall).2.after [st]⟩

/-- Dispatches may have their turns in any order. -/
theorem exists_play (h : Lives view sts sys) (turns : List (Nat × Engine.Turn)) :
    ∃ done, Lives view (sts ++ done) (sys.play turns).2 := by
  induction turns generalizing sts sys with
  | nil => exact ⟨[], by rwa [List.append_nil]⟩
  | cons p rest ih =>
    obtain ⟨i, turn⟩ := p
    have hnext : ∃ done, Lives view (sts ++ done) (sys.turn i turn).2 := by
      rw [System.turn]
      split
      · exact ⟨[], by rwa [List.append_nil]⟩
      · next call hcall =>
        exact h.exists_turn hcall (h.housed call (List.mem_of_getElem? hcall)).1 turn
    obtain ⟨done, hnext⟩ := hnext
    obtain ⟨later, hlater⟩ := ih hnext
    exact ⟨done ++ later, by rwa [← List.append_assoc]⟩

/-- **The life of a store.**  Whatever statements are carried out and whatever dispatches have
their turns, in any order and from an empty store on: all that happens to the store is statements
in good order, so that references have something to refer to and every campaign goes its way once,
and no dispatch ends because the tenant of its campaign is missing, neither one of those that have
their turns nor one that is carried out as a whole. -/
theorem lifecycle_kept (h : Lives view sts sys) :
    (view sys.state).store = Store.empty.after sts ∧ Store.Orderly sts ∧
      (∀ call ∈ sys.calls, ∀ tenant,
        call.stage ≠ .failure (.campaign (.tenantNotFound tenant))) ∧
      ∀ (engine : Engine σ), engine.Lawful view → ∀ id recipients tenant,
        (engine.execute id recipients sys.state).1 ≠
          .answered (.error (.campaign (.tenantNotFound tenant))) := by
  refine ⟨h.store_eq, Store.orderly sts, fun call hcall tenant hstage => ?_,
    fun engine hlawful id recipients tenant hending => ?_⟩
  · have hhoused := (h.housed call hcall).2
    rw [hstage] at hhoused
    exact hhoused
  · have hhoused := hlawful.housed_finish (.loading id recipients) sys.state h.sound trivial
    have hfinish : (engine.finish (.loading id recipients) sys.state).1 = _ := hending
    rw [hfinish] at hhoused
    exact hhoused

end Lives

namespace Sample

/-- How the draft and its tenant come to be. -/
def making : List Store.Statement :=
  [.upsertTenant tenant, .createCampaign campaign.id "" {
    tenant := campaign.tenant, name := campaign.name, subject := campaign.subject
    body := campaign.body, fromName := none, replyTo := none }]

/-- A tenant and a draft are made, and a call for the draft comes in. -/
theorem lives_making (concurrency : Nat) : Lives id making ⟨connection, [call concurrency]⟩ := by
  have htenant : Lives id [.upsertTenant tenant]
      ⟨Connection.ofStore (Store.Statement.apply .empty (.upsertTenant tenant)), []⟩ :=
    (Lives.init (s := Connection.ofStore .empty) rfl).statement (.upsertTenant tenant) rfl
  exact (htenant.statement (s := connection) _ (by decide)).enter (lawful_engine concurrency)
    campaign.id (.list contacts)

/-- The turns of a dispatch with one worker, up to its end. -/
def throughout : List (Nat × Engine.Turn) :=
  [(0, .dispatcher), (0, .dispatcher), (0, .dispatcher), (0, .dispatcher), (0, .dispatcher),
    (0, .worker 0), (0, .worker 0), (0, .dispatcher), (0, .dispatcher), (0, .dispatcher)]

end Sample

/-- A draft that is made, claimed, sent and completed has its life in good order: it is completed
once. -/
theorem Lives.lifecycle_kept_of_making :
    ∃ done sys, Lives id (Sample.making ++ done) sys ∧
      sys.state.store.status? "c" = some Status.completed.name ∧
      sys.state.store = Store.empty.after (Sample.making ++ done) ∧
      Store.Orderly (Sample.making ++ done) ∧
      Store.entries "c" .completed .empty (Sample.making ++ done) = 1 := by
  obtain ⟨done, h⟩ := (Sample.lives_making 1).exists_play Sample.throughout
  obtain ⟨hstore, horderly, -⟩ := h.lifecycle_kept
  have hstatus : (System.play ⟨Sample.connection, [Sample.call 1]⟩
      Sample.throughout).2.state.store.status? "c" = some Status.completed.name := rfl
  have hentered : 1 ≤ Store.entries "c" .completed .empty (Sample.making ++ done) :=
    Store.one_le_entries (by decide) ((congrArg (Store.status? · "c") hstore).symm.trans hstatus)
  exact ⟨done, _, h, hstatus, hstore, horderly,
    Nat.le_antisymm (horderly.once "c" .completed) hentered⟩

end Dispatch
end Mailshot
