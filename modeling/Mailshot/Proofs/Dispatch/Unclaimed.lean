import Mathlib.Data.List.Chain
import Mailshot.Proofs.Dispatch.Lifetime
import Mailshot.Proofs.Store.Answers

/-!
# Dispatches that do not get their campaign

A dispatch may end before it has its campaign for itself, or because it does not get it
(`Ending.isUnclaimed`, `Journey.isUnclaimed_iff`).  Nothing has come of it then: each of its steps
was one that comes before the campaign is taken (`Stage.isUnclaimed`), and such a step does nothing
that others can notice but ask for the campaign in vain (`Engine.Goes.unclaimed`).

A `Journey` is a path that remembers the state in which each step was taken, so that it can be said
of every step that it left the tables as they were (`Journey.traceless`).  The collaborators may
fail whenever they like.  Of those that read it is only asked that they do not write, and of those
that claim that they do not if they fail (`Engine.OnTables`).
-/

set_option autoImplicit false

namespace Mailshot
namespace Dispatch

/-! ## Before the campaign is taken -/

/-- Whether a report says that nothing was sent, as the campaign did not wait for it. -/
def Report.isSkipped (r : Report) : Bool :=
  match r.outcome with
  | .skipped _ => true
  | .completed | .cancelled => false

/-- Whether a dispatch ended without its campaign. -/
def Ending.isUnclaimed : Ending → Bool
  | .answered (.ok report) => report.isSkipped
  | .answered (.error (.finalize _ _)) | .crashed => false
  | .answered (.error _) => true

/-- Whether a dispatch does not have its campaign, or will never have had it. -/
def Stage.isUnclaimed : Stage → Bool
  | .sending _ | .completing _ => false
  | .ended ending => ending.isUnclaimed
  | _ => true

/-- What is completed was sent. -/
def Stage.Closes (stage : Stage) : Prop :=
  ∀ report, stage = .completing report → report.isSkipped = false

namespace Engine

variable {σ : Type} {e : Engine σ}

theorem Goes.closes {a b : Stage} {d : Option Deed} (h : e.Goes a d b) (ha : a.Closes) :
    b.Closes := by
  intro report hb
  cases h with
  | rest => exact ha report hb
  | @drain r =>
    cases hb
    rw [Report.isSkipped, Run.report]
    cases r.stopped <;> rfl
  | _ => cases hb

/-- Whoever has the campaign once has it for good. -/
theorem Goes.isUnclaimed {a b : Stage} {d : Option Deed} (h : e.Goes a d b) (ha : a.Closes)
    (hb : b.isUnclaimed = true) : a.isUnclaimed = true := by
  cases h with
  | rest => exact hb
  | fail hstage => cases a <;> first | rfl | cases hstage
  | finish =>
    -- the report is the one of the sending, so it says nothing of a skipped campaign
    exact absurd ((ha _ rfl).symm.trans hb) Bool.false_ne_true
  | work | drain | strand => cases hb
  | _ => rfl

/-- Nothing is done before that but to ask for the campaign in vain. -/
theorem Goes.unclaimed {a b : Stage} {d : Option Deed} (h : e.Goes a d b)
    (ha : a.isUnclaimed = true) (hb : b.isUnclaimed = true) :
    d = none ∨ ∃ campaign audience tenant answer, a = .claiming campaign audience tenant ∧
      d = some (.asked campaign.id answer) ∧ answer ≠ .ok true := by
  cases h with
  | falter err => exact .inr ⟨_, _, _, _, rfl, rfl, by simp⟩
  | yield => exact .inr ⟨_, _, _, _, rfl, rfl, by simp⟩
  | crash | win => cases hb
  | work | finish | strand => cases ha
  | _ => exact .inl rfl

/-! ## Steps with their states -/

/-- A step: whose turn it is, at which stage, and in which state. -/
structure Visit (σ : Type) where
  /-- Whose turn it is. -/
  turn : Turn
  /-- The stage. -/
  stage : Stage
  /-- The state. -/
  state : σ

namespace Visit

variable (e : Engine σ) (v : Visit σ)

/-- What is done. -/
def deed : Option Deed := e.deed v.turn v.stage v.state

/-- The stage that is come to. -/
def next : Stage := (e.step v.turn v.stage v.state).1

/-- The state that is left behind. -/
def after : σ := (e.step v.turn v.stage v.state).2

end Visit

variable (e)

/-- A dispatch gets from one stage to another by these steps. -/
inductive Journey (stage : Stage) : List (Visit σ) → Stage → Prop
  /-- No step is taken. -/
  | refl : Journey stage [] stage
  /-- One more step is taken, in any state. -/
  | step {vs : List (Visit σ)} {now : Stage} (h : Journey stage vs now) (turn : Turn) (s : σ) :
      Journey stage (vs ++ [⟨turn, now, s⟩]) (e.step turn now s).1

variable {e}

/-- A journey is a path. -/
theorem Journey.path {stage stage' : Stage} {vs : List (Visit σ)} (h : e.Journey stage vs stage') :
    e.Path stage (vs.flatMap fun v => (v.deed e).toList) stage' := by
  induction h with
  | refl => exact .refl
  | step _ turn s ih =>
    rw [List.flatMap_append, List.flatMap_cons, List.flatMap_nil, List.append_nil]
    exact ih.step turn s

/-- A step may come first as well. -/
theorem Journey.cons {stage stage' : Stage} {vs : List (Visit σ)} (turn : Turn) (s : σ)
    (h : e.Journey (e.step turn stage s).1 vs stage') :
    e.Journey stage (⟨turn, stage, s⟩ :: vs) stage' := by
  induction h with
  | refl => exact Journey.refl.step turn s
  | step _ turn' s' ih => exact ih.step turn' s'

/-- A dispatch has come to every stage at which it takes a step. -/
theorem Journey.exists_until {stage stage' : Stage} {vs : List (Visit σ)}
    (h : e.Journey stage vs stage') : ∀ v ∈ vs, ∃ us, e.Journey stage us v.stage := by
  induction h with
  | refl => exact fun _ hv => absurd hv List.not_mem_nil
  | step h _ _ ih =>
    intro v hv
    rcases List.mem_append.1 hv with hv | hv
    · exact ih v hv
    · rw [List.mem_singleton.1 hv]
      exact ⟨_, h⟩

/-- A dispatch that is left to itself takes steps until it is over, and what they all keep is kept
by it. -/
theorem exists_journey_finish (stage : Stage) (s : σ) :
    ∃ vs, e.Journey stage vs (.ended (e.finish stage s).1) ∧
      ∀ P : σ → Prop, (∀ v ∈ vs, P v.state → P (v.after e)) → P s → P (e.finish stage s).2 := by
  fun_induction finish e stage s with
  | case1 stage s ending hending =>
    cases stage with
    | ended ending' =>
      cases hending
      exact ⟨[], .refl, fun _ _ hs => hs⟩
    | _ => cases hending
  | case2 stage s hending next ih =>
    obtain ⟨vs, hvs, hkeep⟩ := ih
    exact ⟨_, hvs.cons stage.turn s, fun P hP hs =>
      hkeep P (fun v hv => hP v (List.mem_cons_of_mem _ hv)) (hP _ List.mem_cons_self hs)⟩

/-- All the steps to a stage without the campaign were steps without it. -/
theorem Journey.isUnclaimed {id : String} {recipients : Recipients} {stage : Stage}
    {vs : List (Visit σ)} (h : e.Journey (.loading id recipients) vs stage) :
    stage.Closes ∧ (stage.isUnclaimed = true →
      ∀ v ∈ vs, v.stage.isUnclaimed = true ∧ (v.next e).isUnclaimed = true) := by
  induction h with
  | refl => exact ⟨fun _ h => (by cases h), fun _ _ hv => absurd hv List.not_mem_nil⟩
  | @step vs now h turn s ih =>
    have hgoes := e.goes_step turn now s
    refine ⟨hgoes.closes ih.1, fun hnext v hv => ?_⟩
    have hnow := hgoes.isUnclaimed ih.1 hnext
    rcases List.mem_append.1 hv with hv | hv
    · exact ih.2 hnow v hv
    · rw [List.mem_singleton.1 hv]
      exact ⟨hnow, hnext⟩

/-- **A dispatch ends without its campaign just if it never got it.** -/
theorem Journey.isUnclaimed_iff {id : String} {recipients : Recipients} {ending : Ending}
    {vs : List (Visit σ)} (h : e.Journey (.loading id recipients) vs (.ended ending)) :
    ending.isUnclaimed = true ↔
      ∀ v ∈ vs, ∀ campaign, v.deed e ≠ some (.asked campaign (.ok true)) := by
  constructor
  · intro hending v hv campaign hdeed
    obtain ⟨hstage, hnext⟩ := h.isUnclaimed.2 hending v hv
    rcases (e.goes_step v.turn v.stage v.state).unclaimed hstage hnext with
      hnone | ⟨_, _, _, answer, -, hasked, hanswer⟩
    · cases hdeed.symm.trans hnone
    · cases hdeed.symm.trans hasked
      exact hanswer rfl
  · intro hnever
    have hpath := h.path
    have hasked : ∀ campaign,
        .asked campaign (.ok true) ∉ vs.flatMap fun v => (v.deed e).toList := by
      intro campaign hmem
      obtain ⟨v, hv, hdeed⟩ := List.mem_flatMap.1 hmem
      exact hnever v hv campaign (Option.mem_toList.1 hdeed)
    generalize (vs.flatMap fun v => (v.deed e).toList) = ds at hpath hasked
    rcases hpath.through_claiming with ⟨-, hearly⟩ | ⟨campaign, audience, tenant, -, -, -, hafter⟩
    · -- it ended before it could ask
      cases ending with
      | crashed => exact hearly.elim
      | answered answer =>
        cases answer with
        | ok report =>
          obtain ⟨status, -, rfl⟩ := hearly
          rfl
        | error err => cases err <;> first | rfl | cases hearly
    · cases hafter.since with
      | @unclaimed answer => cases answer <;> rfl
      | crashed | closed => exact absurd List.mem_cons_self (hasked campaign.id)

/-! ## What becomes of the tables -/

/-- What is read is not written, and neither is a campaign that is claimed in vain.  A campaign that
is read stands there, and if it cannot be read then not for want of its tenant. -/
structure OnTables (tables : σ → Store) (e : Engine σ) : Prop where
  load : ∀ id s, tables (e.campaigns.load id s).2 = tables s
  load_ok : ∀ id s campaign, (e.campaigns.load id s).1 = .ok campaign →
    (tables s).load id = .ok campaign
  load_error : ∀ id s tenant, (e.campaigns.load id s).1 ≠ .error (.tenantNotFound tenant)
  tenant : ∀ id s, tables (e.campaigns.tenant id s).2 = tables s
  linkedRuleGroups : ∀ id s, tables (e.campaigns.linkedRuleGroups id s).2 = tables s
  contacts : ∀ predicate tenant s, tables (e.contacts.matching predicate tenant s).2 = tables s
  claim : ∀ id s, (e.campaigns.claim id s).1 ≠ .ok true →
    tables (e.campaigns.claim id s).2 = tables s

/-- The collaborators of a dispatch that works with a connection are like that. -/
theorem onTables_ofStore (now : Connection → String) (failover : Failover Connection)
    (clock : StateM Connection Instant) (concurrency : Nat) (defaultSender : Option String) :
    (Engine.ofStore now failover clock concurrency defaultSender).OnTables (·.store) where
  load _ c := congrArg Connection.store (read_snd _ _ c)
  load_ok _ _ _ h := (of_read_fst h).2
  load_error _ _ tenant h := ne_tenantNotFound_of_load h tenant rfl
  tenant _ c := congrArg Connection.store (read_snd _ _ c)
  linkedRuleGroups _ c := congrArg Connection.store (read_snd _ _ c)
  contacts predicate tenant c :=
    congrArg Connection.store (contactSource_matching_snd predicate tenant c)
  claim id c h := by
    have hclaim : Connection.claim id (now c) c = (_, _) := rfl
    rcases Connection.claim_cases hclaim with ⟨hwon, -⟩ | ⟨-, hsame⟩
    · exact absurd hwon h
    · exact congrArg Connection.store hsame

namespace OnTables

variable {tables : σ → Store}

/-- A step without the campaign leaves the tables as they are. -/
theorem step (h : e.OnTables tables) (turn : Turn) (stage : Stage) (s : σ)
    (hstage : stage.isUnclaimed = true) (hnext : (e.step turn stage s).1.isUnclaimed = true) :
    tables (e.step turn stage s).2 = tables s := by
  cases turn with
  | worker i =>
    cases stage with
    | sending r => cases hstage
    | _ => rfl
  | dispatcher =>
    cases stage with
    | sending | completing => cases hstage
    | ended ending => rfl
    | loading id recipients =>
      refine Eq.trans ?_ (h.load id s)
      simp only [Engine.step, bind_apply]
      cases (e.campaigns.load id s).1 with
      | error err => rfl
      | ok campaign =>
        dsimp only
        split
        · cases recipients <;> rfl
        · rfl
    | linking id campaign =>
      refine Eq.trans ?_ (h.linkedRuleGroups id s)
      simp only [Engine.step, bind_apply]
      cases (e.campaigns.linkedRuleGroups id s).1 <;> rfl
    | resolving campaign audience groups =>
      cases groups with
      | nil => rfl
      | cons g gs =>
        simp only [Engine.step, bind_apply, ContactSource.addGroup]
        split
        · rfl
        · refine Eq.trans ?_ (h.contacts g.compile campaign.tenant s)
          simp only [bind_apply]
          cases (e.contacts.matching g.compile campaign.tenant s).1 <;> rfl
    | identifying campaign audience =>
      refine Eq.trans ?_ (h.tenant campaign.tenant s)
      simp only [Engine.step, bind_apply]
      cases (e.campaigns.tenant campaign.tenant s).1 <;> rfl
    | claiming campaign audience tenant =>
      have hclaim := h.claim campaign.id s
      simp only [Engine.step, bind_apply] at hnext ⊢
      cases hanswer : (e.campaigns.claim campaign.id s).1 with
      | error err => exact hclaim (by simp [hanswer])
      | ok won =>
        cases won with
        | false => exact hclaim (by simp [hanswer])
        | true =>
          simp only [hanswer, pure_apply, start_eq] at hnext
          split at hnext <;> cases hnext

end OnTables

/-- What no step changes, and nobody else in between, is the same at every step. -/
theorem Visit.eq_of_isChain {α : Type} {f : σ → α} {vs : List (Visit σ)}
    (hkeep : ∀ v ∈ vs, f (v.after e) = f v.state)
    (hchain : vs.IsChain fun v w => f w.state = f (v.after e)) :
    ∀ v ∈ vs, ∀ w ∈ vs, f v.state = f w.state := by
  suffices ∀ v ∈ vs, ∀ first ∈ vs.head?, f v.state = f first.state by
    intro v hv w hw
    obtain ⟨first, rest, rfl⟩ := List.exists_cons_of_ne_nil (List.ne_nil_of_mem hv)
    exact (this v hv first rfl).trans (this w hw first rfl).symm
  induction vs with
  | nil => exact fun _ hv => absurd hv List.not_mem_nil
  | cons first vs ih =>
    intro v hv first' hfirst
    cases hfirst
    rcases List.mem_cons.1 hv with rfl | hv
    · rfl
    · obtain ⟨second, rest, rfl⟩ := List.exists_cons_of_ne_nil (List.ne_nil_of_mem hv)
      have hrest := ih (fun w hw => hkeep w (List.mem_cons_of_mem _ hw))
        (List.isChain_cons_cons.1 hchain).2 v hv second rfl
      rw [hrest, (List.isChain_cons_cons.1 hchain).1, hkeep _ List.mem_cons_self]

/-! ## What was read of the campaign -/

/-- Whether a dispatch has found its campaign waiting, so that it does not skip it any more. -/
structure IsOn (stage : Stage) : Prop where
  closes : stage.Closes
  not_loading : ∀ id recipients, stage ≠ .loading id recipients
  not_skipped : ∀ report, stage = .ended (.answered (.ok report)) → report.isSkipped = false

theorem isOn_linking (id : String) (campaign : Campaign) : IsOn (.linking id campaign) where
  closes _ h := by cases h
  not_loading _ _ h := by cases h
  not_skipped _ h := by cases h

theorem isOn_identifying (campaign : Campaign) (audience : Audience) :
    IsOn (.identifying campaign audience) where
  closes _ h := by cases h
  not_loading _ _ h := by cases h
  not_skipped _ h := by cases h

theorem Goes.isOn {a b : Stage} {d : Option Deed} (h : e.Goes a d b) (ha : IsOn a) : IsOn b where
  closes := h.closes ha.closes
  not_loading id recipients hb := by
    cases h with
    | rest => exact ha.not_loading id recipients hb
    | _ => cases hb
  not_skipped report hb := by
    cases h with
    | rest => exact ha.not_skipped report hb
    | finish =>
      cases hb
      exact ha.closes _ rfl
    | skip => exact absurd rfl (ha.not_loading _ _)
    | _ => cases hb

namespace Journey

variable {id : String} {recipients : Recipients} {stage : Stage} {vs : List (Visit σ)}

/-- A dispatch that is over stays where it is. -/
theorem eq_ended {ending : Ending} (h : e.Journey (.ended ending) vs stage) :
    stage = .ended ending := by
  induction h with
  | refl => rfl
  | step _ turn s ih =>
    rw [ih]
    cases turn <;> rfl

theorem isOn {stage' : Stage} (h : e.Journey stage vs stage') (hstage : IsOn stage) :
    IsOn stage' :=
  h.path.induct hstage fun _ _ _ _ hgoes hon => hgoes.isOn hon

/-- A dispatch either has not come beyond its first step, or went on from there. -/
theorem loaded (h : e.Journey (.loading id recipients) vs stage) :
    stage = .loading id recipients ∨
      ∃ s, ⟨.dispatcher, .loading id recipients, s⟩ ∈ vs ∧
        ∃ ws, e.Journey (e.step .dispatcher (.loading id recipients) s).1 ws stage := by
  induction h with
  | refl => exact .inl rfl
  | step _ turn s ih =>
    rcases ih with rfl | ⟨first, hfirst, ws, hws⟩
    · cases turn with
      | dispatcher => exact .inr ⟨s, by simp, [], .refl⟩
      | worker i => exact .inl rfl
    · exact .inr ⟨first, List.mem_append_left _ hfirst, _, hws.step turn s⟩

/-- **What was read of the campaign is why a dispatch ended without it.**  It cannot be read, it
does not wait, or it waits and something else is the matter. -/
theorem reason {ending : Ending} (h : e.Journey (.loading id recipients) vs (.ended ending))
    (hending : ending.isUnclaimed = true) :
    ∃ v ∈ vs, v.stage = .loading id recipients ∧
      ((∃ err, (e.campaigns.load id v.state).1 = .error err ∧
          ending = .answered (.error (.campaign err))) ∨
        (∃ campaign, (e.campaigns.load id v.state).1 = .ok campaign ∧
          campaign.status.isSendable = false ∧
          ending = .answered (.ok (.ofSkipped id campaign.status))) ∨
        ∃ campaign, (e.campaigns.load id v.state).1 = .ok campaign ∧
          campaign.status.isSendable = true ∧ ∃ err, ending = .answered (.error err)) := by
  rcases h.loaded with hstage | ⟨s, hmem, ws, hws⟩
  · cases hstage
  refine ⟨_, hmem, rfl, ?_⟩
  simp only [Engine.step, bind_apply] at hws
  dsimp only
  cases hload : (e.campaigns.load id s).1 with
  | error err =>
    rw [hload] at hws
    cases hws.eq_ended
    exact .inl ⟨err, rfl, rfl⟩
  | ok campaign =>
    rw [hload] at hws
    dsimp only at hws
    cases hsendable : campaign.status.isSendable with
    | false =>
      rw [hsendable] at hws
      cases hws.eq_ended
      exact .inr (.inl ⟨campaign, rfl, hsendable, rfl⟩)
    | true =>
      rw [hsendable] at hws
      refine .inr (.inr ⟨campaign, rfl, hsendable, ?_⟩)
      -- a campaign is skipped at the first step or not at all, so only an error is left
      have hon : IsOn (.ended ending) := by
        cases recipients with
        | segments => exact hws.isOn (isOn_linking id campaign)
        | list contacts => exact hws.isOn (isOn_identifying campaign _)
      cases ending with
      | crashed => cases hending
      | answered answer =>
        cases answer with
        | error err => exact ⟨err, rfl⟩
        | ok report =>
          exact absurd ((hon.not_skipped report rfl).symm.trans hending) Bool.false_ne_true

/-- It only ever asks for the campaign that it was called for. -/
theorem id_eq {tables : σ → Store} (htables : e.OnTables tables) {campaign : Campaign}
    {audience : Audience} {tenant : Tenant}
    (h : e.Journey (.loading id recipients) vs (.claiming campaign audience tenant)) :
    campaign.id = id := by
  obtain ⟨s, hload⟩ := h.path.reads
  exact Store.id_of_load (htables.load_ok id s campaign hload)

/-- The steps to an end without the campaign leave the tables as they are. -/
theorem tables_after {tables : σ → Store} (htables : e.OnTables tables) {ending : Ending}
    (h : e.Journey (.loading id recipients) vs (.ended ending))
    (hending : ending.isUnclaimed = true) : ∀ v ∈ vs, tables (v.after e) = tables v.state :=
  fun v hv => htables.step v.turn v.stage v.state (h.isUnclaimed.2 hending v hv).1
    (h.isUnclaimed.2 hending v hv).2

/-- **A dispatch that does not get its campaign leaves no trace.**  It does nothing but ask for the
campaign in vain, and each of its steps leaves the tables as it finds them.  If it reports that the
campaign was skipped, then all the numbers are zero, and the campaign was found as it says.  If it
ends for want of the contacts or the tenant, then the campaign was found waiting, and if nobody else
changes that, it waits all the time. -/
theorem traceless {tables : σ → Store} (htables : e.OnTables tables) {ending : Ending}
    (h : e.Journey (.loading id recipients) vs (.ended ending))
    (hending : ending.isUnclaimed = true) :
    (∀ v ∈ vs, tables (v.after e) = tables v.state ∧
      (v.deed e = none ∨ ∃ answer, v.deed e = some (.asked id answer) ∧ answer ≠ .ok true)) ∧
      (∀ report, ending = .answered (.ok report) → ∃ v ∈ vs, ∃ campaign,
        (tables v.state).load id = .ok campaign ∧ campaign.status.isSendable = false ∧
        report = ⟨id, .skipped campaign.status, 0, 0, 0, 0⟩) ∧
      ∀ err, ending = .answered (.error err) →
        (∃ reason, err = .resolution reason) ∨
          (∃ tenant, err = .campaign (.tenantNotFound tenant)) →
        ∃ v ∈ vs, ∃ campaign,
          (tables v.state).load id = .ok campaign ∧ campaign.status.isSendable = true ∧
          ((vs.IsChain fun v w => (tables w.state).status? id = (tables (v.after e)).status? id) →
            ∀ w ∈ vs, (tables (w.after e)).status? id = some campaign.status.name) := by
  have hkeep := h.tables_after htables hending
  obtain ⟨v, hv, -, hreason⟩ := h.reason hending
  refine ⟨fun w hw => ⟨hkeep w hw, ?_⟩, ?_, ?_⟩
  · obtain ⟨hstage, hnext⟩ := h.isUnclaimed.2 hending w hw
    rcases (e.goes_step w.turn w.stage w.state).unclaimed hstage hnext with
      hnone | ⟨campaign, audience, tenant, answer, hclaiming, hdeed, hanswer⟩
    · exact .inl hnone
    · -- the campaign that it asks for is the one that it was called for
      obtain ⟨us, hus⟩ := h.exists_until w hw
      rw [hclaiming] at hus
      exact .inr ⟨answer, by rw [Visit.deed, hdeed, hus.id_eq htables], hanswer⟩
  · rintro report rfl
    rcases hreason with ⟨_, -, hsame⟩ | ⟨campaign, hload, hstatus, hsame⟩ | ⟨_, -, -, _, hsame⟩
    · cases hsame
    · cases hsame
      exact ⟨v, hv, campaign, htables.load_ok _ _ _ hload, hstatus, rfl⟩
    · cases hsame
  · rintro err rfl hwant
    rcases hreason with ⟨err', hload, hsame⟩ | ⟨_, -, -, hsame⟩ | ⟨campaign, hload, hstatus, -⟩
    · cases hsame
      rcases hwant with ⟨_, hwant⟩ | ⟨tenant, hwant⟩
      · cases hwant
      · cases hwant
        exact absurd hload (htables.load_error _ _ _)
    · cases hsame
    · have hread := htables.load_ok _ _ _ hload
      refine ⟨v, hv, campaign, hread, hstatus, fun hchain w hw => ?_⟩
      have hsame := Visit.eq_of_isChain (f := fun s => (tables s).status? id)
        (fun u hu => by rw [hkeep u hu]) hchain w hw v hv
      rw [hkeep w hw, ← Store.status?_of_load hread]
      exact hsame

end Journey

end Engine

namespace Sample

/-- A dispatch that goes to a group whose contacts are out of reach. -/
def outOfReach : Engine Connection :=
  { engine .console 1 with
    campaigns := { Connection.campaignSource fun _ => now with
      linkedRuleGroups := fun _ => pure (.ok [⟨.all, [⟨"email", .equals, .string "a"⟩]⟩]) }
    contacts := {
      matching := fun _ _ => pure (.error (.unavailable "down"))
      count := fun _ _ => pure (.error (.unavailable "down")) } }

theorem onTables_outOfReach : outOfReach.OnTables (·.store) :=
  { Engine.onTables_ofStore (fun _ => now) (.single .console) (pure default) 1 none with
    linkedRuleGroups := fun _ _ => rfl
    contacts := fun _ _ _ => rfl }

/-- Three steps in the store with the draft. -/
def visits : List (Engine.Visit Connection) :=
  [⟨.dispatcher, .loading "c" .segments, connection⟩,
    ⟨.dispatcher, .linking "c" campaign, connection⟩,
    ⟨.dispatcher, .resolving campaign .empty
      [⟨.all, [⟨"email", .equals, .string "a"⟩]⟩], connection⟩]

end Sample

namespace Engine

/-- A draft whose contacts are out of reach can be dispatched as before. -/
theorem Journey.traceless_of_outOfReach :
    Sample.outOfReach.Journey (.loading "c" .segments) Sample.visits
        (.failure (.resolution (.unavailable "down"))) ∧
      ∃ status : Status, status.isSendable = true ∧ ∀ v ∈ Sample.visits,
        (v.after Sample.outOfReach).store.status? "c" = some status.name := by
  have h : Sample.outOfReach.Journey (.loading "c" .segments) Sample.visits
      (.failure (.resolution (.unavailable "down"))) :=
    ((Journey.refl.step .dispatcher Sample.connection).step .dispatcher
      Sample.connection).step .dispatcher Sample.connection
  obtain ⟨-, -, hwaits⟩ := h.traceless Sample.onTables_outOfReach rfl
  obtain ⟨_, -, campaign, -, hstatus, hkeeps⟩ := hwaits _ rfl (.inl ⟨_, rfl⟩)
  refine ⟨h, campaign.status, hstatus, hkeeps ?_⟩
  exact List.isChain_cons_cons.2 ⟨rfl, List.isChain_cons_cons.2 ⟨rfl, .singleton _⟩⟩

variable {σ : Type} {e : Engine σ}

/-- **A dispatch that is left to itself and does not get its campaign leaves the tables as they
are.** -/
theorem execute_unclaimed {tables : σ → Store} (htables : e.OnTables tables) (id : String)
    (recipients : Recipients) (s : σ) (h : (e.execute id recipients s).1.isUnclaimed = true) :
    tables (e.execute id recipients s).2 = tables s := by
  obtain ⟨vs, hvs, hkeep⟩ := e.exists_journey_finish (.loading id recipients) s
  exact hkeep (fun s' => tables s' = tables s)
    (fun v hv hsame => (hvs.tables_after htables h v hv).trans hsame) rfl

end Engine
end Dispatch
end Mailshot
