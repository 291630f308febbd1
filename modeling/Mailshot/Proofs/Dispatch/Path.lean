import Mailshot.Dispatch.Stored
import Mailshot.Proofs.Audience.Index
import Mailshot.Proofs.Dispatch.Deed

/-!
# The paths of a dispatch

`Engine.Path` strings the steps of one dispatch together.  Each step is taken in a state of its own,
so that others may have done anything to the world since the last one; whatever is shown of all
paths holds for every order of turns and every behaviour of the world.

* `Path.induct` is how a fact about a dispatch is proved: it holds at the beginning, and whatever
  `Goes` allows keeps it.
* `Path.through_claiming` cuts a path in two.  Up to the moment when the campaign is asked for
  nothing is done that others can notice, and the audience that is found has no identifier twice.
-/

set_option autoImplicit false

namespace Mailshot
namespace Dispatch
namespace Engine

variable {σ : Type} (e : Engine σ)

/-! ## Steps in a row -/

/-- A dispatch gets from one stage to another by steps in which this is done.  Each step is taken in
a state of its own: what others do to the world between two steps is left open. -/
inductive Path (stage : Stage) : List Deed → Stage → Prop
  /-- No step is taken. -/
  | refl : Path stage [] stage
  /-- One more step is taken. -/
  | step {ds : List Deed} {now : Stage} (h : Path stage ds now) (turn : Turn) (s : σ) :
      Path stage (ds ++ (e.deed turn now s).toList) (e.step turn now s).1

variable {e}

/-- **What holds at the beginning of a path and is kept by whatever a step can come to holds at its
end.** -/
theorem Path.induct {P : List Deed → Stage → Prop} {stage stage' : Stage} {ds : List Deed}
    (h : e.Path stage ds stage') (begins : P [] stage)
    (keeps : ∀ ds d a b, e.Goes a d b → P ds a → P (ds ++ d.toList) b) : P ds stage' := by
  induction h with
  | refl => exact begins
  | step _ turn s ih => exact keeps _ _ _ _ (e.goes_step turn _ s) ih

theorem Path.trans {a b c : Stage} {ds ds' : List Deed} (h : e.Path a ds b)
    (h' : e.Path b ds' c) : e.Path a (ds ++ ds') c := by
  induction h' with
  | refl => rwa [List.append_nil]
  | step _ turn s ih => rw [← List.append_assoc]; exact ih.step turn s

/-- What is done, and what is come to, when turns are had in this order and nobody else has one. -/
def follow (e : Engine σ) : List Turn → Stage → σ → (List Deed × Stage) × σ
  | [], stage, s => (([], stage), s)
  | turn :: turns, stage, s =>
    let next := e.step turn stage s
    let rest := e.follow turns next.1 next.2
    (((e.deed turn stage s).toList ++ rest.1.1, rest.1.2), rest.2)

/-- Turns in any order make a path. -/
theorem path_follow (turns : List Turn) (stage : Stage) (s : σ) :
    e.Path stage (e.follow turns stage s).1.1 (e.follow turns stage s).1.2 := by
  induction turns generalizing stage s with
  | nil => exact .refl
  | cons turn turns ih => exact (Path.refl.step turn s).trans (ih _ _)

end Engine

/-! ## Up to the claim -/

/-- Whether a dispatch that was asked for a campaign ended before it had it for itself: the campaign
is being sent or was sent, or something that is needed beforehand could not be had. -/
def Ending.IsRefusal (id : String) : Ending → Prop
  | .answered (.ok report) => ∃ status : Status, status.isSendable = false ∧
      report = .ofSkipped id status
  | .answered (.error err) => err.isEarly = true
  | .crashed => False

namespace Engine

variable {σ : Type} (e : Engine σ)

/-- A campaign that can be read under an identifier. -/
def Reads (id : String) (campaign : Campaign) : Prop :=
  ∃ s, (e.campaigns.load id s).1 = .ok campaign

/-- What holds of a dispatch that has not asked for its campaign yet. -/
def Early (id : String) : Stage → Prop
  | .loading id' _ => id' = id
  | .linking _ campaign => e.Reads id campaign
  | .resolving campaign audience _ => e.Reads id campaign ∧ audience.Indexed
  | .identifying campaign audience => e.Reads id campaign ∧ audience.Indexed
  | .claiming campaign audience _ => e.Reads id campaign ∧ audience.Indexed
  | .sending _ => False
  | .completing _ => False
  | .ended ending => ending.IsRefusal id

variable {e}

/-- As long as the campaign is not asked for, nothing is done that others can notice. -/
theorem early_of_goes {id : String} {a b : Stage} {d : Option Deed} (hgoes : e.Goes a d b)
    (h : e.Early id a)
    (hclaim : ∀ campaign audience tenant, a ≠ .claiming campaign audience tenant) :
    d = none ∧ e.Early id b := by
  cases hgoes with
  | rest => exact ⟨rfl, h⟩
  | fail _ herr => exact ⟨rfl, herr⟩
  | skip hstatus =>
    obtain rfl : _ = id := h
    exact ⟨rfl, _, hstatus, rfl⟩
  | load hload =>
    obtain rfl : _ = id := h
    exact ⟨rfl, _, hload⟩
  | pick hload =>
    obtain rfl : _ = id := h
    exact ⟨rfl, ⟨_, hload⟩, Audience.indexed_ofList _⟩
  | link groups => exact ⟨rfl, h, Audience.indexed_empty⟩
  | add contacts => exact ⟨rfl, h.1, h.2.insertAll contacts⟩
  | gather => exact ⟨rfl, h⟩
  | identify tenant => exact ⟨rfl, h⟩
  | falter | yield | crash | win => exact absurd rfl (hclaim _ _ _)
  | work | drain | finish | strand => exact h.elim

/-- **A path from the beginning either has not come to the claim, and nothing was done, or leads
through a claim** of the campaign that was asked for, on behalf of an audience in which no
identifier comes twice, and all that was done was done from then on. -/
theorem Path.through_claiming {id : String} {recipients : Recipients} {ds : List Deed}
    {stage : Stage} (h : e.Path (.loading id recipients) ds stage) :
    (ds = [] ∧ e.Early id stage) ∨
      ∃ campaign audience tenant, e.Reads id campaign ∧ audience.Indexed ∧
        e.Path (.loading id recipients) [] (.claiming campaign audience tenant) ∧
        e.Path (.claiming campaign audience tenant) ds stage := by
  induction h with
  | refl => exact .inl ⟨rfl, rfl⟩
  | @step ds now hpath turn s ih =>
    rcases ih with ⟨rfl, hearly⟩ | ⟨campaign, audience, tenant, hreads, hindexed, hbefore, hafter⟩
    · by_cases hclaim : ∃ campaign audience tenant, now = .claiming campaign audience tenant
      · obtain ⟨campaign, audience, tenant, rfl⟩ := hclaim
        exact .inr ⟨campaign, audience, tenant, hearly.1, hearly.2, hpath,
          Path.refl.step turn s⟩
      · have hgoes := early_of_goes (e.goes_step turn now s) hearly
          fun campaign audience tenant hnow => hclaim ⟨campaign, audience, tenant, hnow⟩
        exact .inl ⟨by rw [hgoes.1]; rfl, hgoes.2⟩
    · exact .inr ⟨campaign, audience, tenant, hreads, hindexed, hbefore, hafter.step turn s⟩

end Engine

/-! ## From the claim on -/

/-- A dispatch that is sending gets from one situation to another by steps in which this is done. -/
inductive Run.Trail (limit : Nat) (r : Run) : List Deed → Run → Prop
  /-- No step is taken. -/
  | refl : Trail limit r [] r
  /-- One more step is taken. -/
  | step {ds : List Deed} {d : Option Deed} {r' r'' : Run} (h : Trail limit r ds r')
      (hgoes : r'.Goes limit d r'') : Trail limit r (ds ++ d.toList) r''

/-- Whether nothing is left to send. -/
def Run.IsDrained (r : Run) : Prop := r.next = none ∧ r.waiting = [] ∧ r.workers = []

/-- How a dispatch ends that asked to have a campaign for itself and did not get it. -/
def Ending.unclaimed (campaign : String) : Except CampaignError Bool → Ending
  | .error err => .answered (.error (.campaign err))
  | .ok _ => .answered (.error (.alreadyInProgress campaign))

/-- How a dispatch ends that sent everything and asked for its campaign to be completed. -/
def Ending.closing (report : Report) : Except CampaignError Unit → Ending
  | .error err => .answered (.error (.finalize report err))
  | .ok _ => .answered (.ok report)

namespace Engine

variable {σ : Type} (e : Engine σ)

/-- What a dispatch does and comes to from the claim on. -/
inductive Since (campaign : Campaign) (audience : Audience) (tenant : Tenant) :
    List Deed → Stage → Prop
  /-- It is about to ask for the campaign. -/
  | claiming : Since campaign audience tenant [] (.claiming campaign audience tenant)
  /-- It did not get the campaign. -/
  | unclaimed {answer : Except CampaignError Bool} (hanswer : answer ≠ .ok true) :
      Since campaign audience tenant [.asked campaign.id answer]
        (.ended (.unclaimed campaign.id answer))
  /-- It got the campaign and could not allow for as many workers as it should. -/
  | crashed (hlimit : maxWorkers < e.limit) :
      Since campaign audience tenant [.asked campaign.id (.ok true)] (.ended .crashed)
  /-- It sends. -/
  | sending {ds : List Deed} {r : Run} (hlimit : e.limit ≤ maxWorkers)
      (htrail : (e.opening campaign audience tenant).Trail e.limit ds r) :
      Since campaign audience tenant (.asked campaign.id (.ok true) :: ds) (.sending r)
  /-- It sent everything. -/
  | completing {ds : List Deed} {r : Run} (hlimit : e.limit ≤ maxWorkers)
      (htrail : (e.opening campaign audience tenant).Trail e.limit ds r)
      (hdrained : r.IsDrained) :
      Since campaign audience tenant (.asked campaign.id (.ok true) :: ds) (.completing r.report)
  /-- It asked for the campaign to be completed. -/
  | closed {ds : List Deed} {r : Run} (hlimit : e.limit ≤ maxWorkers)
      (htrail : (e.opening campaign audience tenant).Trail e.limit ds r)
      (hdrained : r.IsDrained) (answer : Except CampaignError Unit) :
      Since campaign audience tenant
        (.asked campaign.id (.ok true) :: (ds ++ [.completed r.job.campaign.id answer]))
        (.ended (.closing r.report answer))

variable {e}

/-- Whatever a step can come to leads on along the way from the claim. -/
theorem Since.goes {campaign : Campaign} {audience : Audience} {tenant : Tenant} {ds : List Deed}
    {a b : Stage} {d : Option Deed} (h : e.Since campaign audience tenant ds a)
    (hgoes : e.Goes a d b) : e.Since campaign audience tenant (ds ++ d.toList) b := by
  cases h with
  | claiming =>
    cases hgoes with
    | rest => exact .claiming
    | fail hstage => cases hstage
    | falter err => exact .unclaimed (by simp)
    | yield => exact .unclaimed (by simp)
    | crash hlimit => exact .crashed hlimit
    | win hlimit => exact .sending hlimit .refl
  | sending hlimit htrail =>
    cases hgoes with
    | rest => rw [Option.toList_none, List.append_nil]; exact .sending hlimit htrail
    | fail hstage => cases hstage
    | work hwork => exact .sending hlimit (htrail.step hwork)
    | drain hnext hwaiting hworkers =>
      rw [Option.toList_none, List.append_nil]
      exact .completing hlimit htrail ⟨hnext, hwaiting, hworkers⟩
  | completing hlimit htrail hdrained =>
    cases hgoes with
    | rest => rw [Option.toList_none, List.append_nil]; exact .completing hlimit htrail hdrained
    | fail hstage => cases hstage
    | finish => exact .closed hlimit htrail hdrained (.ok ())
    | strand err => exact .closed hlimit htrail hdrained (.error err)
  | unclaimed hanswer =>
    cases hgoes with
    | rest => exact .unclaimed hanswer
    | fail hstage => cases hstage
  | crashed hlimit =>
    cases hgoes with
    | rest => exact .crashed hlimit
    | fail hstage => cases hstage
  | closed hlimit htrail hdrained answer =>
    cases hgoes with
    | rest =>
      rw [Option.toList_none, List.append_nil]
      exact .closed hlimit htrail hdrained answer
    | fail hstage => cases hstage

/-- **A path from the claim is one of these ways.** -/
theorem Path.since {campaign : Campaign} {audience : Audience} {tenant : Tenant} {ds : List Deed}
    {stage : Stage} (h : e.Path (.claiming campaign audience tenant) ds stage) :
    e.Since campaign audience tenant ds stage :=
  h.induct .claiming fun _ _ _ _ hgoes hsince => hsince.goes hgoes

/-- The campaign that is claimed was read as the one that was asked for. -/
theorem Path.reads {id : String} {recipients : Recipients} {campaign : Campaign}
    {audience : Audience} {tenant : Tenant} {ds : List Deed}
    (h : e.Path (.loading id recipients) ds (.claiming campaign audience tenant)) :
    e.Reads id campaign := by
  rcases h.through_claiming with ⟨-, hearly⟩ | ⟨_, _, _, hreads, _, _, hsame⟩
  · exact hearly.1
  · cases hsame.since
    exact hreads

/-- The audience for which a campaign is claimed has no identifier twice. -/
theorem Path.indexed {id : String} {recipients : Recipients} {campaign : Campaign}
    {audience : Audience} {tenant : Tenant} {ds : List Deed}
    (h : e.Path (.loading id recipients) ds (.claiming campaign audience tenant)) :
    audience.Indexed := by
  rcases h.through_claiming with ⟨-, hearly⟩ | ⟨_, _, _, _, hindexed, _, hsame⟩
  · exact hearly.2
  · cases hsame.since
    exact hindexed

end Engine

/-! ## A small dispatch

What follows is for trying statements on: a store with one campaign, and whom it may go to. -/

namespace Sample

/-- A draft. -/
def campaign : Campaign where
  id := "c"
  tenant := "t"
  name := "News"
  status := .draft
  subject := "Hello"
  body := "Hello again"
  fromName := none
  replyTo := none
  scheduledAt := none
  cancelRequested := false

/-- The tenant of the draft. -/
def tenant : Tenant := ⟨"t", "Shop"⟩

/-- A store with this tenant and this draft. -/
def connection : Connection := .ofStore { Store.empty with
  tenants := Dictionary.empty.insert tenant.id tenant.name
  campaigns := Table.empty.insert campaign.id {
    tenant := campaign.tenant, name := campaign.name, subject := campaign.subject
    body := campaign.body, fromName := none, replyTo := none, status := campaign.status.name
    scheduledAt := none, cancelRequested := false, createdAt := "", updatedAt := "" } }

/-- What the clock of the database shows. -/
def now : String := "2024-01-01 00:00:00"

/-- Two contacts, one of which has an address. -/
def contacts : List Contact :=
  [{ Contact.ofIdentity "a" "t" with email := some " a@shop.test " }, .ofIdentity "b" "t"]

/-- A dispatch that works with the store and one channel. -/
def engine (channel : Channel Connection) (concurrency : Nat) : Engine Connection :=
  .ofStore (fun _ => now) (.single channel) (pure default) concurrency none

/-- A channel that breaks down over every message. -/
def broken : Channel Connection where
  name := "broken"
  send _ := pure .crashed

end Sample

end Dispatch
end Mailshot
