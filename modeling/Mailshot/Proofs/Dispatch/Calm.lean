import Mailshot.Proofs.Dispatch.Account
import Mailshot.Proofs.Dispatch.Effect
import Mailshot.Proofs.Dispatch.Sequence

/-!
# Dispatches that nobody stops

A dispatch that has the world to itself may still give its dispatcher and its workers their turns in
any order.  `Engine.Runs` leaves this order open, and keeps track of the state from step to step;
the order in which workers come first (`Engine.Proceeds`) is one of many.

* Up to the claim there is no choice: turns of workers come to nothing, and those of the dispatcher
  lead along one way (`Runs.meets`).
* From the claim on nothing can go wrong if in all states of a kind nobody asks for a stop and the
  campaign can be completed, and whatever is called leads to states of this kind again
  (`Engine.Calm`).  Every contact has its turn, and the dispatch ends with a report
  (`Runs.completes`).
-/

set_option autoImplicit false

namespace Mailshot
namespace Dispatch
namespace Engine

variable {σ : Type} (e : Engine σ)

/-! ## Turns in any order -/

/-- Nobody else having a turn, a dispatch gets from one stage and state to another, its own turns
coming in any order, and this is done. -/
inductive Runs (stage : Stage) (s : σ) : List Deed → Stage → σ → Prop
  /-- No step is taken. -/
  | refl : Runs stage s [] stage s
  /-- One more step is taken. -/
  | step {ds : List Deed} {now : Stage} {t : σ} (h : Runs stage s ds now t) (turn : Turn) :
      Runs stage s (ds ++ (e.deed turn now t).toList) (e.step turn now t).1 (e.step turn now t).2

variable {e}

theorem Runs.path {stage now : Stage} {s t : σ} {ds : List Deed} (h : e.Runs stage s ds now t) :
    e.Path stage ds now := by
  induction h with
  | refl => exact .refl
  | step _ turn ih => exact ih.step turn _

theorem Runs.trans {a b c : Stage} {s t u : σ} {ds ds' : List Deed} (h : e.Runs a s ds b t)
    (h' : e.Runs b t ds' c u) : e.Runs a s (ds ++ ds') c u := by
  induction h' with
  | refl => rwa [List.append_nil]
  | step _ turn ih =>
    rw [← List.append_assoc]
    exact ih.step turn

/-- Workers may come first. -/
theorem Proceeds.runs {stage now : Stage} {s t : σ} {ds : List Deed}
    (h : e.Proceeds stage s ds now t) : e.Runs stage s ds now t := by
  induction h with
  | refl => exact .refl
  | @step stage now s t ds _ _ ih => exact (Runs.refl.step stage.turn).trans ih

/-- Turns may be had as they are listed. -/
theorem runs_follow (turns : List Turn) (stage : Stage) (s : σ) :
    e.Runs stage s (e.follow turns stage s).1.1 (e.follow turns stage s).1.2
      (e.follow turns stage s).2 := by
  induction turns generalizing stage s with
  | nil => exact .refl
  | cons turn turns ih => exact (Runs.refl.step turn).trans (ih _ _)

/-- Whatever turns were had so far, a dispatch can go on until it is over. -/
theorem Runs.finish {stage now : Stage} {s t : σ} {ds : List Deed} (h : e.Runs stage s ds now t) :
    e.Runs stage s (ds ++ e.deedsOf now t) (.ended (e.finish now t).1) (e.finish now t).2 :=
  h.trans (proceeds_finish now t).runs

/-- A dispatch that goes on from where it gets without doing anything. -/
theorem Proceeds.runs_execute {id : String} {recipients : Recipients} {there : Stage} {s u : σ}
    (hway : e.Proceeds (.loading id recipients) s [] there u) :
    e.Runs there u (e.deedsOf (.loading id recipients) s)
      (.ended (e.execute id recipients s).1) (e.execute id recipients s).2 := by
  rw [execute, hway.finish_eq, hway.deedsOf_eq]
  exact (proceeds_finish there u).runs

/-- A dispatch that is over stays so. -/
theorem Runs.of_ended {ending : Ending} {now : Stage} {s t : σ} {ds : List Deed}
    (h : e.Runs (.ended ending) s ds now t) : ds = [] ∧ now = .ended ending ∧ t = s := by
  induction h with
  | refl => exact ⟨rfl, rfl, rfl⟩
  | step _ turn ih =>
    obtain ⟨rfl, rfl, rfl⟩ := ih
    cases turn <;> exact ⟨rfl, rfl, rfl⟩

/-! ## Up to the claim -/

/-- The first of some steps in which nothing is done that others can notice. -/
theorem Proceeds.of_nil {stage now : Stage} {s t : σ} (h : e.Proceeds stage s [] now t) :
    (stage = now ∧ s = t) ∨ (e.deed stage.turn stage s = none ∧
      e.Proceeds (e.step stage.turn stage s).1 (e.step stage.turn stage s).2 [] now t) := by
  generalize hds : ([] : List Deed) = ds at h
  cases h with
  | refl => exact .inl ⟨rfl, rfl⟩
  | step hon h =>
    obtain ⟨hdeed, rfl⟩ := List.append_eq_nil_iff.1 hds.symm
    rw [hdeed]
    exact .inr ⟨Option.toList_eq_nil_iff.1 hdeed, h⟩

/-- A dispatch that has done nothing is not sending. -/
theorem Path.not_sending {id : String} {recipients : Recipients} {now : Stage}
    (h : e.Path (.loading id recipients) [] now) (r : Run) : now ≠ .sending r := by
  rintro rfl
  rcases h.through_claiming with ⟨-, hearly⟩ | ⟨campaign, audience, tenant, -, -, -, hafter⟩
  · exact hearly
  · cases hafter.since

/-- A turn of a worker comes to nothing unless the dispatch is sending. -/
theorem step_worker {now : Stage} (h : ∀ r, now ≠ .sending r) (i : Nat) (s : σ) :
    e.step (.worker i) now s = (now, s) ∧ e.deed (.worker i) now s = none := by
  cases now with
  | sending r => exact absurd rfl (h r)
  | _ => exact ⟨rfl, rfl⟩

theorem turn_eq_dispatcher {now : Stage} (h : ∀ r, now ≠ .sending r) : now.turn = .dispatcher := by
  cases now with
  | sending r => exact absurd rfl (h r)
  | _ => rfl

/-- **Up to the claim there is one way.**  In whatever order turns are had, a dispatch is still on
its way to where it gets without doing anything, or has been there. -/
theorem Runs.meets {id : String} {recipients : Recipients} {there now : Stage} {s t u : σ}
    {ds : List Deed} (hway : e.Proceeds (.loading id recipients) s [] there u)
    (h : e.Runs (.loading id recipients) s ds now t) :
    (ds = [] ∧ e.Proceeds now t [] there u) ∨ e.Runs there u ds now t := by
  induction h with
  | refl => exact .inl ⟨rfl, hway⟩
  | @step ds now t h turn ih =>
    rcases ih with ⟨rfl, hrest⟩ | hbeyond
    · rcases hrest.of_nil with ⟨rfl, rfl⟩ | ⟨hdeed, hnext⟩
      · exact .inr (Runs.refl.step turn)
      · have hnot := h.path.not_sending
        cases turn with
        | dispatcher =>
          rw [turn_eq_dispatcher hnot] at hdeed hnext
          rw [hdeed]
          exact .inl ⟨rfl, hnext⟩
        | worker i =>
          obtain ⟨hstep, hnone⟩ := step_worker (e := e) hnot i t
          rw [hstep, hnone]
          exact .inl ⟨rfl, hrest⟩
    · exact .inr (hbeyond.step turn)

/-- So it is when the dispatch is over. -/
theorem Runs.meets_ended {id : String} {recipients : Recipients} {there : Stage} {ending : Ending}
    {s t u : σ} {ds : List Deed} (hway : e.Proceeds (.loading id recipients) s [] there u)
    (h : e.Runs (.loading id recipients) s ds (.ended ending) t) :
    e.Runs there u ds (.ended ending) t := by
  rcases h.meets hway with ⟨rfl, hrest⟩ | hbeyond
  · obtain ⟨-, heq, rfl⟩ := hrest.runs.of_ended
    rw [heq]
    exact .refl
  · exact hbeyond

/-! ## From the claim on -/

/-- While it is sending, a dispatch gets from one situation and state to another, and this is done;
in between all states have a property. -/
inductive Sends (P : σ → Prop) (e : Engine σ) (r : Run) (s : σ) : List Deed → Run → σ → Prop
  /-- No step is taken. -/
  | refl : Sends P e r s [] r s
  /-- One more step is taken. -/
  | step {ds : List Deed} {r' r'' : Run} {t t' : σ} (h : Sends P e r s ds r' t) (ht : P t)
      (turn : Turn) (hstep : e.step turn (.sending r') t = (.sending r'', t')) :
      Sends P e r s (ds ++ (e.deed turn (.sending r') t).toList) r'' t'

/-- In the states with a property nobody asks for the campaign to be stopped, it can be completed,
and whatever is called leads to such states again. -/
structure Calm (P : σ → Prop) (id : String) (e : Engine σ) : Prop where
  keeping : e.Keeping fun s s' => P s → P s'
  record : ∀ event, Keeps (fun s s' => P s → P s') (e.record event)
  go : ∀ s, P s → stopRequested (e.campaigns.cancelRequested id s).1 = false
  complete : ∀ s, P s → (e.campaigns.complete id s).1 = .ok ()

section Sends

variable {P : σ → Prop} {r r' : Run} {s t : σ} {ds : List Deed}

/-- A dispatch that goes on sending does what such a dispatch can come to, or nothing. -/
theorem Goes.of_sending_sending {d : Option Deed} (h : e.Goes (.sending r) d (.sending r')) :
    (d = none ∧ r' = r) ∨ r.Goes e.limit d r' := by
  cases h with
  | rest => exact .inl ⟨rfl, rfl⟩
  | work hgoes => exact .inr hgoes

theorem Sends.trail (h : e.Sends P r s ds r' t) : r.Trail e.limit ds r' := by
  induction h with
  | refl => exact .refl
  | @step ds r' r'' t t' _ _ turn hstep ih =>
    have hgoes := e.goes_step turn (.sending r') t
    rw [hstep] at hgoes
    rcases hgoes.of_sending_sending with ⟨hnone, rfl⟩ | hgoes
    · rw [hnone, Option.toList_none, List.append_nil]
      exact ih
    · exact ih.step hgoes

/-- Workers do not stop a dispatch. -/
theorem stopped_workerStep (r : Run) (i : Nat) (s : σ) :
    ∃ r', (e.workerStep r i s).1 = .sending r' ∧ r'.stopped = r.stopped := by
  have hafter : ∀ contact email tried time d,
      (afterCall r i contact email tried time d).stopped = r.stopped := by
    intro contact email tried time d
    cases d with
    | none => rfl
    | some d => cases d <;> rfl
  cases hworker : r.workers[i]? with
  | none =>
    simp only [workerStep, hworker]
    exact ⟨_, rfl, rfl⟩
  | some w =>
    cases w with
    | recording event =>
      simp only [workerStep, hworker]
      exact ⟨_, rfl, rfl⟩
    | calling contact email tried =>
      cases hchannel : e.failover.channels[tried]? with
      | none =>
        simp only [workerStep, hworker, hchannel]
        exact ⟨_, rfl, hafter _ _ _ _ _⟩
      | some channel =>
        simp only [workerStep, hworker, hchannel]
        exact ⟨_, rfl, hafter _ _ _ _ _⟩

/-- Nor does the dispatcher, if nobody asks for it. -/
theorem stopped_dispatcherStep
    (hgo : stopRequested (e.campaigns.cancelRequested r.job.campaign.id s).1 = false)
    (hstep : (e.dispatcherStep r s).1 = .sending r') : r'.stopped = r.stopped := by
  cases hnext : r.next with
  | some chosen =>
    obtain ⟨contact, address⟩ := chosen
    simp only [dispatcherStep, hnext, bind_apply, hgo, Bool.false_eq_true, if_false] at hstep
    cases hstep
    rfl
  | none =>
    have hgoes := e.goes_dispatcherStep r s
    rw [hstep] at hgoes
    generalize e.deed .dispatcher (.sending r) s = d at hgoes
    rcases hgoes.of_sending_sending with ⟨-, rfl⟩ | hgoes
    · rfl
    · cases hgoes with
      | stop hsome =>
        rw [hnext] at hsome
        cases hsome
      | _ => rfl

/-- **A dispatch is not stopped unless somebody asks for it.** -/
theorem Sends.stopped_eq (hgo : ∀ s, P s →
    stopRequested (e.campaigns.cancelRequested r.job.campaign.id s).1 = false)
    (h : e.Sends P r s ds r' t) : r'.stopped = r.stopped := by
  induction h with
  | refl => rfl
  | @step ds r' r'' t t' h ht turn hstep ih =>
    have hjob : r'.job = r.job := h.trail.job_eq
    rw [← ih]
    cases turn with
    | dispatcher =>
      refine stopped_dispatcherStep (e := e) (s := t) ?_ (congrArg Prod.fst hstep)
      rw [hjob]
      exact hgo t ht
    | worker i =>
      obtain ⟨r₁, heq, hsame⟩ := stopped_workerStep (e := e) r' i t
      cases heq.symm.trans (congrArg Prod.fst hstep)
      exact hsame

/-- A step that is taken while a dispatch is sending leads to a state with the property again. -/
theorem Calm.step_sending {id : String} (h : e.Calm P id) (turn : Turn) (hs : P s) :
    P (e.step turn (.sending r) s).2 := by
  have hgoes := e.goes_step turn (.sending r) s
  have hafter := h.keeping.after_step turn (.sending r) s
  generalize e.deed turn (.sending r) s = d at hgoes hafter
  generalize (e.step turn (.sending r) s).2 = s' at hafter
  generalize (e.step turn (.sending r) s).1 = now at hgoes
  cases hafter with
  | asked | completed =>
    cases hgoes with
    | work hgoes => cases hgoes
  | recorded event => exact h.record event s hs
  | other _ hkeeps => exact hkeeps hs

end Sends

/-- What a dispatch that nobody stops does and comes to, from the claim in a state on. -/
inductive Course (P : σ → Prop) (e : Engine σ) (campaign : Campaign) (audience : Audience)
    (tenant : Tenant) (s : σ) : List Deed → Stage → σ → Prop
  /-- It is about to ask for the campaign. -/
  | claiming : Course P e campaign audience tenant s [] (.claiming campaign audience tenant) s
  /-- It sends. -/
  | sending {ds : List Deed} {r : Run} {t : σ}
      (h : e.Sends P (e.opening campaign audience tenant)
        (e.campaigns.claim campaign.id s).2 ds r t)
      (ht : P t) :
      Course P e campaign audience tenant s (.asked campaign.id (.ok true) :: ds) (.sending r) t
  /-- It sent everything. -/
  | completing {ds : List Deed} {r : Run} {t t' : σ}
      (h : e.Sends P (e.opening campaign audience tenant)
        (e.campaigns.claim campaign.id s).2 ds r t)
      (hdrained : r.IsDrained) (ht : P t') :
      Course P e campaign audience tenant s (.asked campaign.id (.ok true) :: ds)
        (.completing r.report) t'
  /-- It completed the campaign. -/
  | ended {ds : List Deed} {r : Run} {t t' : σ}
      (h : e.Sends P (e.opening campaign audience tenant)
        (e.campaigns.claim campaign.id s).2 ds r t)
      (hdrained : r.IsDrained) (ht : P t') :
      Course P e campaign audience tenant s
        (.asked campaign.id (.ok true) :: (ds ++ [.completed campaign.id (.ok ())]))
        (.ended (.answered (.ok r.report))) (e.campaigns.complete campaign.id t').2

section Course

variable {P : σ → Prop} {campaign : Campaign} {audience : Audience} {tenant : Tenant} {s t : σ}
  {ds : List Deed} {now : Stage}

/-- **One more step on this course.** -/
theorem Course.step (hcalm : e.Calm P campaign.id) (hlimit : e.limit ≤ maxWorkers)
    (hwon : (e.campaigns.claim campaign.id s).1 = .ok true)
    (hs : P (e.campaigns.claim campaign.id s).2)
    (h : Course P e campaign audience tenant s ds now t) (turn : Turn) :
    Course P e campaign audience tenant s (ds ++ (e.deed turn now t).toList)
      (e.step turn now t).1 (e.step turn now t).2 := by
  cases h with
  | claiming =>
    cases turn with
    | worker i => exact .claiming
    | dispatcher =>
      have hstep : e.step .dispatcher (.claiming campaign audience tenant) s =
          (.sending (e.opening campaign audience tenant), (e.campaigns.claim campaign.id s).2) := by
        simp only [Engine.step, bind_apply, hwon, pure_apply, start_eq,
          if_neg (Nat.not_lt.2 hlimit)]
      rw [hstep, deed, hwon]
      exact .sending .refl hs
  | @sending ds r t h ht =>
    have hP := hcalm.step_sending (r := r) turn ht
    have hgoes := e.goes_step turn (.sending r) t
    rcases hstep : e.step turn (.sending r) t with ⟨now, t'⟩
    rw [hstep] at hgoes hP
    rcases hgoes.of_sending with ⟨r', rfl⟩ | ⟨report, rfl⟩
    · exact .sending (h.step ht turn hstep) hP
    · generalize e.deed turn (.sending r) t = d at hgoes
      cases hgoes with
      | drain hnext hwaiting hworkers =>
        rw [Option.toList_none, List.append_nil]
        exact .completing h ⟨hnext, hwaiting, hworkers⟩ hP
  | @completing ds r _ _ h hdrained ht =>
    cases turn with
    | worker i =>
      show Course P e campaign audience tenant s (_ ++ []) (.completing r.report) t
      rw [List.append_nil]
      exact .completing h hdrained ht
    | dispatcher =>
      have hcampaign : r.report.campaign = campaign.id := congrArg Campaign.id h.trail.campaign_eq
      have hanswer := hcalm.complete t ht
      have hstep : e.step .dispatcher (.completing r.report) t =
          (.ended (.answered (.ok r.report)), (e.campaigns.complete campaign.id t).2) := by
        simp only [Engine.step, bind_apply, hcampaign, hanswer]
        rfl
      rw [hstep, deed, hcampaign, hanswer]
      exact .ended h hdrained ht
  | @ended ds r _ _ h hdrained ht =>
    cases turn with
    | dispatcher | worker =>
      show Course P e campaign audience tenant s (_ ++ []) (.ended (.answered (.ok r.report))) _
      rw [List.append_nil]
      exact .ended h hdrained ht

/-- **A dispatch that gets its campaign, and that nobody stops, completes it**, in whatever order
turns are had. -/
theorem Runs.completes (hcalm : e.Calm P campaign.id) (hlimit : e.limit ≤ maxWorkers)
    (hwon : (e.campaigns.claim campaign.id s).1 = .ok true)
    (hs : P (e.campaigns.claim campaign.id s).2)
    (h : e.Runs (.claiming campaign audience tenant) s ds now t) :
    Course P e campaign audience tenant s ds now t := by
  induction h with
  | refl => exact .claiming
  | step _ turn ih => exact ih.step hcalm hlimit hwon hs turn

end Course

end Engine
end Dispatch
end Mailshot
