import Mailshot.Proofs.Dispatch.Exclusive

/-!
# A campaign that is being sent gets completed

Once a call has got its campaign, the campaign is completed when the call is over, as long as the
store can be reached then: whatever becomes of the messages, there is one way out of sending and it
leads through completion, and nobody but this call can have completed the campaign before
(`Reaches.refusal_of_completed`).  There is one exception.  A call that is to allow for more workers
than there can be breaks down after it got its campaign, and leaves it behind as one that is being
sent (`Reaches.completed_iff`).
-/

set_option autoImplicit false

namespace Mailshot
namespace Dispatch

namespace Engine

variable {σ : Type} {e : Engine σ} {campaign : Campaign} {audience : Audience} {tenant : Tenant}
  {ds : List Deed}

/-- Only at its end does a dispatch ask for a campaign to be completed. -/
theorem Goes.eq_completing {a b : Stage} {id : String} {answer : Except CampaignError Unit}
    (h : e.Goes a (some (.completed id answer)) b) :
    ∃ report, a = .completing report ∧ report.campaign = id := by
  cases h with
  | work hgoes =>
    have hguard := hgoes.isGuard_eq _ rfl
    cases hguard
  | finish | strand => exact ⟨_, rfl, rfl⟩

/-- Then it is about to complete its campaign, and has not done so. -/
theorem Since.completing_cases {report : Report}
    (h : e.Since campaign audience tenant ds (.completing report)) :
    report.campaign = campaign.id ∧ ∀ id answer, .completed id answer ∉ ds := by
  cases h with
  | @completing _ r hlimit htrail hdrained =>
    refine ⟨?_, fun id answer hmem => ?_⟩
    · rw [Run.report, htrail.campaign_eq]
    · rcases List.mem_cons.1 hmem with heq | hmem
      · cases heq
      · have hguard := htrail.isGuard_eq _ hmem
        cases hguard

end Engine

namespace Reaches

variable {σ : Type} {view : σ → Connection} {s₀ : σ} {trace : Trace} {sys : System σ}

/-- What a call got is completed by no other. -/
theorem isDone_iff_mem_doneBy (h : Reaches view s₀ trace sys) {id : String} {i : Nat}
    (hi : i ∈ winners id trace) :
    isDone id trace = true ↔ .completed id (.ok ()) ∈ doneBy i trace := by
  rw [isDone_iff, mem_doneBy]
  constructor
  · rintro ⟨j, hmem⟩
    have hj := h.mem_winners_of_completed hmem
    rw [h.winners_eq hi, List.mem_singleton] at hj
    rwa [← hj]
  · exact fun hmem => ⟨i, hmem⟩

/-- The store says of a campaign that a call got whether this call has completed it. -/
theorem status?_eq (h : Reaches view s₀ trace sys) {id : String} {i : Nat}
    (hi : i ∈ winners id trace) :
    (view sys.state).store.status? id =
      some (if isDone id trace then Status.completed else Status.sending).name := by
  rcases h.kept id with hnone | ⟨-, hsame⟩
  · rw [hnone] at hi
    cases hi
  · exact hsame

/-- A call that is about to complete its campaign finds it as one that is being sent. -/
theorem status?_of_completing (h : Reaches view s₀ trace sys) {i : Nat} {call : Call σ}
    (hcall : sys.calls[i]? = some call) {report : Report}
    (hstage : call.stage = .completing report) :
    (view sys.state).store.status? report.campaign = some Status.sending.name := by
  rcases h.since hcall with ⟨-, hearly⟩ | ⟨campaign, audience, tenant, -, -, hsince⟩
  · rw [hstage] at hearly
    exact hearly.elim
  · rw [hstage] at hsince
    obtain ⟨hcampaign, hnot⟩ := hsince.completing_cases
    have hi : i ∈ winners report.campaign trace := by
      rcases hsince.won_or_not with hwon | ⟨-, heq⟩ | ⟨_, -, -, heq⟩
      · exact hwon.mem_winners hcampaign.symm
      · cases heq
      · cases heq
    have hdone : ¬ isDone report.campaign trace = true := fun hdone =>
      hnot _ _ ((h.isDone_iff_mem_doneBy hi).1 hdone)
    rw [h.status?_eq hi, if_neg hdone]

/-- **A campaign is completed when a call asks for it**, unless the store cannot be reached. -/
theorem refusal_of_completed (h : Reaches view s₀ trace sys) {i : Nat} {id : String}
    {err : CampaignError} (hd : (i, .completed id (.error err)) ∈ trace) :
    ∃ fault, err = .store fault := by
  induction h with
  | init => cases hd
  | enter _ _ _ _ ih => exact ih hd
  | others _ _ ih => exact ih hd
  | @turn trace sys h j call hcall turn ih =>
    rcases List.mem_append.1 hd with hd | hd
    · exact ih hd
    · obtain ⟨d, hdeed, heq⟩ := List.mem_map.1 hd
      cases heq
      have hgoes := call.engine.goes_step turn call.stage sys.state
      have heffect := (h.path hcall).1.effect_step turn call.stage sys.state
      rw [Option.mem_toList.1 hdeed] at hgoes heffect
      obtain ⟨report, hstage, rfl⟩ := hgoes.eq_completing
      have hstatus := h.status?_of_completing hcall hstage
      generalize view sys.state = c at heffect hstatus
      cases heffect with
      | complete hcomplete =>
        rcases Connection.complete_cases hcomplete with ⟨hok, -⟩ | ⟨err', herr, -, hwhy⟩
        · cases hok
        · cases herr
          rcases hwhy with hfault | hmark
          · exact hfault
          · rw [(c.store.markCompleted_fst report.campaign _).2 hstatus] at hmark
            cases hmark
      | mind hguard =>
        cases hguard _ rfl

/-- How a call is over that got its campaign, if the store was within reach at its end. -/
theorem over_cases (h : Reaches view s₀ trace sys) {i : Nat} {call : Call σ}
    (hcall : sys.calls[i]? = some call) (hwon : (i, .asked call.id (.ok true)) ∈ trace)
    {ending : Ending} (hover : call.stage = .ended ending)
    (hreached : ∀ fault, (i, .completed call.id (.error (.store fault))) ∉ trace) :
    (maxWorkers < call.engine.limit ∧ ending = .crashed ∧ isDone call.id trace = false) ∨
      (call.engine.limit ≤ maxWorkers ∧ (∃ report, ending = .answered (.ok report)) ∧
        isDone call.id trace = true) := by
  have hdone := h.isDone_iff_mem_doneBy (mem_winners.2 hwon)
  have hasked := mem_doneBy.2 hwon
  have hreached' : ∀ fault, .completed call.id (.error (.store fault)) ∉ doneBy i trace :=
    fun fault hmem => hreached fault (mem_doneBy.1 hmem)
  have hrefusal : ∀ err, .completed call.id (.error err) ∈ doneBy i trace →
      ∃ fault, err = .store fault := fun err hmem => h.refusal_of_completed (mem_doneBy.1 hmem)
  rcases h.since hcall with ⟨hnone, -⟩ | ⟨campaign, audience, tenant, hid, -, hsince⟩
  · rw [hnone] at hasked
    cases hasked
  · rw [hover] at hsince
    generalize doneBy i trace = ds at *
    cases hsince with
    | unclaimed hanswer =>
      injection List.mem_singleton.1 hasked with _ heq
      exact absurd heq.symm hanswer
    | crashed hlimit =>
      refine .inl ⟨hlimit, rfl, Bool.eq_false_iff.2 fun hd => ?_⟩
      cases List.mem_singleton.1 (hdone.1 hd)
    | @closed ds r hlimit htrail hdrained answer =>
      have hjob : r.job.campaign.id = call.id := by rw [htrail.campaign_eq, hid]
      rw [hjob] at hdone hreached' hrefusal
      have hmem : ∀ answer' : Except CampaignError Unit, answer = answer' →
          .completed call.id answer' ∈ .asked campaign.id (.ok true) ::
            (ds ++ [.completed call.id answer]) := by
        rintro answer' rfl
        exact List.mem_cons_of_mem _ (List.mem_append_right _ List.mem_cons_self)
      refine .inr ⟨hlimit, ?_⟩
      cases answer with
      | ok done => exact ⟨⟨r.report, rfl⟩, hdone.2 (hmem _ rfl)⟩
      | error err =>
        obtain ⟨fault, rfl⟩ := hrefusal err (hmem _ rfl)
        exact absurd (hmem _ rfl) (hreached' fault)

/-- **A campaign that entered sending reaches completion, unless its call was to allow for more
workers than there can be.**  Let a call that got its campaign be over, and let the store have been
within reach when the campaign was to be completed.  The call has an answer and the campaign is
completed just if no more workers were to be allowed than there can be; otherwise the call broke
down and the campaign is still being sent. -/
theorem completed_iff (h : Reaches view s₀ trace sys) {i : Nat} {call : Call σ}
    (hcall : sys.calls[i]? = some call) (hwon : (i, .asked call.id (.ok true)) ∈ trace)
    {ending : Ending} (hover : call.stage = .ended ending)
    (hreached : ∀ fault, (i, .completed call.id (.error (.store fault))) ∉ trace) :
    (((view sys.state).store.status? call.id = some Status.completed.name ∧
        ∃ report, ending = .answered (.ok report)) ↔ call.engine.limit ≤ maxWorkers) ∧
      (((view sys.state).store.status? call.id = some Status.sending.name ∧ ending = .crashed) ↔
        maxWorkers < call.engine.limit) := by
  have hstatus := h.status?_eq (mem_winners.2 hwon)
  rcases h.over_cases hcall hwon hover hreached with ⟨hlimit, rfl, hdone⟩ | ⟨hlimit, hending, hdone⟩
  · rw [hdone, if_neg Bool.false_ne_true] at hstatus
    refine ⟨⟨?_, fun hle => absurd hlimit (Nat.not_lt.2 hle)⟩, fun _ => hlimit,
      fun _ => ⟨hstatus, rfl⟩⟩
    rintro ⟨-, report, heq⟩
    cases heq
  · rw [hdone, if_pos rfl] at hstatus
    refine ⟨⟨fun _ => hlimit, fun _ => ⟨hstatus, hending⟩⟩, ?_,
      fun hlt => absurd hlimit (Nat.not_le.2 hlt)⟩
    rintro ⟨-, rfl⟩
    obtain ⟨report, heq⟩ := hending
    cases heq

/-- A call with room for one worker completes its campaign. -/
theorem completed_of_one_worker :
    ∃ trace sys call report, Reaches id Sample.connection trace sys ∧ sys.calls[0]? = some call ∧
      (0, .asked "c" (.ok true)) ∈ trace ∧ call.stage = .ended (.answered (.ok report)) ∧
      (∀ fault, (0, .completed "c" (.error (.store fault))) ∉ trace) ∧
      call.engine.limit ≤ maxWorkers ∧
      sys.state.store.status? "c" = some Status.completed.name := by
  have h := (Sample.reaches_calls 1 1).play
    [(0, .dispatcher), (0, .dispatcher), (0, .dispatcher), (0, .dispatcher), (0, .dispatcher),
      (0, .worker 0), (0, .worker 0), (0, .dispatcher), (0, .dispatcher), (0, .dispatcher)]
  generalize hplay : System.play _ _ = played at h
  have hcall : played.2.calls[0]? = some { Sample.call 1 with
      stage := .ended (.answered (.ok ⟨"c", .completed, 2, 1, 0, 1⟩)) } := by
    rw [← hplay]
    rfl
  have hwon : (0, .asked "c" (.ok true)) ∈ [] ++ played.1 := by
    rw [← hplay]
    exact List.mem_cons_self
  have hreached : ∀ fault, (0, .completed "c" (.error (.store fault))) ∉ [] ++ played.1 := by
    intro fault hmem
    have herrors : ([] ++ played.1).filterMap (Deed.error? ∘ Prod.snd) = [] := by
      rw [← hplay]
      rfl
    cases List.filterMap_eq_nil_iff.1 herrors _ hmem
  have hlimit : (Sample.engine .console 1).limit ≤ maxWorkers := by decide
  exact ⟨_, _, _, _, h, hcall, hwon, rfl, hreached, hlimit,
    ((h.completed_iff hcall hwon rfl hreached).1.2 hlimit).1⟩

/-- A call with room for more workers than there can be leaves its campaign behind. -/
theorem left_sending :
    ∃ trace sys call, Reaches id Sample.connection trace sys ∧ sys.calls[0]? = some call ∧
      (0, .asked "c" (.ok true)) ∈ trace ∧ call.stage = .ended .crashed ∧
      (∀ id answer, (0, .completed id answer) ∉ trace) ∧
      sys.state.store.status? "c" = some Status.sending.name := by
  have h := (Sample.reaches_calls (2 ^ 61) 1).play
    [(0, .dispatcher), (0, .dispatcher), (0, .dispatcher)]
  refine ⟨_, _, _, h, rfl, List.mem_cons_self, rfl, ?_, rfl⟩
  intro id answer hmem
  cases List.mem_singleton.1 hmem

end Reaches

end Dispatch
end Mailshot
