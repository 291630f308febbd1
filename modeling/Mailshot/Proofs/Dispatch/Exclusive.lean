import Mailshot.Proofs.Dispatch.Hand
import Mailshot.Proofs.Dispatch.System

/-!
# A campaign is dispatched once

Any number of calls may find a campaign ready to be sent and get to the point where they ask for it.
Only one of them gets it, whatever the others do in between.  The invariant behind this
(`Reaches.kept`) ties the deeds of all calls to the store: as soon as one call has got a campaign,
the store says that it is being sent, and later that it was sent, and in either case nobody gets it.
The rest follows from what a single call does (`Engine.Since.won_or_not`), because every message and
every event comes after the campaign was got.
-/

set_option autoImplicit false

namespace Mailshot
namespace Dispatch

/-! ## What one call does -/

theorem Run.Trail.isGuard_eq {limit : Nat} {r r' : Run} {ds : List Deed}
    (h : r.Trail limit ds r') : ∀ d ∈ ds, d.isGuard = false := by
  induction h with
  | refl =>
    intro d hd
    cases hd
  | step _ hgoes ih =>
    intro d hd
    rcases List.mem_append.1 hd with hd | hd
    · exact ih d hd
    · exact hgoes.isGuard_eq d (Option.mem_toList.1 hd)

namespace Engine

variable {σ : Type} {e : Engine σ} {campaign : Campaign} {audience : Audience} {tenant : Tenant}
  {ds : List Deed} {stage : Stage}

/-- What a dispatch does that got its campaign: it asks for the campaign, sends, and asks for the
campaign to be completed, as far as it has come. -/
def Won (e : Engine σ) (campaign : Campaign) (audience : Audience) (tenant : Tenant)
    (ds : List Deed) : Prop :=
  ∃ during last r, ds = .asked campaign.id (.ok true) :: (during ++ last) ∧
    (e.opening campaign audience tenant).Trail e.limit during r ∧
    (last = [] ∨ ∃ answer, last = [.completed campaign.id answer])

/-- **A dispatch got its campaign or did nothing.** -/
theorem Since.won_or_not (h : e.Since campaign audience tenant ds stage) :
    e.Won campaign audience tenant ds ∨
      (ds = [] ∧ stage = .claiming campaign audience tenant) ∨
      ∃ answer, answer ≠ .ok true ∧ ds = [.asked campaign.id answer] ∧
        stage = .ended (.unclaimed campaign.id answer) := by
  cases h with
  | claiming => exact .inr (.inl ⟨rfl, rfl⟩)
  | unclaimed hanswer => exact .inr (.inr ⟨_, hanswer, rfl, rfl⟩)
  | crashed hlimit => exact .inl ⟨[], [], _, rfl, .refl, .inl rfl⟩
  | @sending ds r hlimit htrail =>
    exact .inl ⟨ds, [], r, by rw [List.append_nil], htrail, .inl rfl⟩
  | @completing ds r hlimit htrail =>
    exact .inl ⟨ds, [], r, by rw [List.append_nil], htrail, .inl rfl⟩
  | @closed ds r hlimit htrail hdrained answer =>
    rw [htrail.campaign_eq]
    exact .inl ⟨ds, _, r, rfl, htrail, .inr ⟨answer, rfl⟩⟩

namespace Won

theorem mem_asked (h : e.Won campaign audience tenant ds) :
    .asked campaign.id (.ok true) ∈ ds := by
  obtain ⟨during, last, r, rfl, -, -⟩ := h
  exact List.mem_cons_self

/-- Nothing is done but for the campaign that was got. -/
theorem cases_of_mem (h : e.Won campaign audience tenant ds) {d : Deed} (hd : d ∈ ds) :
    d = .asked campaign.id (.ok true) ∨ d.isGuard = false ∨
      ∃ answer, d = .completed campaign.id answer := by
  obtain ⟨during, last, r, rfl, htrail, hlast⟩ := h
  rcases List.mem_cons.1 hd with rfl | hd
  · exact .inl rfl
  · rcases List.mem_append.1 hd with hd | hd
    · exact .inr (.inl (htrail.isGuard_eq d hd))
    · rcases hlast with rfl | ⟨answer, rfl⟩
      · cases hd
      · exact .inr (.inr ⟨answer, List.mem_singleton.1 hd⟩)

/-- Its events are those of the campaign. -/
theorem campaign_of_recorded (h : e.Won campaign audience tenant ds) {event : SendEvent}
    {answer : Except CampaignError Unit} (hd : .recorded event answer ∈ ds) :
    event.campaign = campaign.id := by
  obtain ⟨during, last, r, rfl, htrail, hlast⟩ := h
  have hrecorded : event ∈ recordedIn during := by
    have hmem : event ∈ recordedIn (.asked campaign.id (.ok true) :: (during ++ last)) :=
      List.mem_filterMap.2 ⟨_, hd, rfl⟩
    rcases hlast with rfl | ⟨answer', rfl⟩ <;> simpa using hmem
  rw [(htrail.signed.recorded event hrecorded).1, htrail.campaign_eq]

/-- It starts no worker twice for a contact and hands no message to a channel twice. -/
theorem nodup_handed (h : e.Won campaign audience tenant ds) (hids : audience.ids.Nodup) :
    ((startedIn ds).map (·.id)).Nodup ∧ (handedIn ds).Nodup := by
  obtain ⟨during, last, r, rfl, htrail, hlast⟩ := h
  have hstarted := htrail.nodup_started hids
  have honce := htrail.once hids
  rcases hlast with rfl | ⟨answer', rfl⟩
  · exact ⟨by simpa using hstarted, by simpa using honce.nodup⟩
  · exact ⟨by simpa using hstarted, by simpa using honce.nodup⟩

end Won

end Engine

/-! ## What all calls do -/

/-- Whether a campaign was completed by it. -/
def Deed.completes (campaign : String) : Deed → Bool
  | completed id (.ok _) => id = campaign
  | _ => false

/-- The calls that got a campaign, in order. -/
def winners (id : String) (trace : Trace) : List Nat :=
  (trace.filter fun p => p.2.wins id).map (·.1)

/-- Whether a call completed a campaign. -/
def isDone (id : String) (trace : Trace) : Bool := trace.any fun p => p.2.completes id

theorem Deed.wins_iff {id : String} {d : Deed} : d.wins id = true ↔ d = .asked id (.ok true) := by
  constructor
  · intro h
    cases d with
    | asked id' answer =>
      cases answer with
      | error err => cases h
      | ok won =>
        cases won with
        | false => cases h
        | true => rw [of_decide_eq_true h]
    | _ => cases h
  · rintro rfl
    exact decide_eq_true rfl

theorem mem_winners {id : String} {trace : Trace} {i : Nat} :
    i ∈ winners id trace ↔ (i, .asked id (.ok true)) ∈ trace := by
  rw [winners, List.mem_map]
  constructor
  · rintro ⟨p, hp, rfl⟩
    obtain ⟨hmem, hwins⟩ := List.mem_filter.1 hp
    rw [← Deed.wins_iff.1 hwins]
    exact hmem
  · intro h
    exact ⟨_, List.mem_filter.2 ⟨h, Deed.wins_iff.2 rfl⟩, rfl⟩

theorem winners_append (id : String) (trace : Trace) (i : Nat) (d : Deed) :
    winners id (trace ++ [(i, d)]) = winners id trace ++ if d.wins id then [i] else [] := by
  rw [winners, winners, List.filter_append, List.map_append]
  cases h : d.wins id <;> simp [h]

theorem isDone_append (id : String) (trace : Trace) (i : Nat) (d : Deed) :
    isDone id (trace ++ [(i, d)]) = (isDone id trace || d.completes id) := by
  rw [isDone, isDone, List.any_append]
  simp

theorem isDone_iff {id : String} {trace : Trace} :
    isDone id trace = true ↔ ∃ i, (i, .completed id (.ok ())) ∈ trace := by
  rw [isDone, List.any_eq_true]
  constructor
  · rintro ⟨⟨i, d⟩, hmem, hcompletes⟩
    cases d with
    | completed id' answer =>
      cases answer with
      | error err => cases hcompletes
      | ok done =>
        obtain rfl := of_decide_eq_true hcompletes
        exact ⟨i, hmem⟩
    | _ => cases hcompletes
  · rintro ⟨i, hmem⟩
    exact ⟨_, hmem, decide_eq_true rfl⟩

/-- The store says of a campaign what the deeds say: if a call got it then one call did, and it is
being sent until it is completed. -/
def Kept (id : String) (trace : Trace) (s : Store) : Prop :=
  winners id trace = [] ∨ (winners id trace).length = 1 ∧
    s.status? id = some (if isDone id trace then Status.completed else Status.sending).name

/-- Who got its campaign is one of those who did. -/
theorem Engine.Won.mem_winners {σ : Type} {e : Engine σ} {campaign : Campaign}
    {audience : Audience} {tenant : Tenant} {trace : Trace} {i : Nat} {id : String}
    (h : e.Won campaign audience tenant (doneBy i trace)) (hid : campaign.id = id) :
    i ∈ winners id trace := by
  subst hid
  exact Dispatch.mem_winners.2 (mem_doneBy.1 h.mem_asked)

/-- What is neither a claim nor a completion is nothing to `Kept`. -/
theorem Kept.mind {id : String} {trace : Trace} {s s' : Store} (h : Kept id trace s)
    {i : Nat} {d : Option Deed} (hd : ∀ deed ∈ d, deed.wins id = false ∧ deed.completes id = false)
    (hstatus : ∀ status : Status, status.isSendable = false → s.status? id = some status.name →
      s'.status? id = some status.name) :
    Kept id (trace ++ d.toList.map fun deed => (i, deed)) s' := by
  have hwinners : winners id (trace ++ d.toList.map fun deed => (i, deed)) = winners id trace ∧
      isDone id (trace ++ d.toList.map fun deed => (i, deed)) = isDone id trace := by
    cases d with
    | none => simp
    | some deed =>
      obtain ⟨hwins, hcompletes⟩ := hd deed rfl
      rw [Option.toList_some, List.map_singleton, winners_append, isDone_append, hwins, hcompletes]
      simp
  rw [Kept, hwinners.1, hwinners.2]
  refine h.imp_right fun ⟨hone, hsame⟩ => ⟨hone, hstatus _ ?_ hsame⟩
  split <;> rfl

/-- A claim keeps store and deeds together. -/
theorem Kept.ask {id id' now : String} {trace : Trace} {c c' : Connection}
    {answer : Except CampaignError Bool} (h : Kept id trace c.store)
    (hdone : isDone id trace = true → winners id trace ≠ [])
    (hclaim : Connection.claim id' now c = (answer, c')) (i : Nat) :
    Kept id (trace ++ (some (Deed.asked id' answer)).toList.map fun deed => (i, deed))
      c'.store := by
  rcases Connection.claim_cases hclaim with ⟨rfl, hwon, hstore⟩ | ⟨hlost, rfl⟩
  · by_cases hid : id' = id
    · subst hid
      have hbefore := (c.store.claim_fst id' now).1 hwon
      rcases h with hnone | ⟨-, hsame⟩
      · have hfresh : isDone id' trace = false := Bool.eq_false_iff.2 fun ht => hdone ht hnone
        refine .inr ⟨?_, ?_⟩
        · rw [Option.toList_some, List.map_singleton, winners_append, hnone]
          simp [Deed.wins]
        · rw [Option.toList_some, List.map_singleton, isDone_append, hfresh, hstore,
            Store.status?_claim, if_pos ⟨hwon, rfl⟩]
          rfl
      · -- a campaign that somebody has got is no draft and not scheduled
        rw [hsame] at hbefore
        simp only [Option.some.injEq, Status.name_inj] at hbefore
        split at hbefore <;> simp at hbefore
    · refine h.mind (fun deed hdeed => ?_) fun status _ hs => ?_
      · cases hdeed
        simp [Deed.wins, Deed.completes, hid]
      · rw [hstore, Store.status?_claim, if_neg fun hand => hid hand.2, hs]
  · refine h.mind (fun deed hdeed => ?_) fun _ _ hs => hs
    cases hdeed
    refine ⟨?_, rfl⟩
    rw [Bool.eq_false_iff]
    intro hwins
    injection Deed.wins_iff.1 hwins with _ hanswer
    exact hlost hanswer

/-- So does a completion. -/
theorem Kept.complete {id id' now : String} {trace : Trace} {c c' : Connection}
    {answer : Except CampaignError Unit} (h : Kept id trace c.store)
    (hcomplete : Connection.complete id' now c = (answer, c')) (i : Nat) :
    Kept id (trace ++ (some (Deed.completed id' answer)).toList.map fun deed => (i, deed))
      c'.store := by
  rcases Connection.complete_cases hcomplete with ⟨rfl, hmarked, hstore⟩ | ⟨err, rfl, rfl, -⟩
  · by_cases hid : id' = id
    · subst hid
      rcases h with hnone | ⟨hone, -⟩
      · refine .inl ?_
        rw [Option.toList_some, List.map_singleton, winners_append, hnone]
        rfl
      · refine .inr ⟨?_, ?_⟩
        · rw [Option.toList_some, List.map_singleton, winners_append]
          simpa [Deed.wins] using hone
        · rw [Option.toList_some, List.map_singleton, isDone_append, hstore,
            Store.status?_markCompleted, if_pos ⟨hmarked, rfl⟩]
          simp [Deed.completes]
    · refine h.mind (fun deed hdeed => ?_) fun status _ hs => ?_
      · cases hdeed
        simp [Deed.wins, Deed.completes, hid]
      · rw [hstore, Store.status?_markCompleted, if_neg fun hand => hid hand.2, hs]
  · refine h.mind (fun deed hdeed => ?_) fun _ _ hs => hs
    cases hdeed
    exact ⟨rfl, rfl⟩

/-- **A step keeps store and deeds together.** -/
theorem Kept.effect {id : String} {trace : Trace} {c c' : Connection} (h : Kept id trace c.store)
    (hdone : isDone id trace = true → winners id trace ≠ []) {d : Option Deed}
    (heffect : Deed.Effect d c c') (i : Nat) :
    Kept id (trace ++ d.toList.map fun deed => (i, deed)) c'.store := by
  cases heffect with
  | ask hclaim => exact h.ask hdone hclaim i
  | complete hcomplete => exact h.complete hcomplete i
  | mind hd helse =>
    refine h.mind (fun deed hdeed => ?_) fun status hstatus hs => helse.status?_eq hstatus hs
    have hguard := hd deed hdeed
    cases deed with
    | asked | completed => cases hguard
    | _ => exact ⟨rfl, rfl⟩

namespace Reaches

variable {σ : Type} {view : σ → Connection} {s₀ : σ} {trace : Trace} {sys : System σ}

/-- **A call that did anything but ask in vain got its campaign.** -/
theorem won_of_isSending (h : Reaches view s₀ trace sys) {i : Nat} {call : Call σ}
    (hcall : sys.calls[i]? = some call) {d : Deed} (hd : (i, d) ∈ trace)
    (hsending : d.isSending = true ∨ d.wins call.id = true) :
    ∃ campaign audience tenant, campaign.id = call.id ∧ audience.Indexed ∧
      call.engine.Won campaign audience tenant (doneBy i trace) := by
  have hmem := mem_doneBy.2 hd
  rcases h.since hcall with ⟨hnone, -⟩ | ⟨campaign, audience, tenant, hid, hindexed, hsince⟩
  · rw [hnone] at hmem
    cases hmem
  · rcases hsince.won_or_not with hwon | ⟨hnone, -⟩ | ⟨answer, hanswer, hasked, -⟩
    · exact ⟨campaign, audience, tenant, hid, hindexed, hwon⟩
    · rw [hnone] at hmem
      cases hmem
    · rw [hasked] at hmem
      obtain rfl := List.mem_singleton.1 hmem
      rcases hsending with hsending | hwins
      · cases hsending
      · injection Deed.wins_iff.1 hwins with _ heq
        exact absurd heq hanswer

/-- A campaign that a call completed was got by it. -/
theorem mem_winners_of_completed (h : Reaches view s₀ trace sys) {i : Nat} {id : String}
    {answer : Except CampaignError Unit} (hd : (i, .completed id answer) ∈ trace) :
    i ∈ winners id trace := by
  obtain ⟨call, hcall⟩ := h.exists_call hd
  obtain ⟨campaign, audience, tenant, hid, -, hwon⟩ := h.won_of_isSending hcall hd (.inl rfl)
  rcases hwon.cases_of_mem (mem_doneBy.2 hd) with heq | hguard | ⟨answer', heq⟩
  · cases heq
  · cases hguard
  · injection heq with hcampaign
    exact hwon.mem_winners hcampaign.symm

theorem winners_ne_nil_of_isDone (h : Reaches view s₀ trace sys) {id : String}
    (hdone : isDone id trace = true) : winners id trace ≠ [] := by
  obtain ⟨i, hmem⟩ := isDone_iff.1 hdone
  exact List.ne_nil_of_mem (h.mem_winners_of_completed hmem)

/-- **Store and deeds agree at any time.** -/
theorem kept (h : Reaches view s₀ trace sys) (id : String) :
    Kept id trace (view sys.state).store := by
  induction h with
  | init => exact .inl rfl
  | enter _ _ _ _ ih => exact ih
  | turn h hcall turn ih =>
    exact ih.effect h.winners_ne_nil_of_isDone
      ((h.path hcall).1.effect_step turn _ _) _
  | others h helse ih =>
    refine ih.imp_right fun ⟨hone, hsame⟩ => ⟨hone, helse.status?_eq ?_ hsame⟩
    split <;> rfl

/-- At most one call got a campaign. -/
theorem length_winners_le (h : Reaches view s₀ trace sys) (id : String) :
    (winners id trace).length ≤ 1 := by
  rcases h.kept id with hnone | ⟨hone, -⟩
  · rw [hnone]
    exact Nat.zero_le _
  · exact Nat.le_of_eq hone

theorem winners_eq (h : Reaches view s₀ trace sys) {id : String} {i : Nat}
    (hi : i ∈ winners id trace) : winners id trace = [i] := by
  obtain ⟨j, hj⟩ : ∃ j, winners id trace = [j] := by
    refine List.length_eq_one_iff.1 ?_
    have hle := h.length_winners_le id
    have hpos := List.length_pos_of_mem hi
    omega
  rw [hj] at hi ⊢
  rw [List.mem_singleton.1 hi]

/-- No call starts two workers for a contact or hands a message to a channel twice. -/
theorem nodup_handed (h : Reaches view s₀ trace sys) {i : Nat} {call : Call σ}
    (hcall : sys.calls[i]? = some call) :
    ((startedIn (doneBy i trace)).map (·.id)).Nodup ∧ (handedIn (doneBy i trace)).Nodup := by
  rcases h.since hcall with ⟨hnone, -⟩ | ⟨campaign, audience, tenant, -, hindexed, hsince⟩
  · rw [hnone]
    exact ⟨List.nodup_nil, List.nodup_nil⟩
  · rcases hsince.won_or_not with hwon | ⟨hnone, -⟩ | ⟨answer, -, hasked, -⟩
    · exact hwon.nodup_handed hindexed.nodup_ids
    · rw [hnone]
      exact ⟨List.nodup_nil, List.nodup_nil⟩
    · rw [hasked]
      exact ⟨List.nodup_nil, List.nodup_nil⟩

/-- A call that is over and did not get its campaign found that it is being sent or was sent, or
came too late, or could not read something. -/
theorem ending_of_not_won (h : Reaches view s₀ trace sys) {i : Nat} {call : Call σ}
    (hcall : sys.calls[i]? = some call) (hi : i ∉ winners call.id trace) {ending : Ending}
    (hover : call.stage = .ended ending) :
    (∃ status : Status, (status = .sending ∨ status = .completed) ∧
        ending = .answered (.ok (.ofSkipped call.id status))) ∨
      ending = .answered (.error (.alreadyInProgress call.id)) ∨
      (∃ err, ending = .answered (.error (.campaign err))) ∨
      ∃ err, ending = .answered (.error (.resolution err)) := by
  rcases h.since hcall with ⟨-, hearly⟩ | ⟨campaign, audience, tenant, hid, -, hsince⟩
  · rw [hover] at hearly
    cases ending with
    | crashed => exact hearly.elim
    | answered answer =>
      cases answer with
      | ok report =>
        obtain ⟨status, hstatus, rfl⟩ := hearly
        refine .inl ⟨status, ?_, rfl⟩
        cases status with
        | draft | scheduled => cases hstatus
        | sending => exact .inl rfl
        | completed => exact .inr rfl
      | error err =>
        cases err with
        | campaign err => exact .inr (.inr (.inl ⟨err, rfl⟩))
        | resolution err => exact .inr (.inr (.inr ⟨err, rfl⟩))
        | alreadyInProgress | finalize => cases hearly
  · rcases hsince.won_or_not with hwon | ⟨-, hclaiming⟩ | ⟨answer, -, -, hunclaimed⟩
    · exact absurd (hwon.mem_winners hid) hi
    · rw [hover] at hclaiming
      cases hclaiming
    · rw [hover] at hunclaimed
      cases hunclaimed
      cases answer with
      | error err => exact .inr (.inr (.inl ⟨err, rfl⟩))
      | ok won => exact .inr (.inl (by rw [← hid]; rfl))

/-- **A campaign is dispatched at most once.**  Whatever calls there are for a campaign and in
whatever order they and others have their turns, at most one of the calls gets the campaign.  All
messages that are handed over and all events that are recorded in calls for the campaign are those
of this one call, and so are all events of the campaign.  No contact is handed over twice by it: no
worker is started twice for a contact, and no channel gets the message to a contact twice.  Any
other call that is over did nothing of the kind, and it ended because the campaign was being sent or
had been sent, because another call had got the campaign, or because something could not be read. -/
theorem at_most_one_dispatch (h : Reaches view s₀ trace sys) (id : String) :
    (winners id trace).length ≤ 1 ∧
      (∀ i event answer, (i, .recorded event answer) ∈ trace → event.campaign = id →
        winners id trace = [i]) ∧
      ∀ i call, sys.calls[i]? = some call → call.id = id →
        (∀ d ∈ doneBy i trace, d.isSending = true → winners id trace = [i]) ∧
        ((startedIn (doneBy i trace)).map (·.id)).Nodup ∧ (handedIn (doneBy i trace)).Nodup ∧
        (i ∉ winners id trace →
          (∀ d ∈ doneBy i trace, d.isSending = false) ∧
          ∀ ending, call.stage = .ended ending →
            (∃ status : Status, (status = .sending ∨ status = .completed) ∧
                ending = .answered (.ok (.ofSkipped id status))) ∨
              ending = .answered (.error (.alreadyInProgress id)) ∨
              (∃ err, ending = .answered (.error (.campaign err))) ∨
              ∃ err, ending = .answered (.error (.resolution err))) := by
  have hsole : ∀ i call, sys.calls[i]? = some call → call.id = id →
      ∀ d ∈ doneBy i trace, d.isSending = true → winners id trace = [i] := by
    rintro i call hcall rfl d hd hsending
    obtain ⟨campaign, audience, tenant, hid, -, hwon⟩ :=
      h.won_of_isSending hcall (mem_doneBy.1 hd) (.inl hsending)
    exact h.winners_eq (hwon.mem_winners hid)
  refine ⟨h.length_winners_le id, ?_, ?_⟩
  · rintro i event answer hd rfl
    obtain ⟨call, hcall⟩ := h.exists_call hd
    obtain ⟨campaign, audience, tenant, hid, -, hwon⟩ := h.won_of_isSending hcall hd (.inl rfl)
    refine hsole i call hcall ?_ _ (mem_doneBy.2 hd) rfl
    rw [hwon.campaign_of_recorded (mem_doneBy.2 hd), hid]
  · rintro i call hcall rfl
    obtain ⟨hstarted, hhanded⟩ := h.nodup_handed hcall
    refine ⟨hsole i call hcall rfl, hstarted, hhanded, fun hi => ⟨fun d hd => ?_, ?_⟩⟩
    · cases hsending : d.isSending with
      | false => rfl
      | true =>
        rw [hsole i call hcall rfl d hd hsending] at hi
        exact absurd (List.mem_singleton_self i) hi
    · intro ending hover
      exact h.ending_of_not_won hcall hi hover

/-- Two calls are about to ask for one campaign.  The second is faster, the first does nothing. -/
theorem at_most_one_dispatch_of_two :
    ∃ trace sys, Reaches id Sample.connection trace sys ∧
      sys.calls.map (·.id) = ["c", "c"] ∧ winners "c" trace = [1] ∧
      (sys.calls[0]?.map (·.stage)) =
        some (.ended (.answered (.error (.alreadyInProgress "c")))) ∧
      (handedIn (doneBy 1 trace)).Nodup ∧ ∀ d ∈ doneBy 0 trace, d.isSending = false := by
  have h := (Sample.reaches_calls 1 1).play
    [(0, .dispatcher), (1, .dispatcher), (0, .dispatcher), (1, .dispatcher), (1, .dispatcher),
      (0, .dispatcher), (1, .dispatcher), (1, .dispatcher), (1, .worker 0), (1, .worker 0),
      (1, .dispatcher), (1, .dispatcher), (1, .dispatcher)]
  obtain ⟨-, -, hcalls⟩ := h.at_most_one_dispatch "c"
  have hfirst := hcalls 0 _ rfl rfl
  have hsecond := hcalls 1 _ rfl rfl
  exact ⟨_, _, h, rfl, rfl, rfl, hsecond.2.2.1, (hfirst.2.2.2 (by decide)).1⟩

end Reaches

end Dispatch
end Mailshot
