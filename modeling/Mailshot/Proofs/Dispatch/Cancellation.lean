import Mathlib.Data.List.Dedup
import Mailshot.Proofs.Dispatch.Calm
import Mailshot.Proofs.Dispatch.Chronicle
import Mailshot.Proofs.Dispatch.Due
import Mailshot.Proofs.Dispatch.Report

/-!
# A dispatch that is asked to stop

A dispatch looks whether it should stop before it starts a worker, and not again.  When a request
succeeds, some workers may be at work, no more than there is room for.  They go on, but no other
worker is started from then on, if the dispatch can read what it is to be told: `Confined` is the
invariant, and the contacts whose first message comes after the request (`latecomers`) are among
those that had a worker at that moment (`Chronicle.length_latecomers_le`).

A dispatch says that it was asked to stop only if it was told so (`Engine.told?_of_isStopped`), and
it is told so only if a request succeeded after it got its campaign (`Chronicle.requested`).
-/

set_option autoImplicit false

namespace Mailshot
namespace Dispatch

/-! ## What a dispatch is told -/

/-- Whether it can be seen of a dispatch that it was asked to stop. -/
def Stage.isStopped : Stage → Bool
  | .sending r => r.stopped
  | .completing report => report.cancelled
  | .ended ending => ending.report?.any (·.cancelled)
  | _ => false

theorem Run.cancelled_report (r : Run) : r.report.cancelled = r.stopped := by
  rw [Report.cancelled, r.outcome_report]
  cases r.stopped <;> rfl

namespace Engine

variable {σ : Type} {e : Engine σ} {turn : Turn} {stage : Stage} {s : σ}

theorem stopRequested_iff {answer : Except CampaignError Bool} :
    stopRequested answer = true ↔ answer = .ok true := by
  cases answer <;> simp [stopRequested]

/-- A dispatch asks about the campaign that it sends. -/
theorem of_told? {answer : Except CampaignError Bool} (h : e.told? turn stage s = some answer) :
    ∃ r, stage = .sending r ∧ answer = (e.campaigns.cancelRequested r.job.campaign.id s).1 := by
  cases stage with
  | sending r =>
    cases turn with
    | worker i => cases h
    | dispatcher =>
      obtain ⟨chosen, -, rfl⟩ := Option.map_eq_some_iff.1 h
      exact ⟨r, rfl, rfl⟩
  | _ => cases turn <;> cases h

/-- It starts a worker only if it is not told to stop. -/
theorem told?_of_started {contact : Contact} (h : e.deed turn stage s = some (.started contact)) :
    ∃ answer, e.told? turn stage s = some answer ∧ answer ≠ .ok true := by
  cases stage with
  | sending r =>
    cases turn with
    | worker i =>
      rw [deed] at h
      split at h
      · obtain ⟨channel, -, heq⟩ := Option.map_eq_some_iff.1 h
        cases heq
      · cases h
      · cases h
    | dispatcher =>
      rw [deed] at h
      split at h
      · next hnext =>
        split at h
        · cases h
        · next hgo => exact ⟨_, by rw [told?, hnext]; rfl, fun heq => hgo (stopRequested_iff.2 heq)⟩
      · cases h
  | _ => cases turn <;> cases h

/-- **It is stopped only by being told so.** -/
theorem told?_of_isStopped (h : (e.step turn stage s).1.isStopped = true) :
    stage.isStopped = true ∨ e.told? turn stage s = some (.ok true) := by
  have hgoes := e.goes_step turn stage s
  generalize hstep : (e.step turn stage s).1 = next at h hgoes
  generalize e.deed turn stage s = d at hgoes
  cases hgoes with
  | rest => exact .inl h
  | @fail stage err hstage herr => cases err <;> first | cases h | cases herr
  | @work r r' d hwork =>
    cases hwork with
    | @stop contact address hnext =>
      cases turn with
      | worker i =>
        obtain ⟨r', hr', hsame⟩ := stopped_workerStep (e := e) r i s
        cases hr'.symm.trans hstep
        exact .inl (hsame.symm.trans h)
      | dispatcher =>
        cases hgo : stopRequested (e.campaigns.cancelRequested r.job.campaign.id s).1 with
        | false => exact .inl ((stopped_dispatcherStep hgo hstep).symm.trans h)
        | true =>
          rw [told?, hnext]
          exact .inr (congrArg some (stopRequested_iff.1 hgo))
    | _ => exact .inl h
  | @drain r => exact .inl (r.cancelled_report.symm.trans h)
  | finish | strand =>
    exact .inl (by simpa [Stage.isStopped, Ending.report?, Stage.failure] using h)
  | _ => cases h

end Engine

/-! ## No other worker is started -/

/-- What a step does that starts no worker is done by a worker that is at work, and whoever is at
work after it was at work before. -/
theorem Run.Goes.among_workers {limit : Nat} {r r' : Run} {d : Option Deed}
    (h : r.Goes limit d r') (hd : ∀ contact, d ≠ some (.started contact)) :
    (∀ w ∈ r'.workers, w.contactId ∈ r.workers.map (·.contactId)) ∧
      ∀ p ∈ handedIn d.toList, p.1 ∈ r.workers.map (·.contactId) := by
  have hat : ∀ {i : Nat} {w : Worker}, r.workers[i]? = some w →
      w.contactId ∈ r.workers.map (·.contactId) := fun hw =>
    List.mem_map_of_mem (List.mem_of_getElem? hw)
  have hset : ∀ {i : Nat} {w w' : Worker}, r.workers[i]? = some w → w'.contactId = w.contactId →
      ∀ v ∈ r.workers.set i w', v.contactId ∈ r.workers.map (·.contactId) := by
    intro i w w' hw hid v hv
    rcases List.mem_or_eq_of_mem_set hv with hv | rfl
    · exact List.mem_map_of_mem hv
    · exact hid ▸ hat hw
  have herase : ∀ i, ∀ v ∈ r.workers.eraseIdx i, v.contactId ∈ r.workers.map (·.contactId) :=
    fun i v hv => List.mem_map_of_mem (List.mem_of_mem_eraseIdx hv)
  cases h with
  | start => exact absurd rfl (hd _)
  | pass | ready | stop => exact ⟨fun w hw => List.mem_map_of_mem hw, fun p hp => by cases hp⟩
  | retry hworker | accept _ _ hworker | refuse _ _ _ hworker =>
    refine ⟨hset hworker rfl, fun p hp => ?_⟩
    obtain rfl := List.mem_singleton.1 hp
    exact hat hworker
  | lack _ _ hworker => exact ⟨hset hworker rfl, fun p hp => by cases hp⟩
  | lose hworker =>
    refine ⟨herase _, fun p hp => ?_⟩
    obtain rfl := List.mem_singleton.1 hp
    exact hat hworker
  | record => exact ⟨herase _, fun p hp => by cases hp⟩

/-- If a dispatch is sending, its workers are for contacts with these identifiers. -/
def Confined (ids : List String) : Stage → Prop
  | .sending r => ∀ w ∈ r.workers, w.contactId ∈ ids
  | _ => True

/-- **A step that neither starts a worker nor gets a campaign** leaves a dispatch confined. -/
theorem Confined.goes {σ : Type} {e : Engine σ} {a b : Stage} {d : Option Deed}
    {ids : List String} (h : Confined ids a) (hgoes : e.Goes a d b)
    (hstart : ∀ contact, d ≠ some (.started contact)) (hwin : ∀ q, d ≠ some (.asked q (.ok true))) :
    Confined ids b ∧ ∀ p ∈ handedIn d.toList, p.1 ∈ ids := by
  cases hgoes with
  | @work r r' d hwork =>
    obtain ⟨hworkers, hhanded⟩ := hwork.among_workers hstart
    have hids : ∀ q ∈ r.workers.map (·.contactId), q ∈ ids := by
      intro q hq
      obtain ⟨w, hw, rfl⟩ := List.mem_map.1 hq
      exact h w hw
    exact ⟨fun w hw => hids _ (hworkers w hw), fun p hp => hids _ (hhanded p hp)⟩
  | win => exact absurd rfl (hwin _)
  | rest => exact ⟨h, fun p hp => by cases hp⟩
  | _ => exact ⟨trivial, fun p hp => by cases hp⟩

/-! ## Calls and their campaigns -/

section Calls

variable {σ : Type} {view : σ → Connection} {s₀ : σ} {trace : Trace} {sys : System σ} {i : Nat}
  {call : Call σ}

/-- A call sends its own campaign. -/
theorem Reaches.campaign_of_sending (h : Reaches view s₀ trace sys)
    (hcall : sys.calls[i]? = some call) {r : Run} (hstage : call.stage = .sending r) :
    r.job.campaign.id = call.id := by
  rcases h.since hcall with ⟨-, hearly⟩ | ⟨campaign, audience, tenant, hid, -, hsince⟩
  · rw [hstage] at hearly
    exact hearly.elim
  · rw [hstage] at hsince
    generalize doneBy i trace = ds at hsince
    cases hsince with
    | sending _ htrail => rw [htrail.campaign_eq, hid]

/-- A call asks for its own campaign. -/
theorem Reaches.campaign_of_asked (h : Reaches view s₀ trace sys)
    (hcall : sys.calls[i]? = some call) {q : String} (hd : (i, .asked q (.ok true)) ∈ trace) :
    q = call.id := by
  have hmem := mem_doneBy.2 hd
  rcases h.since hcall with ⟨hnone, -⟩ | ⟨campaign, audience, tenant, hid, -, hsince⟩
  · rw [hnone] at hmem
    cases hmem
  · rcases hsince.won_or_not with hwon | ⟨hnone, -⟩ | ⟨answer, hanswer, hasked, -⟩
    · rcases hwon.cases_of_mem hmem with heq | hguard | ⟨answer, heq⟩
      · cases heq
        exact hid
      · cases hguard
      · cases heq
    · rw [hnone] at hmem
      cases hmem
    · rw [hasked, List.mem_singleton] at hmem
      cases hmem
      exact absurd rfl hanswer

/-- A call that is sending, or about to complete its campaign, or over with a report on that, got
its campaign. -/
theorem Reaches.asked_of_isStopped (h : Reaches view s₀ trace sys)
    (hcall : sys.calls[i]? = some call) (hstopped : call.stage.isStopped = true) :
    (i, .asked call.id (.ok true)) ∈ trace := by
  rcases h.since hcall with ⟨-, hearly⟩ | ⟨campaign, audience, tenant, hid, -, hsince⟩
  · generalize call.stage = stage at hearly hstopped
    cases stage with
    | sending | completing => exact hearly.elim
    | ended ending =>
      cases ending with
      | crashed => cases hstopped
      | answered answer =>
        cases answer with
        | ok report =>
          obtain ⟨status, -, rfl⟩ := hearly
          cases hstopped
        | error err => cases err <;> first | cases hstopped | cases hearly
    | _ => cases hstopped
  · rw [← hid, ← mem_doneBy]
    rcases hsince.won_or_not with hwon | ⟨-, hstage⟩ | ⟨answer, -, -, hstage⟩
    · exact hwon.mem_asked
    · rw [hstage] at hstopped
      cases hstopped
    · rw [hstage] at hstopped
      cases answer <;> cases hstopped

/-- What a call is told is what the store says of its campaign. -/
theorem Reaches.flag?_of_told (h : Reaches view s₀ trace sys) (hcall : sys.calls[i]? = some call)
    {turn : Engine.Turn} {flag : Bool}
    (htold : call.engine.told? turn call.stage sys.state = some (.ok flag)) :
    (view sys.state).store.flag? call.id = some flag := by
  obtain ⟨r, hstage, hanswer⟩ := Engine.of_told? htold
  have hread := congrArg Prod.fst ((h.path hcall).1.cancelRequested r.job.campaign.id sys.state)
  rw [← hanswer, h.campaign_of_sending hcall hstage] at hread
  exact Store.cancelRequested_eq_ok_iff.1 (of_read_fst hread).2

/-- The workers of a call are for no more contacts than there is room for. -/
theorem Reaches.exists_confined (h : Reaches view s₀ trace sys)
    (hcall : sys.calls[i]? = some call) :
    ∃ ids : List String, ids.length ≤ call.engine.limit ∧ Confined ids call.stage := by
  obtain ⟨-, hpath⟩ := h.path hcall
  cases hstage : call.stage with
  | sending r =>
    rw [hstage] at hpath
    refine ⟨r.workers.map (·.contactId), ?_, fun w hw => List.mem_map_of_mem hw⟩
    rw [List.length_map]
    exact Nat.le_of_add_right_le hpath.room
  | _ => exact ⟨[], Nat.zero_le _, trivial⟩

/-- **A call whose campaign is to stop stays confined**, if it can read what it is to be told. -/
theorem Reaches.confined_turn (h : Reaches view s₀ trace sys) (hcall : sys.calls[i]? = some call)
    (hflag : (view sys.state).store.flag? call.id = some true)
    (hclaim : ∀ now, ((view sys.state).store.claim call.id now).1 = false) (turn : Engine.Turn)
    (htold : ∀ err, call.engine.told? turn call.stage sys.state ≠ some (.error err))
    {ids : List String} (hids : Confined ids call.stage) :
    Confined ids (call.engine.step turn call.stage sys.state).1 ∧
      ∀ p ∈ handedIn (call.engine.deed turn call.stage sys.state).toList, p.1 ∈ ids := by
  refine hids.goes (call.engine.goes_step turn call.stage sys.state) (fun contact hd => ?_)
    fun q hd => ?_
  · obtain ⟨answer, hanswer, hgo⟩ := Engine.told?_of_started hd
    cases answer with
    | error err => exact htold err hanswer
    | ok flag =>
      have hsame := h.flag?_of_told hcall hanswer
      rw [hflag] at hsame
      exact hgo (congrArg Except.ok (Option.some.inj hsame).symm)
  · -- the campaign is not claimed any more
    have heffect := (h.path hcall).1.effect_step turn call.stage sys.state
    have hcall' : (sys.calls.set i { call with
        stage := (call.engine.step turn call.stage sys.state).1 })[i]? = some { call with
          stage := (call.engine.step turn call.stage sys.state).1 } :=
      List.getElem?_set_self (List.getElem?_eq_some_iff.1 hcall).1
    have hnext := h.turn hcall turn
    rw [hd] at heffect hnext
    obtain rfl := hnext.campaign_of_asked hcall' (List.mem_append_right _ List.mem_cons_self)
    cases heffect with
    | ask hask =>
      rcases Connection.claim_cases hask with ⟨-, hwon, -⟩ | ⟨hlost, -⟩
      · exact Bool.false_ne_true ((hclaim _).symm.trans hwon)
      · exact hlost rfl
    | mind hguard => cases hguard _ rfl

end Calls

/-! ## After a request -/

/-- The contacts whose message is handed over for the first time in the later of some events. -/
def latecomers (i : Nat) (before later : List Event) : List String :=
  (((handedIn (doneBy i (traceOf later))).map (·.1)).filter
    (· ∉ (handedIn (doneBy i (traceOf before))).map (·.1))).dedup

namespace Chronicle

variable {σ : Type} {view : σ → Connection} {s₀ : σ} {events : List Event} {sys : System σ}
  {i : Nat} {call : Call σ}

/-- A campaign for which a request succeeded is to stop, and is not claimed any more. -/
theorem after_request (h : Chronicle view s₀ events sys) {before later : List Event}
    {id now : String} (hcut : events = before ++ .statement (.markCancelled id now) :: later)
    (hdone : (((view s₀).store.after (statementsIn before)).markCancelled id now).1 = true) :
    (view sys.state).store.flag? id = some true ∧
      ∀ time, ((view sys.state).store.claim id time).1 = false := by
  have hstore : (view sys.state).store =
      ((view s₀).store.after (statementsIn before)).after
        (.markCancelled id now :: statementsIn later) := by
    rw [h.store_eq, hcut, statementsIn_append, Store.after_append]
    rfl
  rw [hstore]
  exact Store.claim_after_request hdone _

/-- When no message has come after a request yet, a call is confined to the contacts that it has
workers for. -/
theorem exists_confined (h : Chronicle view s₀ events sys) (hcall : sys.calls[i]? = some call)
    (sts : List Store.Statement) :
    ∃ ids : List String, ids.length ≤ call.engine.limit ∧ Confined ids call.stage ∧
      ∀ p ∈ handedIn (doneBy i (traceOf (sts.map .statement))), p.1 ∈ ids := by
  obtain ⟨ids, hlength, hids⟩ := h.reaches.exists_confined hcall
  refine ⟨ids, hlength, hids, fun p hp => ?_⟩
  rw [traceOf_map_statement] at hp
  cases hp

/-- A turn of its own after a request leaves a call confined. -/
theorem confined_turn (h : Chronicle view s₀ events sys) {before later : List Event}
    {now : String} (hcall : sys.calls[i]? = some call)
    (hcut : events = before ++ .statement (.markCancelled call.id now) :: later)
    (hdone : (((view s₀).store.after (statementsIn before)).markCancelled call.id now).1 = true)
    (turn : Engine.Turn)
    (htold : ∀ err, .told i (.error err) ∉ call.engine.shown i turn call.stage sys.state)
    {ids : List String} (hids : Confined ids call.stage)
    (hhanded : ∀ p ∈ handedIn (doneBy i (traceOf later)), p.1 ∈ ids) :
    Confined ids (call.engine.step turn call.stage sys.state).1 ∧
      ∀ p ∈ handedIn (doneBy i (traceOf later)) ++
        handedIn (call.engine.deed turn call.stage sys.state).toList, p.1 ∈ ids := by
  obtain ⟨hflag, hclaim⟩ := h.after_request hcut hdone
  obtain ⟨hnext, hnow⟩ := h.reaches.confined_turn hcall hflag hclaim turn
    (fun err heq => htold err (Engine.mem_shown_of_told heq)) hids
  refine ⟨hnext, fun p hp => ?_⟩
  rcases List.mem_append.1 hp with hp | hp
  · exact hhanded p hp
  · exact hnow p hp

/-- **After a request that succeeded a call is confined** to those contacts that it had workers for,
if it can read what it is to be told. -/
theorem confined (h : Chronicle view s₀ events sys) {before later : List Event}
    {now : String} (hcall : sys.calls[i]? = some call)
    (hcut : events = before ++ .statement (.markCancelled call.id now) :: later)
    (hdone : (((view s₀).store.after (statementsIn before)).markCancelled call.id now).1 = true)
    (htold : ∀ err, .told i (.error err) ∉ later) :
    ∃ ids : List String, ids.length ≤ call.engine.limit ∧ Confined ids call.stage ∧
      ∀ p ∈ handedIn (doneBy i (traceOf later)), p.1 ∈ ids := by
  -- what has happened grows at its end, and the request is in the old part or in the new one
  induction h generalizing call later with
  | init => cases List.append_eq_nil_iff.1 hcut.symm |>.2
  | @enter events sys h engine hlawful id recipients ih =>
    rcases getElem?_concat_cases hcall with hcall | ⟨hge, rfl⟩
    · exact ih hcall hcut hdone htold
    · refine ⟨[], Nat.zero_le _, trivial, fun p hp => ?_⟩
      obtain ⟨d, hd, -⟩ := List.mem_filterMap.1 hp
      refine absurd (h.reaches.lt_of_mem (p := (i, d)) ?_) hge
      rw [hcut, traceOf_append]
      exact List.mem_append_right _ (mem_doneBy.1 hd)
  | @turn events sys h j other hother turn sts hsts ih =>
    rcases cut_statement (Engine.statementsIn_shown ..) hcut with
      ⟨later', hevents, rfl⟩ | ⟨sts', rfl⟩
    · have hbefore : ∀ err, .told i (.error err) ∉ later' := fun err hmem =>
        htold err (List.mem_append_left _ hmem)
      rw [traceOf_append, doneBy_append, Engine.doneBy_step, handedIn_append]
      rcases getElem?_set_cases hcall with ⟨rfl, rfl⟩ | ⟨hji, hcall⟩
      · obtain ⟨ids, hlength, hids, hhanded⟩ := ih hother hevents hdone hbefore
        rw [if_pos rfl]
        exact ⟨ids, hlength, h.confined_turn hother hevents hdone turn
          (fun err hmem => htold err (List.mem_append_right _ (List.mem_append_left _ hmem)))
          hids hhanded⟩
      · rw [if_neg hji, handedIn_nil, List.append_nil]
        exact ih hcall hevents hdone hbefore
    · exact (h.turn hother turn hsts).exists_confined hcall sts'
  | @others events sys h s sts helse hsts ih =>
    have hnone : statementsIn [] = [] := rfl
    rcases cut_statement hnone hcut with ⟨later', hevents, rfl⟩ | ⟨sts', rfl⟩
    · rw [traceOf_append, List.nil_append, traceOf_map_statement, List.append_nil]
      exact ih hcall hevents hdone fun err hmem => htold err (List.mem_append_left _ hmem)
    · exact (h.others helse hsts).exists_confined hcall sts'

/-- **After a request that succeeded, messages begin for no more contacts than there is room
for.** -/
theorem length_latecomers_le (h : Chronicle view s₀ events sys) {before later : List Event}
    {now : String} (hcall : sys.calls[i]? = some call)
    (hcut : events = before ++ .statement (.markCancelled call.id now) :: later)
    (hdone : (((view s₀).store.after (statementsIn before)).markCancelled call.id now).1 = true)
    (htold : ∀ err, .told i (.error err) ∉ later) :
    (latecomers i before later).length ≤ call.engine.limit := by
  obtain ⟨ids, hlength, -, hhanded⟩ := h.confined hcall hcut hdone htold
  refine Nat.le_trans (List.subperm_of_subset (List.nodup_dedup _) fun q hq => ?_).length_le hlength
  obtain ⟨p, hp, rfl⟩ := List.mem_map.1 (List.mem_filter.1 (List.mem_dedup.1 hq)).1
  exact hhanded p hp

/-! ## Who is told to stop -/

/-- The campaign of a call that is stopped is to stop. -/
theorem flag?_of_isStopped (h : Chronicle view s₀ events sys) (hcall : sys.calls[i]? = some call)
    (hstopped : call.stage.isStopped = true) :
    (view sys.state).store.flag? call.id = some true := by
  induction h generalizing call with
  | init => cases hcall
  | @enter events sys h engine hlawful id recipients ih =>
    rcases getElem?_concat_cases hcall with hcall | ⟨-, rfl⟩
    · exact ih hcall hstopped
    · cases hstopped
  | @turn events sys h j other hother turn sts hsts ih =>
    rw [hsts]
    refine Store.flag?_after_of_true ?_ sts
    rcases getElem?_set_cases hcall with ⟨rfl, rfl⟩ | ⟨-, hcall⟩
    · rcases Engine.told?_of_isStopped hstopped with hbefore | htold
      · exact (ih hother hbefore :)
      · exact h.reaches.flag?_of_told hother htold
    · exact ih hcall hstopped
  | others h helse hsts ih =>
    rw [hsts]
    exact Store.flag?_after_of_true (ih hcall hstopped) _

end Chronicle

/-- After a call got a campaign, a request to stop it succeeded. -/
def Requested (s : Store) (i : Nat) (id : String) (events : List Event) : Prop :=
  ∃ before between now later, events = before ++ .did i (.asked id (.ok true)) ::
      (between ++ .statement (.markCancelled id now) :: later) ∧
    ((s.after (statementsIn (before ++ between))).markCancelled id now).1 = true

namespace Chronicle

variable {σ : Type} {view : σ → Connection} {s₀ : σ} {events : List Event} {sys : System σ}
  {i : Nat} {call : Call σ}

/-- **A call is stopped only if a request succeeded after it got its campaign.** -/
theorem requested (h : Chronicle view s₀ events sys) (hs : (view s₀).store.Sound)
    (hcall : sys.calls[i]? = some call) (hstopped : call.stage.isStopped = true) :
    Requested (view s₀).store i call.id events := by
  obtain ⟨before, rest, rfl⟩ := List.append_of_mem
    (mem_traceOf.1 (h.reaches.asked_of_isStopped hcall hstopped))
  have hflag := h.flag?_of_isStopped hcall hstopped
  have hclaim := h.claim_of_asked rfl ""
  have hrest : statementsIn (.did i (.asked call.id (.ok true)) :: rest) = statementsIn rest := rfl
  rw [h.store_eq, statementsIn_append, hrest, Store.after_append] at hflag
  -- when it was claimed the campaign was not to stop
  obtain ⟨earlier, now, later, hsplit, hdone⟩ :=
    Store.exists_request ((hs.after _).flag?_of_claim hclaim) hflag
  obtain ⟨between, after, rfl, rfl⟩ := exists_cut hsplit
  refine ⟨before, between, now, after, rfl, ?_⟩
  rw [statementsIn_append, Store.after_append]
  exact hdone

end Chronicle

/-- **A call that is over has counted every worker that it started**, whether or not it was stopped:
each has recorded an event or was lost. -/
theorem Reaches.accounted {σ : Type} {view : σ → Connection} {s₀ : σ} {trace : Trace}
    {sys : System σ} {i : Nat} {call : Call σ} (h : Reaches view s₀ trace sys)
    (hcall : sys.calls[i]? = some call) (hwon : (i, .asked call.id (.ok true)) ∈ trace)
    {ending : Ending} (hover : call.stage = .ended ending) {report : Report}
    (hreport : ending.report? = some report) :
    report.sent + report.failed = (startedIn (doneBy i trace)).length ∧
      ((recordedIn (doneBy i trace)).map (·.contact) ++
        (lostIn (doneBy i trace)).map (·.id)).Perm ((startedIn (doneBy i trace)).map (·.id)) := by
  have hasked := mem_doneBy.2 hwon
  rcases h.since hcall with ⟨hnone, -⟩ | ⟨campaign, audience, tenant, -, -, hsince⟩
  · rw [hnone] at hasked
    cases hasked
  · rw [hover] at hsince
    generalize doneBy i trace = ds at *
    cases hsince with
    | unclaimed hanswer =>
      injection List.mem_singleton.1 hasked with _ heq
      exact absurd heq.symm hanswer
    | crashed => cases hreport
    | @closed ds r _ htrail hdrained answer =>
      obtain ⟨_, _, -, -, -, hsettled, hperm, -⟩ := htrail.drained hdrained
      rw [Ending.report?_closing] at hreport
      cases hreport
      refine ⟨?_, by simpa using hperm⟩
      rw [Run.report, ← Nat.add_assoc, hsettled]
      simp

namespace Chronicle

variable {σ : Type} {view : σ → Connection} {s₀ : σ} {events : List Event} {sys : System σ}
  {i : Nat} {call : Call σ}

/-- **A request to stop takes effect within bounds, and only if there was one.**  Let calls and
others have their turns in any order, and take any call.

* Once a request for its campaign has succeeded, messages begin for no more contacts than the call
  has room for, if from then on the call can read whether to stop.
* Let the call be over that got its campaign.  In its report every worker that it started is
  counted, and each of them recorded an event or was lost.  The report says that the call was asked
  to stop only if a request succeeded after the call got its campaign.
* If no more workers were to be allowed than there can be, and the store was within reach at the
  end, the call has a report, and its campaign is completed whether or not the call was asked to
  stop. -/
theorem cancellation_bounded (h : Chronicle view s₀ events sys) (hs : (view s₀).store.Sound)
    (hcall : sys.calls[i]? = some call) :
    (∀ before now later, events = before ++ .statement (.markCancelled call.id now) :: later →
      (((view s₀).store.after (statementsIn before)).markCancelled call.id now).1 = true →
      (∀ err, .told i (.error err) ∉ later) →
        (latecomers i before later).length ≤ call.engine.limit) ∧
    (.did i (.asked call.id (.ok true)) ∈ events → ∀ ending, call.stage = .ended ending →
      (∀ report, ending.report? = some report →
        report.sent + report.failed = (startedIn (doneBy i (traceOf events))).length ∧
        ((recordedIn (doneBy i (traceOf events))).map (·.contact) ++
          (lostIn (doneBy i (traceOf events))).map (·.id)).Perm
            ((startedIn (doneBy i (traceOf events))).map (·.id)) ∧
        (report.outcome = .cancelled → Requested (view s₀).store i call.id events)) ∧
      (call.engine.limit ≤ maxWorkers →
        (∀ fault, .did i (.completed call.id (.error (.store fault))) ∉ events) →
          (∃ report, ending = .answered (.ok report)) ∧
          (view sys.state).store.status? call.id = some Status.completed.name)) := by
  refine ⟨fun before now later hcut hdone htold => h.length_latecomers_le hcall hcut hdone htold,
    fun hasked ending hover => ⟨fun report hreport => ?_, fun hlimit hreached => ?_⟩⟩
  · obtain ⟨hcounted, hperm⟩ := h.reaches.accounted hcall (mem_traceOf.2 hasked) hover hreport
    refine ⟨hcounted, hperm, fun hcancelled => h.requested hs hcall ?_⟩
    rw [hover, Stage.isStopped, hreport]
    exact decide_eq_true hcancelled
  · have hwon := mem_traceOf.2 hasked
    have hstatus := h.reaches.status?_eq (mem_winners.2 hwon)
    rcases h.reaches.over_cases hcall hwon hover
      (fun fault hmem => hreached fault (mem_traceOf.1 hmem)) with ⟨hlt, -⟩ | ⟨-, hending, hdone⟩
    · exact absurd hlimit (Nat.not_le.2 hlt)
    · rw [hdone] at hstatus
      exact ⟨hending, hstatus⟩

end Chronicle

namespace Sample

/-- Two contacts that can be written to. -/
def pair : List Contact :=
  [{ Contact.ofIdentity "a" "t" with email := some "a@shop.test" },
    { Contact.ofIdentity "b" "t" with email := some "b@shop.test" }]

theorem lawful_broken : (engine broken 1).Lawful id := by
  refine Engine.lawful_ofStore _ _ _ _ _ (fun channel hchannel email => ?_) (minds_pure _)
  cases List.mem_singleton.1 hchannel
  exact minds_pure _

/-- A call for these contacts, whose channel breaks down over every message. -/
def entered : System Connection :=
  ⟨connection, [⟨engine broken 1, "c", .list pair, .loading "c" (.list pair)⟩]⟩

/-- The turns until the first contact has a worker. -/
def toFirst : List (Nat × Engine.Turn) := List.replicate 5 (0, .dispatcher)

/-- Then somebody asks for a stop. -/
def interrupted : System Connection :=
  let sys := (entered.play toFirst).2
  { sys with state := .ofStore (sys.state.store.after [.markCancelled "c" now]) }

/-- The turns until the call is over. -/
def toEnd : List (Nat × Engine.Turn) := (0, .worker 0) :: List.replicate 4 (0, .dispatcher)

end Sample

namespace Chronicle

/-- A request comes when the first of two contacts has a worker.  The worker goes on, though it is
lost with its channel, the other contact gets no message, and the campaign is completed. -/
theorem cancelled_between_two :
    ∃ before later call report, Chronicle id Sample.connection
        (before ++ .statement (.markCancelled "c" Sample.now) :: later)
        (Sample.interrupted.play Sample.toEnd).2 ∧
      (Sample.interrupted.play Sample.toEnd).2.calls[0]? = some call ∧
      call.stage = .ended (.answered (.ok report)) ∧ report.outcome = .cancelled ∧
      latecomers 0 before later = ["a"] ∧ (latecomers 0 before later).length ≤ call.engine.limit ∧
      report.sent + report.failed = 1 ∧
      Requested Sample.connection.store 0 "c"
        (before ++ .statement (.markCancelled "c" Sample.now) :: later) ∧
      (Sample.interrupted.play Sample.toEnd).2.state.store.status? "c" =
        some Status.completed.name := by
  have hsound : Sample.connection.store.Sound := (Sample.lives_making 1).sound
  have hentered : Chronicle id Sample.connection [] Sample.entered :=
    Chronicle.init.enter Sample.lawful_broken "c" (.list Sample.pair)
  obtain ⟨before, hfirst, htrace, -⟩ := hentered.play Sample.toFirst
  rw [List.nil_append] at hfirst
  have hdone : ((Sample.connection.store.after (statementsIn before)).markCancelled "c"
      Sample.now).1 = true := by
    have hstore : (Sample.entered.play Sample.toFirst).2.state.store =
      Sample.connection.store.after (statementsIn before) := hfirst.store_eq
    rw [← hstore]
    rfl
  have helse : ∀ st ∈ [Store.Statement.markCancelled "c" Sample.now], st.isElsewhere = true := by
    decide
  have hinterrupted : Chronicle id Sample.connection
      (before ++ [.statement (.markCancelled "c" Sample.now)]) Sample.interrupted :=
    hfirst.others helse rfl
  obtain ⟨later, hend, htrace', htold⟩ := hinterrupted.play Sample.toEnd
  rw [List.append_assoc, List.singleton_append] at hend
  have hreads : ∀ err, .told 0 (.error err) ∉ later := by
    intro err hmem
    have hmem' : (0, .error err) ∈ toldIn later := List.mem_filterMap.2 ⟨_, hmem, rfl⟩
    rw [htold] at hmem'
    cases List.mem_singleton.1 hmem'
  have hlate : latecomers 0 before later = ["a"] := by
    rw [latecomers, htrace, htrace']
    rfl
  have hcall : (Sample.interrupted.play Sample.toEnd).2.calls[0]? =
      some ⟨Sample.engine Sample.broken 1, "c", .list Sample.pair,
        .ended (.answered (.ok ⟨"c", .cancelled, 2, 0, 1, 0⟩))⟩ := rfl
  have htraces : traceOf (before ++ .statement (.markCancelled "c" Sample.now) :: later) =
      (Sample.entered.play Sample.toFirst).1 ++ (Sample.interrupted.play Sample.toEnd).1 := by
    rw [traceOf_append, ← htrace, ← htrace']
    rfl
  have hasked : .did 0 (.asked "c" (.ok true)) ∈
      before ++ .statement (.markCancelled "c" Sample.now) :: later := by
    rw [← mem_traceOf, htraces]
    exact List.mem_append_left _ List.mem_cons_self
  have hreached : ∀ fault, .did 0 (.completed "c" (.error (.store fault))) ∉
      before ++ .statement (.markCancelled "c" Sample.now) :: later := by
    intro fault hmem
    rw [← mem_traceOf, htraces] at hmem
    have herrors : ((Sample.entered.play Sample.toFirst).1 ++
        (Sample.interrupted.play Sample.toEnd).1).filterMap (Deed.error? ∘ Prod.snd) = [] := rfl
    cases List.filterMap_eq_nil_iff.1 herrors _ hmem
  obtain ⟨hbound, hover⟩ := hend.cancellation_bounded hsound hcall
  obtain ⟨hreport, hcompleted⟩ := hover hasked _ rfl
  obtain ⟨-, -, hrequested⟩ := hreport _ rfl
  exact ⟨before, later, _, _, hend, hcall, rfl, rfl, hlate, hbound _ _ _ rfl hdone hreads, rfl,
    hrequested rfl, (hcompleted (by decide) hreached).2⟩

/-- With room for more workers than there can be the call breaks down, and the campaign is left
behind as one that is being sent. -/
theorem left_behind_by_too_many :
    ∃ events sys call, Chronicle id Sample.connection events sys ∧ sys.calls[0]? = some call ∧
      .did 0 (.asked "c" (.ok true)) ∈ events ∧ call.stage = .ended .crashed ∧
      (∀ q answer, .did 0 (.completed q answer) ∉ events) ∧
      sys.state.store.status? "c" = some Status.sending.name := by
  obtain ⟨events, h, htrace, -⟩ := (Chronicle.init.enter (Sample.lawful_engine (2 ^ 61))
    Sample.campaign.id (.list Sample.contacts)).play (List.replicate 3 (0, .dispatcher))
  refine ⟨_, _, _, h, rfl, mem_traceOf.1 ?_, rfl, fun q answer hmem => ?_, rfl⟩
  · rw [List.nil_append, htrace]
    exact List.mem_cons_self
  · have hmem' := mem_traceOf.2 hmem
    rw [List.nil_append, htrace] at hmem'
    cases List.mem_singleton.1 hmem'

end Chronicle

end Dispatch
end Mailshot
