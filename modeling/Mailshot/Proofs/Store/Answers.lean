import Mailshot.Proofs.Store.Callers
import Mailshot.Proofs.Store.Request
import Mailshot.Proofs.Time.RoundTrip

/-!
# How far answers can be relied on

A call that takes two statements answers for two moments, and in between others may have moved the
campaign.

* Whoever is told that a moment was set for a draft set it, unless somebody else claimed the
  campaign or set it a moment between the two statements of that call; its second statement did
  nothing then, and the answer is the same (`schedule_told`).
* A refusal tells where the campaign stands when it is looked at again.  What it tells can only be
  no reason to refuse if the campaign was claimed between the two statements (`refusal_told`).
-/

set_option autoImplicit false

namespace Mailshot

/-! ## Looking at a campaign -/

namespace Store

/-- The campaign of a row whose status is one of those that there are. -/
theorem load_of_row {s : Store} {id : String} {r : CampaignRow} {status : Status}
    (hfind : s.campaigns.find? id = some r) (hstatus : r.status = status.name) :
    s.load id = .ok {
      id := id, tenant := r.tenant, name := r.name, status := status, subject := r.subject
      body := r.body, fromName := r.fromName, replyTo := r.replyTo
      scheduledAt := r.scheduledAt.bind fun text => (Instant.ofText text).toOption
      cancelRequested := r.cancelRequested } := by
  rw [load, hfind]
  show campaignOfRow id r = _
  rw [campaignOfRow, Status.parse, hstatus, Status.ofName?_name]
  rfl

/-- A campaign that cannot be read is not there, or its status has no meaning. -/
theorem load_eq_error {s : Store} {id : String} {err : CampaignError} (h : s.load id = .error err) :
    err = .notFound id ∨ ∃ text, err = .invalidStatus text := by
  rw [load] at h
  split at h
  · rw [campaignOfRow, Status.parse] at h
    split at h
    · cases h
    · cases h
      exact .inr ⟨_, rfl⟩
  · cases h
    exact .inl rfl

/-- A campaign is read as it stands. -/
theorem status?_of_load {s : Store} {id : String} {campaign : Campaign}
    (h : s.load id = .ok campaign) : s.status? id = some campaign.status.name := by
  obtain ⟨r, hfind, hstatus, -⟩ := row_of_load h
  rw [status?, hfind, Option.map_some, Status.eq_name_of_ofName? hstatus]

/-- Nothing but a claim makes a campaign one that is being sent. -/
theorem Statement.Moves.eq_claim {id : String} {st : Statement} {source target : Option String}
    (h : st.Moves id source target) (htarget : target = some Status.sending.name) :
    ∃ now, st = .claim id now := by
  cases h with
  | claim now => exact ⟨now, rfl⟩
  | create | schedule | complete => cases Status.name_inj.1 (Option.some.inj htarget)

end Store

namespace Callers

variable {cs : Callers} {i : Nat}

/-! ## Setting a moment -/

/-- A draft is set a moment.  This is settled when it is read again, and not read again if its year
is not written with four digits. -/
def SetsMoment (s s' : Store) (id : String) (time : Instant) : Prop :=
  ∃ campaign, s.load id = .ok campaign ∧ campaign.status = .draft ∧
    s'.load id = .ok { campaign with
      status := .scheduled
      scheduledAt := if time.HasPlainYear then some time.settled else none }

theorem setsMoment_markScheduled {s : Store} {id : String}
    (h : s.status? id = some Status.draft.name) (now : String) (time : Instant) :
    SetsMoment s (s.markScheduled id now time).2 id time := by
  obtain ⟨r, hr, hstatus⟩ := Option.map_eq_some_iff.1 h
  have hset : (s.markScheduled id now time).2.campaigns.find? id = some { r with
      status := Status.scheduled.name, scheduledAt := some time.text, updatedAt := now } := by
    rw [Store.markScheduled, Store.find?_setWhere, ← Store.markScheduled,
      if_pos ⟨(s.markScheduled_fst id now time).2 h, rfl⟩, hr]
    rfl
  refine ⟨_, Store.load_of_row hr hstatus, rfl, ?_⟩
  rw [Store.load_of_row hset (show _ = Status.scheduled.name from rfl), Option.bind_some,
    Instant.ofText_text]
  split <;> rfl

/-- A campaign that may be set a moment is a draft. -/
theorem status?_of_checkSchedulable {s : Store} {id : String}
    (h : s.checkSchedulable id = .ok ()) : s.status? id = some Status.draft.name := by
  rw [Store.checkSchedulable] at h
  cases hload : s.load id with
  | error err =>
    rw [hload] at h
    cases h
  | ok campaign =>
    rw [hload] at h
    cases hstatus : campaign.status with
    | draft => rw [Store.status?_of_load hload, hstatus]
    | scheduled | sending | completed =>
      simp only [bind, Except.bind, hstatus] at h
      cases h

/-- After the first of two turns of a call that sets a moment the campaign is a draft. -/
theorem TwoTurns.status?_draft {id now : String} {time : Instant}
    {turns earlier between later : List Turn}
    (h : cs.TwoTurns i (.schedule id now time) turns earlier between later) :
    (cs.play (earlier ++ [.call i])).status? id = some Status.draft.name := by
  obtain ⟨hlook, hsame⟩ := h.act_begun
  rw [status?, hsame]
  exact status?_of_checkSchedulable (Stage.eq_ok_of_ofCheck hlook)

/-- **A call that sets a moment tells the truth, unless somebody else moved the campaign between its
two statements.** -/
theorem schedule_told {turns : List Turn} {id now : String} {time : Instant}
    {answer : Except CampaignError Unit}
    (hbegun : cs.calls[i]? = some (.schedule id now time, .begun))
    (hended : (cs.play turns).calls[i]? = some (.schedule id now time, .ended answer)) :
    (∀ err, answer = .error err → ∀ earlier later, turns = earlier ++ .call i :: later →
        (cs.play (earlier ++ [.call i])).connection = (cs.play earlier).connection) ∧
      (answer = .ok () → ∃ earlier between later,
        cs.TwoTurns i (.schedule id now time) turns earlier between later ∧
        (SetsMoment (cs.play (earlier ++ .call i :: between)).store
            (cs.play (earlier ++ .call i :: between ++ [.call i])).store id time ∨
          (cs.play (earlier ++ .call i :: between ++ [.call i])).store =
              (cs.play (earlier ++ .call i :: between)).store ∧
            ∃ st target, (cs.play (earlier ++ [.call i])).Moved between id st
              (some Status.draft.name) target)) := by
  refine ⟨fun err herr earlier later hturns => ?_, fun hok => ?_⟩
  · rw [herr] at hended
    exact connection_turn_of_error hbegun hended hturns
  subst hok
  rcases two_turns (fun st h => by cases h) hbegun hended with
    ⟨earlier, later, -, hfirst⟩ | ⟨earlier, between, later, htwo, hsecond⟩
  · rw [Call.turn_of_ne_closed rfl (by rw [hfirst]; exact fun h => by cases h)] at hfirst
    exact absurd hfirst (Stage.ofCheck_ne _)
  refine ⟨earlier, between, later, htwo, ?_⟩
  have hupdate := store_concat htwo.halfway rfl (by rw [hsecond]; exact fun h => by cases h)
  rw [hupdate, Call.act]
  by_cases hstill : (cs.play (earlier ++ .call i :: between)).status? id = some Status.draft.name
  · exact .inl (setsMoment_markScheduled hstill now time)
  · refine .inr ⟨Store.setWhere_snd _ _ _ _ ?_, ?_⟩
    · exact Bool.eq_false_iff.2 fun hset => hstill ((Store.markScheduled_fst _ id now time).1 hset)
    · obtain ⟨st, source, target, hmoved, rfl, -⟩ :=
        exists_moved_between (P := (· = some Status.draft.name)) htwo.status?_draft hstill
      exact ⟨st, target, hmoved⟩

namespace Sample

/-- A store with a draft. -/
def draft : Connection := .ofStore (Store.empty.after [.upsertTenant ⟨"t", "T"⟩,
  .createCampaign "c" "2024-01-01 00:00:00"
    { tenant := "t", name := "n", subject := "s", body := "b", fromName := none, replyTo := none }])

/-- Calls that come to it. -/
def callers (calls : List Call) : Callers := ⟨draft, calls.map fun call => (call, .begun)⟩

/-- What the clock of the database shows. -/
def now : String := "2024-01-02 00:00:00"

/-- A moment is to be set, and somebody else asks for sending to stop. -/
def calm : Callers := callers [.schedule "c" now .start2024, .requestCancel "c" now]

/-- A moment is to be set, and somebody else claims the campaign. -/
def raced : Callers := callers [.schedule "c" now .start2024, .single (.claim "c" now)]

end Sample

/-- A draft is set a moment while somebody else asks for sending to stop, in vain. -/
theorem schedule_told_beside_request :
    (Sample.calm.play [.call 0, .call 1, .call 0]).calls[0]? =
        some (.schedule "c" Sample.now .start2024, .ended (.ok ())) ∧
      SetsMoment (Sample.calm.play [.call 0, .call 1]).store
        (Sample.calm.play [.call 0, .call 1, .call 0]).store "c" .start2024 := by
  refine ⟨rfl, ?_⟩
  obtain ⟨-, htold⟩ :=
    @schedule_told Sample.calm 0 [.call 0, .call 1, .call 0] "c" _ .start2024 (.ok ()) rfl rfl
  obtain ⟨earlier, between, later, htwo, h⟩ := htold rfl
  -- the turns of the call are the first one and the last one
  obtain ⟨rfl, _, rfl, rfl, rfl⟩ :
      earlier = [] ∧ ∃ rest, between = .call 1 :: rest ∧ rest = [] ∧ later = [] := by
    simpa [List.cons_eq_append_iff, List.append_eq_cons_iff] using htwo.eq
  rcases h with hset | ⟨-, st, target, earlier, who, later, hturns, -, -, rfl, hmoves⟩
  · exact hset
  · -- the request in between moves nothing
    obtain ⟨rfl, rfl, rfl⟩ : earlier = [] ∧ who = .call 1 ∧ later = [] := by
      simpa [List.cons_eq_append_iff] using hturns
    have hlt : (Sample.calm.play [.call 0]).store.progress "c" <
        (Sample.calm.play [.call 0, .call 1]).store.progress "c" :=
      Store.Statement.Moves.progress_lt hmoves
    exact absurd hlt (by decide)

/-- Between the two statements of a call the draft is claimed by somebody else: nothing is set, and
the call is told that it was. -/
theorem schedule_told_wrongly :
    (Sample.raced.play [.call 0, .call 1, .call 0]).calls[0]? =
        some (.schedule "c" Sample.now .start2024, .ended (.ok ())) ∧
      (Sample.raced.play [.call 0, .call 1, .call 0]).store =
        (Sample.raced.play [.call 0, .call 1]).store ∧
      ∃ campaign, (Sample.raced.play [.call 0, .call 1, .call 0]).store.load "c" = .ok campaign ∧
        campaign.status = .sending ∧ campaign.scheduledAt = none :=
  ⟨rfl, rfl, _, rfl, rfl, rfl⟩

/-! ## Refusals -/

/-- A refusal to stop tells where the campaign stands. -/
theorem eq_of_explainCancel {s : Store} {id q : String} {status : Status}
    (h : s.explainCancel id = .notCancellable q status) :
    q = id ∧ s.status? id = some status.name := by
  rw [Store.explainCancel] at h
  cases hload : s.load id with
  | ok campaign =>
    rw [hload] at h
    cases h
    exact ⟨rfl, Store.status?_of_load hload⟩
  | error err =>
    rw [hload] at h
    rcases Store.load_eq_error hload with rfl | ⟨text, rfl⟩ <;> cases h

/-- So does a refusal to complete. -/
theorem eq_of_explainComplete {s : Store} {id : String} {source target : Status}
    (h : s.explainComplete id = .invalidTransition source target) :
    target = .completed ∧ s.status? id = some source.name := by
  rw [Store.explainComplete] at h
  cases hload : s.load id with
  | ok campaign =>
    rw [hload] at h
    cases h
    exact ⟨rfl, Store.status?_of_load hload⟩
  | error err =>
    rw [hload] at h
    rcases Store.load_eq_error hload with rfl | ⟨text, rfl⟩ <;> cases h

/-- A campaign that is being sent in the second turn of a call, but was not after the first one, was
claimed by somebody in between. -/
theorem claimed_between {earlier between : List Turn} {who : Turn} {id : String}
    (hbefore : (cs.play (earlier ++ [who])).status? id ≠ some Status.sending.name)
    (hafter : (cs.play (earlier ++ who :: between)).status? id = some Status.sending.name) :
    ∃ now source, (cs.play (earlier ++ [who])).Moved between id (.claim id now) source
      (some Status.sending.name) := by
  obtain ⟨st, source, target, hmoved, -, htarget⟩ :=
    exists_moved_between (P := (· ≠ some Status.sending.name)) hbefore (not_not_intro hafter)
  obtain rfl := Decidable.not_not.1 htarget
  obtain ⟨earlier', who', later', hturns, hst, hsource, htarget', hmoves⟩ := hmoved
  obtain ⟨now, rfl⟩ := hmoves.eq_claim rfl
  exact ⟨now, source, earlier', who', later', hturns, hst, hsource, htarget', hmoves⟩

section Refused

variable {call : Call} {id : String} {mark : Store → Bool × Store} {explain : Store → CampaignError}

/-- A call that changes a campaign that is being sent, and looks at it if it was not, gives an error
for what it saw then. -/
theorem refused (hact : ∀ s, call.act .begun s = (.ofHit (mark s).1, (mark s).2))
    (hexplain : ∀ s, call.act .halfway s = (.ended (.error (explain s)), s))
    (hmark : ∀ s, (mark s).1 = true ↔ s.status? id = some Status.sending.name)
    (hmiss : ∀ s, (mark s).1 = false → (mark s).2 = s) {turns : List Turn} {err : CampaignError}
    (herr : err ≠ .store .closed) (hbegun : cs.calls[i]? = some (call, .begun))
    (hended : (cs.play turns).calls[i]? = some (call, .ended (.error err))) :
    ∃ earlier between later, cs.TwoTurns i call turns earlier between later ∧
      explain (cs.play (earlier ++ .call i :: between)).store = err ∧
      ((cs.play (earlier ++ .call i :: between)).status? id = some Status.sending.name →
        ∃ now source, (cs.play (earlier ++ [.call i])).Moved between id (.claim id now) source
          (some Status.sending.name)) := by
  have hcall : ∀ st, call ≠ .single st := by
    rintro st rfl
    cases hexplain Store.empty
  have hne : ∀ stage : Stage, stage = .ended (.error err) →
      stage ≠ .ended (.error (.store .closed)) := by
    rintro _ rfl heq
    cases heq
    exact herr rfl
  rcases two_turns hcall hbegun hended with
    ⟨earlier, later, -, hfirst⟩ | ⟨earlier, between, later, htwo, hsecond⟩
  · -- a statement that has an effect gives no error
    rw [Call.turn_of_ne_closed rfl (hne _ hfirst), hact] at hfirst
    cases hhit : (mark (cs.play earlier).connection.store).1 <;>
      · rw [hhit] at hfirst
        cases hfirst
  · rw [Call.turn_of_ne_closed rfl (hne _ hsecond), hexplain] at hsecond
    refine ⟨earlier, between, later, htwo, ?_, claimed_between ?_⟩
    · exact Except.error.inj (Stage.ended.inj hsecond)
    · obtain ⟨hfirst, hstore⟩ := htwo.act_begun
      rw [hact] at hfirst hstore
      have hhit := Stage.eq_false_of_ofHit hfirst
      rw [status?, hstore, hmiss _ hhit, Ne, ← hmark, hhit]
      exact Bool.false_ne_true

end Refused

/-- **A refusal tells where the campaign stands when it is looked at again, and contradicts itself
only if the campaign was claimed in between.** -/
theorem refusal_told {turns : List Turn} {id now : String} :
    (∀ q status, cs.calls[i]? = some (.requestCancel id now, .begun) →
      (cs.play turns).calls[i]? =
        some (.requestCancel id now, .ended (.error (.notCancellable q status))) →
      q = id ∧ ∃ earlier between later,
        cs.TwoTurns i (.requestCancel id now) turns earlier between later ∧
        (cs.play (earlier ++ .call i :: between)).status? id = some status.name ∧
        (status = .sending → ∃ now' source, (cs.play (earlier ++ [.call i])).Moved between id
          (.claim id now') source (some Status.sending.name))) ∧
    (∀ source target, cs.calls[i]? = some (.complete id now, .begun) →
      (cs.play turns).calls[i]? =
        some (.complete id now, .ended (.error (.invalidTransition source target))) →
      target = .completed ∧ ∃ earlier between later,
        cs.TwoTurns i (.complete id now) turns earlier between later ∧
        (cs.play (earlier ++ .call i :: between)).status? id = some source.name ∧
        (source.canBecome target = true → ∃ now' source',
          (cs.play (earlier ++ [.call i])).Moved between id (.claim id now') source'
            (some Status.sending.name))) := by
  refine ⟨fun q status hbegun hended => ?_, fun source target hbegun hended => ?_⟩
  · obtain ⟨earlier, between, later, htwo, hexplain, hclaimed⟩ :=
      refused (fun _ => rfl) (fun _ => rfl) (fun s => s.markCancelled_fst id now)
        (fun s => s.setWhere_snd id _ _) (fun h => by cases h) hbegun hended
    obtain ⟨hid, hstatus⟩ := eq_of_explainCancel hexplain
    refine ⟨hid, earlier, between, later, htwo, hstatus, ?_⟩
    rintro rfl
    exact hclaimed hstatus
  · obtain ⟨earlier, between, later, htwo, hexplain, hclaimed⟩ :=
      refused (fun _ => rfl) (fun _ => rfl) (fun s => s.markCompleted_fst id now)
        (fun s => s.setWhere_snd id _ _) (fun h => by cases h) hbegun hended
    obtain ⟨rfl, hstatus⟩ := eq_of_explainComplete hexplain
    refine ⟨rfl, earlier, between, later, htwo, hstatus, fun hbecome => ?_⟩
    have hsource : source = .sending := by
      cases source <;> first | rfl | cases hbecome
    rw [hsource] at hstatus
    exact hclaimed hstatus

namespace Sample

/-- A draft is to be stopped and to be completed. -/
def idle : Callers := callers [.requestCancel "c" now, .complete "c" now]

/-- Two calls have their turns one after the other. -/
def inTurn : List Turn := [.call 0, .call 1, .call 0, .call 1]

/-- A draft is to be stopped, to be completed and to be claimed. -/
def rivals : Callers :=
  callers [.requestCancel "c" now, .complete "c" now, .single (.claim "c" now)]

end Sample

/-- To stop it and to complete it is refused, because it is a draft. -/
theorem refusal_told_of_draft :
    (Sample.idle.play Sample.inTurn).calls =
        [(.requestCancel "c" Sample.now, .ended (.error (.notCancellable "c" .draft))),
          (.complete "c" Sample.now, .ended (.error (.invalidTransition .draft .completed)))] ∧
      (∃ earlier between later, Sample.idle.TwoTurns 0 (.requestCancel "c" Sample.now)
          Sample.inTurn earlier between later ∧
        (Sample.idle.play (earlier ++ .call 0 :: between)).status? "c" =
          some Status.draft.name) ∧
      ∃ earlier between later,
        Sample.idle.TwoTurns 1 (.complete "c" Sample.now) Sample.inTurn earlier between later ∧
        (Sample.idle.play (earlier ++ .call 1 :: between)).status? "c" =
          some Status.draft.name := by
  refine ⟨rfl, ?_, ?_⟩
  · obtain ⟨-, earlier, between, later, htwo, hstatus, -⟩ :=
      (@refusal_told Sample.idle 0 Sample.inTurn "c" _).1 "c" .draft rfl rfl
    exact ⟨earlier, between, later, htwo, hstatus⟩
  · obtain ⟨-, earlier, between, later, htwo, hstatus, -⟩ :=
      (@refusal_told Sample.idle 1 Sample.inTurn "c" _).2 .draft .completed rfl rfl
    exact ⟨earlier, between, later, htwo, hstatus⟩

/-- If it is claimed between the two statements of each call, then one of them is told that only a
campaign that is being sent can be stopped, and that this one is being sent, and the other that it
cannot go from being sent to being completed. -/
theorem refusal_told_wrongly :
    (Sample.rivals.play [.call 0, .call 1, .call 2, .call 0, .call 1]).calls[0]? =
        some (.requestCancel "c" Sample.now, .ended (.error (.notCancellable "c" .sending))) ∧
      (Sample.rivals.play [.call 0, .call 1, .call 2, .call 0, .call 1]).calls[1]? =
        some (.complete "c" Sample.now,
          .ended (.error (.invalidTransition .sending .completed))) ∧
      Status.sending.canBecome .completed = true :=
  ⟨rfl, rfl, rfl⟩

end Callers
end Mailshot
