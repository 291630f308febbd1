import Mailshot.Proofs.Store.Statement

/-!
# The life of a campaign

Statements come in any order and from anybody; what the rows say of a campaign makes sense all the
same.  `Statement.does_apply` says once what a statement can do to the store, and everything else
is read off it:

* `Store.Sound` is what holds of the store at any time: references have something to refer to, the
  status of a campaign is one of the four there are, only a campaign that is being sent or was sent
  can have been asked to stop, and a moment is set for a campaign just as its status says.  Every
  statement keeps it (`Statement.Does.sound`).
* `CampaignRow.Becomes` is how one statement may change a row: the status stays or takes one of the
  steps of `Status.canBecome`, what was set stays set, and what was written stays as it was written
  (`Statement.Does.becomes`).
* Since every step of a status leads on (`Status.rank`), no status is entered twice
  (`entries_le_one`) and none that was left is come back to (`status?_ne_of_left`).
-/

set_option autoImplicit false

namespace Mailshot

/-! ## Statuses in the order in which they are reached -/

/-- How far a campaign has come. -/
def Status.rank : Status → Nat
  | draft => 0
  | scheduled => 1
  | sending => 2
  | completed => 3

/-- Every step of a status leads on. -/
theorem Status.rank_lt_of_canBecome {a b : Status} (h : a.canBecome b = true) :
    a.rank < b.rank := by
  cases a <;> cases b <;> first | decide | cases h

/-! ## Rows -/

namespace Table

variable {ρ : Type}

/-- All rows have a property, with an identifier or without one. -/
def All (P : ρ → Prop) (t : Table ρ) : Prop := ∀ e ∈ t.rows, P e.2

theorem all_empty (P : ρ → Prop) : (empty : Table ρ).All P := fun _ he => absurd he List.not_mem_nil

theorem mem_rows_insert {t : Table ρ} {id : String} {row : ρ} {e : Option String × ρ}
    (h : e ∈ (t.insert id row).rows) : e = (some id, row) ∨ e ∈ t.rows := by
  rcases List.mem_append.1 h with h | h
  · exact .inr (List.mem_append_left _ h)
  · obtain ⟨p, hp, rfl⟩ := List.mem_map.1 h
    rcases Dictionary.mem_insertEntry hp with rfl | hp
    · exact .inl rfl
    · exact .inr (List.mem_append_right _ (List.mem_map_of_mem hp))

theorem All.insert {P Q : ρ → Prop} {t : Table ρ} (h : t.All P) (hmono : ∀ r, P r → Q r)
    {id : String} {row : ρ} (hrow : Q row) : (t.insert id row).All Q := by
  intro e he
  rcases mem_rows_insert he with rfl | he
  · exact hrow
  · exact hmono _ (h e he)

theorem All.mono {P Q : ρ → Prop} {t : Table ρ} (h : t.All P) (hmono : ∀ r, P r → Q r) : t.All Q :=
  fun e he => hmono _ (h e he)

theorem All.of_find? {P : ρ → Prop} {t : Table ρ} (h : t.All P) {id : String} {r : ρ}
    (hfind : t.find? id = some r) : P r :=
  h (some id, r) (List.mem_append_right _
    (List.mem_map.2 ⟨(id, r), (t.named.find?_eq_some_iff id r).1 hfind, rfl⟩))

theorem All.of_mem_entries {P : ρ → Prop} {t : Table ρ} (h : t.All P) {e : String × ρ}
    (he : e ∈ t.entries) : P e.2 := by
  rcases List.mem_append.1 he with he | he
  · obtain ⟨r, hr, rfl⟩ := List.mem_map.1 he
    exact h (none, r) (List.mem_append_left _ (List.mem_map_of_mem hr))
  · exact h (some e.1, e.2) (List.mem_append_right _ (List.mem_map.2 ⟨e, he, rfl⟩))

/-- Insertion takes no identifier away. -/
theorem contains_insert {t : Table ρ} {id q : String} {row : ρ} (h : t.contains q = true) :
    (t.insert id row).contains q = true := by
  show ((t.insert id row).find? q).isSome = true
  rw [find?_insert]
  split
  · rfl
  · exact h

end Table

/-- How the row of a campaign is changed by the statements that look at its status.  Each of them
notes the time. -/
inductive CampaignRow.Step : CampaignRow → CampaignRow → Prop
  /-- A draft is given a moment. -/
  | schedule {r : CampaignRow} (now : String) (time : Instant)
      (h : r.status = Status.draft.name) :
      Step r { r with
        status := Status.scheduled.name, scheduledAt := some time.text, updatedAt := now }
  /-- Sending is to stop. -/
  | cancel {r : CampaignRow} (now : String) (h : r.status = Status.sending.name) :
      Step r { r with cancelRequested := true, updatedAt := now }
  /-- It is claimed. -/
  | claim {r : CampaignRow} (now : String) {status : Status} (hsendable : status.isSendable = true)
      (h : r.status = status.name) :
      Step r { r with status := Status.sending.name, updatedAt := now }
  /-- It is completed. -/
  | complete {r : CampaignRow} (now : String) (h : r.status = Status.sending.name) :
      Step r { r with status := Status.completed.name, updatedAt := now }

namespace Store

/-! ## What a statement can do -/

/-- What a statement can do to the store: nothing, if it is refused or finds no campaign that it
applies to, or one thing. -/
inductive Statement.Does (s : Store) : Statement → Store → Prop
  /-- Nothing is done. -/
  | refuse (st : Statement) : Does s st s
  /-- A tenant is stored. -/
  | tenant (t : Tenant) :
    Does s (.upsertTenant t) { s with tenants := s.tenants.insert t.id t.name }
  /-- A contact of a tenant that is there is stored. -/
  | contact (c : Contact) (htenant : s.hasTenant c.tenant = true) :
      Does s (.upsertContact c) { s with contacts := s.contacts.insert c.id (rowOfContact c) }
  /-- A draft of a tenant that is there is stored, under an identifier that is free. -/
  | campaign (id createdAt : String) (new : NewCampaign) (htenant : s.hasTenant new.tenant = true)
      (hfree : s.campaigns.find? id = none) :
      Does s (.createCampaign id createdAt new) { s with campaigns := s.campaigns.insert id {
        tenant := new.tenant, name := new.name, subject := new.subject, body := new.body
        fromName := new.fromName, replyTo := new.replyTo, status := Status.draft.name
        scheduledAt := none, cancelRequested := false, createdAt := createdAt
        updatedAt := createdAt } }
  /-- A segment of a tenant that is there is stored. -/
  | segment (id createdAt tenant name : String) (rules : RuleGroup)
      (htenant : s.hasTenant tenant = true) :
      Does s (.createSegment id createdAt tenant name rules)
        { s with segments := s.segments.insert id ⟨tenant, name, rules.text, createdAt⟩ }
  /-- A campaign that is there is to go to a segment that is there. -/
  | link (campaign segment : String) (hcampaign : s.hasCampaign campaign = true)
      (hsegment : s.hasSegment segment = true) :
      Does s (.link campaign segment) { s with links := s.links ++ [(campaign, segment)] }
  /-- The row of a campaign is changed as its status allows. -/
  | step (st : Statement) {id : String} {r r' : CampaignRow} (hfind : s.campaigns.find? id = some r)
      (hstep : r.Step r') : Does s st { s with campaigns := s.campaigns.insert id r' }
  /-- An event is appended. -/
  | event (e : SendEvent) : Does s (.append e) { s with events := s.events ++ [rowOfEvent e] }

/-- A row is changed only where its status is one of those that are asked for. -/
theorem setWhere_cases (s : Store) (id : String) (statuses : List Status)
    (f : CampaignRow → CampaignRow) :
    (s.setWhere id statuses f).2 = s ∨ ∃ r, ∃ status ∈ statuses, s.campaigns.find? id = some r ∧
      r.status = status.name ∧
      (s.setWhere id statuses f).2 = { s with campaigns := s.campaigns.insert id (f r) } := by
  rw [setWhere]
  split
  · next r hfind =>
    split
    · next hmem =>
      obtain ⟨status, hstatus, hname⟩ := List.mem_map.1 hmem
      exact .inr ⟨r, status, hstatus, hfind, hname.symm, rfl⟩
    · exact .inl rfl
  · exact .inl rfl

/-- Changing a row where its status allows it is a step of that row. -/
theorem does_setWhere (s : Store) (st : Statement) (id : String) {statuses : List Status}
    {f : CampaignRow → CampaignRow}
    (hstep : ∀ (r : CampaignRow), ∀ status ∈ statuses, r.status = status.name → r.Step (f r)) :
    st.Does s (s.setWhere id statuses f).2 := by
  rcases s.setWhere_cases id statuses f with hsame | ⟨r, status, hmem, hfind, hname, hset⟩
  · rw [hsame]
    exact .refuse st
  · rw [hset]
    exact .step st hfind (hstep r status hmem hname)

/-- **What a statement can do.** -/
theorem Statement.does_apply (s : Store) (st : Statement) : st.Does s (st.apply s) := by
  cases st with
  | upsertTenant t => exact .tenant t
  | append e => exact .event e
  | upsertContact c =>
    rw [apply, Store.upsertContact]
    split
    · next h => exact .contact c h
    · exact .refuse _
  | createCampaign id createdAt new =>
    rw [apply, Store.createCampaign]
    split
    · exact .refuse _
    · next htenant =>
      split
      · exact .refuse _
      · next hfree =>
        refine .campaign id createdAt new (by simpa using htenant) ?_
        exact Option.not_isSome_iff_eq_none.1 hfree
  | createSegment id createdAt tenant name rules =>
    rw [apply, Store.createSegment]
    split
    · exact .refuse _
    · next htenant =>
      split
      · exact .refuse _
      · exact .segment id createdAt tenant name rules (by simpa using htenant)
  | link campaign segment =>
    rw [apply, Store.link]
    split
    · exact .refuse _
    · split
      · next h =>
        obtain ⟨hcampaign, hsegment⟩ := Bool.and_eq_true_iff.1 h
        exact .link campaign segment hcampaign hsegment
      · exact .refuse _
  | markScheduled id now time =>
    refine s.does_setWhere _ id fun r status hmem hname => ?_
    obtain rfl := List.mem_singleton.1 hmem
    exact .schedule now time hname
  | markCancelled id now =>
    refine s.does_setWhere _ id fun r status hmem hname => ?_
    obtain rfl := List.mem_singleton.1 hmem
    exact .cancel now hname
  | claim id now =>
    refine s.does_setWhere _ id fun r status hmem hname => .claim now ?_ hname
    simp only [List.mem_cons, List.not_mem_nil, or_false] at hmem
    rcases hmem with rfl | rfl <;> rfl
  | markCompleted id now =>
    refine s.does_setWhere _ id fun r status hmem hname => ?_
    obtain rfl := List.mem_singleton.1 hmem
    exact .complete now hname

/-! ## What holds at any time -/

end Store

/-- What the row of a campaign says makes sense. -/
structure CampaignRow.Sound (r : CampaignRow) : Prop where
  /-- Its status is one of those that there are. -/
  status : ∃ status : Status, r.status = status.name
  /-- It was asked to stop only if it is being sent or was sent. -/
  cancelled : r.cancelRequested = true →
    r.status = Status.sending.name ∨ r.status = Status.completed.name
  /-- A draft has no moment. -/
  draft : r.status = Status.draft.name → r.scheduledAt = none
  /-- A scheduled campaign has one. -/
  scheduled : r.status = Status.scheduled.name → r.scheduledAt.isSome = true

/-- What is stored makes sense. -/
structure Store.Sound (s : Store) : Prop where
  /-- Campaigns do, and they have a tenant that is there. -/
  campaigns : s.campaigns.All fun r => r.Sound ∧ s.hasTenant r.tenant = true
  /-- Contacts have a tenant that is there. -/
  contacts : s.contacts.All fun r => s.hasTenant r.tenant = true
  /-- So have segments. -/
  segments : s.segments.All fun r => s.hasTenant r.tenant = true
  /-- Links lead from a campaign that is there to a segment that is there. -/
  links : ∀ p ∈ s.links, s.hasCampaign p.1 = true ∧ s.hasSegment p.2 = true

namespace CampaignRow

/-- Whether a row makes sense can be told from its status. -/
theorem sound_of_status {r : CampaignRow} (status : Status) (h : r.status = status.name)
    (hcancelled : r.cancelRequested = true → status = .sending ∨ status = .completed)
    (hdraft : status = .draft → r.scheduledAt = none)
    (hscheduled : status = .scheduled → r.scheduledAt.isSome = true) : r.Sound where
  status := ⟨status, h⟩
  cancelled hc := by
    rcases hcancelled hc with rfl | rfl
    · exact .inl h
    · exact .inr h
  draft hd := hdraft (Status.name_inj.1 (h ▸ hd))
  scheduled hs := hscheduled (Status.name_inj.1 (h ▸ hs))

/-- A step of a row keeps sense. -/
theorem Sound.step {r r' : CampaignRow} (h : r.Sound) (hstep : r.Step r') : r'.Sound := by
  cases hstep with
  | schedule now time hstatus =>
    refine sound_of_status .scheduled rfl (fun hcancel => ?_) (fun e => by cases e)
      fun _ => rfl
    -- a draft was not asked to stop
    have hwas := h.cancelled hcancel
    simp only [hstatus, Status.name_inj] at hwas
    rcases hwas with hwas | hwas <;> cases hwas
  | cancel now hstatus => exact ⟨h.status, fun _ => .inl hstatus, h.draft, h.scheduled⟩
  | claim =>
    exact sound_of_status .sending rfl (fun _ => .inl rfl) (fun e => by cases e)
      fun e => by cases e
  | complete =>
    exact sound_of_status .completed rfl (fun _ => .inr rfl) (fun e => by cases e)
      fun e => by cases e

end CampaignRow

namespace Store

theorem sound_empty : empty.Sound where
  campaigns := Table.all_empty _
  contacts := Table.all_empty _
  segments := Table.all_empty _
  links _ hp := absurd hp List.not_mem_nil

namespace Statement.Does

variable {s s' : Store} {st : Statement}

/-- No tenant is ever removed. -/
theorem hasTenant (h : st.Does s s') {id : String} (hid : s.hasTenant id = true) :
    s'.hasTenant id = true := by
  cases h with
  | tenant t =>
    show ((s.tenants.insert t.id t.name).find? id).isSome = true
    rw [Dictionary.find?_insert]
    split
    · rfl
    · exact hid
  | _ => exact hid

/-- **Whatever a statement can do keeps sense.** -/
theorem sound (h : st.Does s s') (hs : s.Sound) : s'.Sound := by
  have htenant : ∀ id, s.hasTenant id = true → s'.hasTenant id = true := fun id hid =>
    h.hasTenant hid
  cases h with
  | refuse => exact hs
  | event => exact ⟨hs.campaigns, hs.contacts, hs.segments, hs.links⟩
  | tenant t =>
    exact ⟨hs.campaigns.mono fun r hr => ⟨hr.1, htenant _ hr.2⟩,
      hs.contacts.mono fun r hr => htenant _ hr, hs.segments.mono fun r hr => htenant _ hr,
      hs.links⟩
  | contact c hc =>
    exact ⟨hs.campaigns, hs.contacts.insert (fun _ hr => hr) hc, hs.segments, hs.links⟩
  | campaign id createdAt new hnew =>
    refine ⟨hs.campaigns.insert (fun _ hr => hr) ⟨?_, hnew⟩, hs.contacts, hs.segments,
      fun p hp => ⟨Table.contains_insert (hs.links p hp).1, (hs.links p hp).2⟩⟩
    exact CampaignRow.sound_of_status .draft rfl (fun hc => by cases hc)
      (fun _ => rfl) fun e => by cases e
  | segment id createdAt tenant name rules hseg =>
    exact ⟨hs.campaigns, hs.contacts, hs.segments.insert (fun _ hr => hr) hseg,
      fun p hp => ⟨(hs.links p hp).1, Table.contains_insert (hs.links p hp).2⟩⟩
  | link campaign segment hcampaign hsegment =>
    refine ⟨hs.campaigns, hs.contacts, hs.segments, fun p hp => ?_⟩
    rcases List.mem_append.1 hp with hp | hp
    · exact hs.links p hp
    · obtain rfl := List.mem_singleton.1 hp
      exact ⟨hcampaign, hsegment⟩
  | @step _ id r r' hfind hstep =>
    obtain ⟨hsound, hhas⟩ := hs.campaigns.of_find? hfind
    have hsame : r'.tenant = r.tenant := by cases hstep <;> rfl
    refine ⟨hs.campaigns.insert (fun _ hr => hr) ⟨hsound.step hstep, ?_⟩, hs.contacts, hs.segments,
      fun p hp => ⟨Table.contains_insert (hs.links p hp).1, (hs.links p hp).2⟩⟩
    show s.hasTenant r'.tenant = true
    rw [hsame]
    exact hhas

end Statement.Does

/-! ## What changes in a row -/

end Store

/-- How the row of a campaign may be changed by one statement. -/
structure CampaignRow.Becomes (r r' : CampaignRow) : Prop where
  /-- Its status stays, or takes a step that there is. -/
  status : r'.status = r.status ∨
    ∃ a b : Status, a.canBecome b = true ∧ r.status = a.name ∧ r'.status = b.name
  /-- What was asked to stop stays so. -/
  cancelled : r.cancelRequested = true → r'.cancelRequested = true
  /-- A moment that was set stays as it was set. -/
  scheduledAt : ∀ text, r.scheduledAt = some text → r'.scheduledAt = some text
  /-- Nothing else is changed but the time that is noted. -/
  written : r' = { r with
    status := r'.status, scheduledAt := r'.scheduledAt, cancelRequested := r'.cancelRequested
    updatedAt := r'.updatedAt }

namespace CampaignRow

theorem Becomes.refl (r : CampaignRow) : r.Becomes r := ⟨.inl rfl, id, fun _ h => h, rfl⟩

/-- A step of a row that makes sense. -/
theorem Step.becomes {r r' : CampaignRow} (hstep : r.Step r') (h : r.Sound) : r.Becomes r' := by
  cases hstep with
  | schedule now time hstatus =>
    refine ⟨.inr ⟨.draft, .scheduled, rfl, hstatus, rfl⟩, id, fun text htext => ?_, rfl⟩
    -- a draft has no moment yet
    rw [h.draft hstatus] at htext
    cases htext
  | cancel now hstatus => exact ⟨.inl rfl, fun _ => rfl, fun _ htext => htext, rfl⟩
  | @claim now status hsendable hstatus =>
    exact ⟨.inr ⟨status, .sending, hsendable, hstatus, rfl⟩, id, fun _ htext => htext, rfl⟩
  | complete now hstatus =>
    exact ⟨.inr ⟨.sending, .completed, rfl, hstatus, rfl⟩, id, fun _ htext => htext, rfl⟩

end CampaignRow

namespace Store

/-- **Whatever a statement can do, a campaign stays there and its row is changed as its status
allows.** -/
theorem Statement.Does.becomes {s s' : Store} {st : Statement} (h : st.Does s s') (hs : s.Sound)
    {id : String} {r : CampaignRow} (hfind : s.campaigns.find? id = some r) :
    ∃ r', s'.campaigns.find? id = some r' ∧ r.Becomes r' := by
  cases h with
  | campaign id' createdAt new htenant hfree =>
    refine ⟨r, ?_, .refl r⟩
    have hne : id' ≠ id := by
      rintro rfl
      rw [hfree] at hfind
      cases hfind
    rw [Table.find?_insert, if_neg hne, hfind]
  | @step _ id' r₁ r₂ hfind' hstep =>
    by_cases hid : id' = id
    · subst hid
      rw [hfind'] at hfind
      cases hfind
      refine ⟨r₂, ?_, hstep.becomes (hs.campaigns.of_find? hfind').1⟩
      rw [Table.find?_insert, if_pos rfl]
    · exact ⟨r, by rw [Table.find?_insert, if_neg hid, hfind], .refl r⟩
  | _ => exact ⟨r, hfind, .refl r⟩

/-! ## Statements in a row -/

/-- The store after some statements. -/
def after (s : Store) (sts : List Statement) : Store := sts.foldl (fun s st => st.apply s) s

@[simp] theorem after_nil (s : Store) : s.after [] = s := rfl

@[simp] theorem after_cons (s : Store) (st : Statement) (sts : List Statement) :
    s.after (st :: sts) = (st.apply s).after sts := rfl

theorem after_append (s : Store) (sts sts' : List Statement) :
    s.after (sts ++ sts') = (s.after sts).after sts' := List.foldl_append

theorem Sound.after {s : Store} (h : s.Sound) (sts : List Statement) : (s.after sts).Sound := by
  induction sts generalizing s with
  | nil => exact h
  | cons st sts ih => exact ih ((st.does_apply s).sound h)

theorem hasTenant_after {s : Store} {id : String} (h : s.hasTenant id = true)
    (sts : List Statement) : (s.after sts).hasTenant id = true := by
  induction sts generalizing s with
  | nil => exact h
  | cons st sts ih => exact ih ((st.does_apply s).hasTenant h)

/-- How far a campaign has come, where zero means that there is none. -/
def progress (s : Store) (id : String) : Nat :=
  match (s.status? id).bind Status.ofName? with
  | some status => status.rank + 1
  | none => 0

theorem progress_of_status? {s : Store} {id : String} {status : Status}
    (h : s.status? id = some status.name) : s.progress id = status.rank + 1 := by
  rw [progress, h, Option.bind_some, Status.ofName?_name]

/-- What a statement does to a status leads on. -/
theorem Statement.Moves.progress_lt {s s' : Store} {id : String} {st : Statement}
    (h : st.Moves id (s.status? id) (s'.status? id)) : s.progress id < s'.progress id := by
  generalize hbefore : s.status? id = before at h
  generalize hafter : s'.status? id = after at h
  cases h with
  | create =>
    rw [progress, hbefore, progress_of_status? hafter]
    exact Nat.succ_pos _
  | schedule =>
    rw [progress_of_status? hbefore, progress_of_status? hafter]
    decide
  | claim now hstatus =>
    rw [progress_of_status? hbefore, progress_of_status? hafter]
    exact Nat.succ_lt_succ (Status.rank_lt_of_canBecome hstatus)
  | complete =>
    rw [progress_of_status? hbefore, progress_of_status? hafter]
    decide

/-- **A campaign stands where it stood or has come further.** -/
theorem status?_after (s : Store) (id : String) (sts : List Statement) :
    (s.after sts).status? id = s.status? id ∨ s.progress id < (s.after sts).progress id := by
  induction sts generalizing s with
  | nil => exact .inl rfl
  | cons st sts ih =>
    have hle : (st.apply s).status? id = s.status? id ∨
        s.progress id < (st.apply s).progress id :=
      (Statement.status?_apply s id st).imp_right fun h => h.progress_lt
    rw [after_cons]
    rcases hle with hsame | hlt
    · have hprogress : (st.apply s).progress id = s.progress id := by rw [progress, progress, hsame]
      rw [← hsame, ← hprogress]
      exact ih _
    · rcases ih (st.apply s) with hsame | hlt'
      · have hprogress : ((st.apply s).after sts).progress id = (st.apply s).progress id := by
          rw [progress, progress, hsame]
        rw [hprogress]
        exact .inr hlt
      · exact .inr (Nat.lt_trans hlt hlt')

theorem progress_le_after (s : Store) (id : String) (sts : List Statement) :
    s.progress id ≤ (s.after sts).progress id := by
  rcases s.status?_after id sts with hsame | hlt
  · have hprogress : s.progress id = (s.after sts).progress id := by rw [progress, progress, hsame]
    exact Nat.le_of_eq hprogress
  · exact Nat.le_of_lt hlt

/-- **A status that was left is never come back to.** -/
theorem status?_ne_of_left {s : Store} {id : String} {status : Status} {sts : List Statement}
    (h : s.status? id = some status.name)
    (hleft : (s.after sts).status? id ≠ some status.name) (sts' : List Statement) :
    ((s.after sts).after sts').status? id ≠ some status.name := by
  intro hback
  rcases s.status?_after id sts with hsame | hlt
  · exact hleft (hsame.trans h)
  · have hle := (s.after sts).progress_le_after id sts'
    rw [progress_of_status? hback, ← progress_of_status? h] at hle
    exact Nat.lt_irrefl _ (Nat.lt_of_lt_of_le hlt hle)

/-- How often a campaign enters a status in the course of some statements. -/
def entries (id : String) (status : Status) (s : Store) : List Statement → Nat
  | [] => 0
  | st :: sts =>
    (if s.status? id ≠ some status.name ∧ (st.apply s).status? id = some status.name then 1
      else 0) + entries id status (st.apply s) sts

/-- What has come as far as a status does not enter it any more. -/
theorem entries_eq_zero {s : Store} {id : String} {status : Status}
    (h : status.rank < s.progress id) (sts : List Statement) : entries id status s sts = 0 := by
  induction sts generalizing s with
  | nil => rfl
  | cons st sts ih =>
    have hle : s.progress id ≤ (st.apply s).progress id := s.progress_le_after id [st]
    have hnot : ¬ (s.status? id ≠ some status.name ∧
        (st.apply s).status? id = some status.name) := by
      rintro ⟨hne, henters⟩
      rcases s.status?_after id [st] with hsame | hlt
      · exact hne (hsame.symm.trans henters)
      · have hprogress : (st.apply s).progress id = status.rank + 1 := progress_of_status? henters
        have hlt' : s.progress id < (st.apply s).progress id := hlt
        omega
    rw [entries, if_neg hnot, ih (Nat.lt_of_lt_of_le h hle)]

/-- **No status is entered twice.** -/
theorem entries_le_one (s : Store) (id : String) (status : Status) (sts : List Statement) :
    entries id status s sts ≤ 1 := by
  induction sts generalizing s with
  | nil => exact Nat.zero_le 1
  | cons st sts ih =>
    rw [entries]
    split
    · next h =>
      have hrest : entries id status (st.apply s) sts = 0 := by
        refine entries_eq_zero ?_ sts
        rw [progress_of_status? h.2]
        exact Nat.lt_succ_self _
      exact Nat.le_of_eq (congrArg (1 + ·) hrest)
    · rw [Nat.zero_add]
      exact ih _

/-- A status that a campaign has come to has been entered. -/
theorem one_le_entries {s : Store} {id : String} {status : Status} {sts : List Statement}
    (hbefore : s.status? id ≠ some status.name)
    (hafter : (s.after sts).status? id = some status.name) : 1 ≤ entries id status s sts := by
  induction sts generalizing s with
  | nil => exact absurd hafter hbefore
  | cons st sts ih =>
    rw [entries]
    by_cases hnext : (st.apply s).status? id = some status.name
    · rw [if_pos ⟨hbefore, hnext⟩]
      exact Nat.le_add_right 1 _
    · exact Nat.le_trans (ih hnext hafter) (Nat.le_add_left _ _)

end Store
end Mailshot
