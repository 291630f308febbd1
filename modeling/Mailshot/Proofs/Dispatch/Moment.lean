import Mailshot.Proofs.Dispatch.Lifetime
import Mailshot.Proofs.Store.Operation

/-!
# A moment that was set

A draft that is set a moment shows it from then on, whatever else is done to the store and whoever
dispatches the campaign: no statement takes back a moment or what was written
(`CampaignRow.Keeps`, `Store.exists_keeps_after`), and a dispatch is nothing but statements
(`Dispatch.Reaches.exists_after`).

The moment is kept as a text, and a text that cannot be read counts as none.  The texts that are not
read back are those of years without exactly four digits, so that such a moment is never seen again,
although the call that set it succeeds.  Any other moment is shown settled, and so as it was set if
its second lasts two at most where a minute ends (`Dispatch.schedule_kept`).
-/

set_option autoImplicit false

namespace Mailshot

/-! ## What statements keep of a campaign -/

/-- What was set and what was written of a campaign stays. -/
structure CampaignRow.Keeps (r r' : CampaignRow) : Prop where
  /-- A moment that was set stays as it was set. -/
  scheduledAt : ∀ text, r.scheduledAt = some text → r'.scheduledAt = some text
  /-- So does what was written. -/
  written : r' = { r with
    status := r'.status, scheduledAt := r'.scheduledAt, cancelRequested := r'.cancelRequested
    updatedAt := r'.updatedAt }

namespace CampaignRow

variable {r r' r'' : CampaignRow}

theorem Keeps.refl (r : CampaignRow) : r.Keeps r := ⟨fun _ h => h, rfl⟩

theorem Keeps.trans (h : r.Keeps r') (h' : r'.Keeps r'') : r.Keeps r'' where
  scheduledAt text htext := h'.scheduledAt text (h.scheduledAt text htext)
  written := by
    rw [h'.written, h.written]

theorem Becomes.keeps (h : r.Becomes r') : r.Keeps r' := ⟨h.scheduledAt, h.written⟩

end CampaignRow

namespace Store

/-- **Statements in a row take nothing back** that was set or written of a campaign. -/
theorem exists_keeps_after {s : Store} (hs : s.Sound) {id : String} {r : CampaignRow}
    (hfind : s.campaigns.find? id = some r) (sts : List Statement) :
    ∃ r', (s.after sts).campaigns.find? id = some r' ∧ r.Keeps r' := by
  induction sts generalizing s r with
  | nil => exact ⟨r, hfind, .refl r⟩
  | cons st sts ih =>
    have hdoes := st.does_apply s
    obtain ⟨r₁, hfind₁, hbecomes⟩ := hdoes.becomes hs hfind
    obtain ⟨r₂, hfind₂, hkeeps⟩ := ih (hdoes.sound hs) hfind₁
    exact ⟨r₂, hfind₂, hbecomes.keeps.trans hkeeps⟩

/-- **A scheduled campaign goes on to show its moment**, and all that was written. -/
theorem load_after {s : Store} (hs : s.Sound) {id : String} {campaign : Campaign}
    (hload : s.load id = .ok campaign) (hscheduled : campaign.status = .scheduled)
    (sts : List Statement) :
    ∃ status requested, (s.after sts).load id =
      .ok { campaign with status := status, cancelRequested := requested } := by
  obtain ⟨r, hfind, hstatus, -⟩ := row_of_load hload
  have hname : r.status = Status.scheduled.name := by
    rw [Status.eq_name_of_ofName? hstatus, hscheduled]
  obtain ⟨text, htext⟩ :=
    Option.isSome_iff_exists.1 ((hs.campaigns.of_find? hfind).1.scheduled hname)
  obtain ⟨r', hfind', hkeeps⟩ := exists_keeps_after hs hfind sts
  obtain ⟨status', hstatus'⟩ := ((hs.after sts).campaigns.of_find? hfind').1.status
  have hsame : r'.scheduledAt = r.scheduledAt := (hkeeps.scheduledAt text htext).trans htext.symm
  refine ⟨status', r'.cancelRequested, ?_⟩
  rw [load_of_row hfind hname] at hload
  cases hload
  rw [load_of_row hfind' hstatus', hkeeps.written, hsame]

/-- A moment is set for a draft, and for nothing else. -/
theorem schedule_eq_ok_iff {s : Store} (hs : s.Sound) (id now : String) (time : Instant) :
    (s.schedule id now time).1 = .ok () ↔ ∃ campaign, s.load id = .ok campaign ∧
      campaign.status = .draft := by
  rcases hs.status?_cases id with hnone | ⟨status, hstatus⟩
  · rw [schedule_of_missing hnone, load_of_status?_eq_none hnone]
    simp
  · obtain ⟨campaign, hload, rfl⟩ := exists_load_of_status? hstatus
    rw [schedule_of_status? hstatus, hload]
    split
    · next hdraft => exact iff_of_true rfl ⟨campaign, rfl, hdraft⟩
    · next hdraft =>
      refine iff_of_false (fun h => by cases h) ?_
      rintro ⟨_, hsame, h⟩
      cases hsame
      exact hdraft h

end Store

namespace Dispatch

variable {σ : Type} {view : σ → Connection} {s₀ : σ} {trace : Trace} {sys : System σ}

/-- **All that dispatches and others do to the store is statements.** -/
theorem Reaches.exists_after (h : Reaches view s₀ trace sys) :
    ∃ sts, (view sys.state).store = (view s₀).store.after sts := by
  induction h with
  | init => exact ⟨[], rfl⟩
  | enter _ _ _ _ ih => exact ih
  | @turn trace sys h i call hcall turn ih =>
    obtain ⟨sts, hsts⟩ := ih
    obtain ⟨done, hdone⟩ := (h.path hcall).1.exists_after turn call.stage sys.state
    exact ⟨sts ++ done, by rw [hdone, hsts, Store.after_append]⟩
  | others _ helse ih =>
    obtain ⟨sts, hsts⟩ := ih
    obtain ⟨done, hdone, -⟩ := helse.exists_after
    exact ⟨sts ++ done, by rw [hdone, hsts, Store.after_append]⟩

/-- **A moment that is set is kept.**  It is set for a draft and for nothing else.  Then the row of
the campaign shows it, settled, notes the time, and is otherwise as it was, and every other row is
as it was; and whatever dispatches and others do from then on, the campaign shows the same moment.
If its year is not written with four digits, it shows none. -/
theorem schedule_kept {s : Store} (hs : s.Reached) (id now : String) (time : Instant) :
    ((Connection.schedule id now time (.ofStore s)).1 = .ok () ↔
        ∃ campaign, s.load id = .ok campaign ∧ campaign.status = .draft) ∧
      ∀ campaign, s.load id = .ok campaign → campaign.status = .draft →
        ∃ s', Connection.schedule id now time (.ofStore s) = (.ok (), .ofStore s') ∧
          s'.load id = .ok { campaign with
            status := .scheduled
            scheduledAt := if time.HasPlainYear then some time.settled else none } ∧
          (Store.Operation.schedule id now time).Writes s s' ∧
          ∀ {σ : Type} {view : σ → Connection} {s₀ : σ} {trace : Trace} {sys : System σ},
            (view s₀).store = s' → Reaches view s₀ trace sys →
              ∃ status requested, (view sys.state).store.load id = .ok { campaign with
                status := status
                scheduledAt := if time.HasPlainYear then some time.settled else none
                cancelRequested := requested } := by
  refine ⟨Store.schedule_eq_ok_iff hs.sound id now time, fun campaign hload hdraft => ?_⟩
  have hstatus : s.status? id = some Status.draft.name := by
    rw [Store.status?_of_load hload, hdraft]
  have hschedule : s.schedule id now time = (.ok (), (s.markScheduled id now time).2) := by
    rw [Store.schedule_of_status? hstatus, if_pos rfl]
  obtain ⟨_, hload', -, hshown⟩ := Callers.setsMoment_markScheduled hstatus now time
  cases hload.symm.trans hload'
  have hwrites : (Store.Operation.schedule id now time).Writes s (s.markScheduled id now time).2 :=
    Store.Operation.writes_setWhere rfl (fun _ => rfl)
      ((s.markScheduled_fst id now time).2 hstatus)
  have hsound : (s.markScheduled id now time).2.Sound :=
    (Store.Statement.does_apply s (.markScheduled id now time)).sound hs.sound
  refine ⟨_, ?_, hshown, hwrites, fun {σ view s₀ trace sys} hstart hreaches => ?_⟩
  · show ((s.schedule id now time).1, Connection.ofStore (s.schedule id now time).2) = _
    rw [hschedule]
  · obtain ⟨sts, hsts⟩ := hreaches.exists_after
    rw [hsts, hstart]
    exact Store.load_after hsound hshown rfl sts

namespace Sample

/-- The draft comes about by statements. -/
theorem reached_connection : connection.store.Reached := by
  have hmade : connection.store = Store.empty.after making := by decide
  rw [hmade]
  exact Store.later_after Store.empty making

end Sample

/-- A draft that was set a moment and was sent still shows the moment. -/
theorem schedule_kept_through_dispatch :
    ∃ s' trace sys,
      Connection.schedule "c" Sample.now .start2024 Sample.connection = (.ok (), .ofStore s') ∧
      Reaches id (Connection.ofStore s') trace sys ∧
      sys.state.store.status? "c" = some Status.completed.name ∧
      ∃ campaign, sys.state.store.load "c" = .ok campaign ∧
        campaign.scheduledAt = some .start2024 := by
  obtain ⟨-, hset⟩ := schedule_kept Sample.reached_connection "c" Sample.now .start2024
  obtain ⟨s', hschedule, -, -, hkept⟩ := hset Sample.campaign rfl rfl
  have hstart : Reaches id (Connection.ofStore s') [] ⟨.ofStore s', []⟩ := .init
  have hreaches := (hstart.enter (Sample.lawful_engine 1) "c" (.list Sample.contacts)).play
    Sample.throughout
  generalize hplay : System.play _ _ = played at hreaches
  obtain ⟨status, requested, hload⟩ := hkept rfl hreaches
  have hplain : Instant.start2024.HasPlainYear := by decide
  rw [if_pos hplain] at hload
  refine ⟨s', _, _, hschedule, hreaches, ?_, _, hload, rfl⟩
  rw [← hplay]
  cases hschedule
  rfl

/-- The last second of the year 9999 on a clock that is an hour slow is set for a draft, and is not
shown. -/
theorem schedule_not_shown_in_year_10000 :
    ∃ s', Connection.schedule "c" Sample.now .year10000 Sample.connection =
        (.ok (), .ofStore s') ∧
      ∃ campaign, s'.load "c" = .ok campaign ∧ campaign.status = .scheduled ∧
        campaign.scheduledAt = none := by
  have hdraft : Sample.connection.store.status? "c" = some Status.draft.name := rfl
  obtain ⟨campaign, -, -, hload⟩ := Callers.setsMoment_markScheduled hdraft Sample.now .year10000
  have hyear : ¬ Instant.year10000.HasPlainYear := by decide
  rw [if_neg hyear] at hload
  exact ⟨_, rfl, _, hload, rfl, rfl⟩

end Dispatch
end Mailshot
