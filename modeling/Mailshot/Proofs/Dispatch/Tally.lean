import Mailshot.Proofs.Dispatch.Log
import Mailshot.Proofs.Store.EventLog

/-!
# The numbers of a report and the events

The report counts messages where they are settled, and events are recorded later, by whoever settled
the message.  In between a worker holds an event that is counted and not recorded yet, so the
invariant that ties the two together (`Run.Tallied`) is about the events that were recorded and
those that are held: each is counted once, by its kind.  A worker that is lost holds nothing and
leaves no event.

At the end nobody holds an event any more.  So the number of messages that were sent is the number
of events that say so, and those that failed are one for each event that says so and one for each
worker that was lost (`Engine.Path.stats_report`).
-/

set_option autoImplicit false

namespace Mailshot

namespace Dispatch

/-! ## What workers hold -/

/-- The event that a worker is about to record. -/
@[simp] def Worker.event? : Worker → Option SendEvent
  | .calling _ _ _ => none
  | .recording event => some event

/-- The events that are about to be recorded. -/
def held (workers : List Worker) : List SendEvent := workers.filterMap Worker.event?

/-- The event of one worker, and those of the others. -/
theorem held_perm {workers : List Worker} {i : Nat} {w : Worker} (h : workers[i]? = some w) :
    (held workers).Perm (w.event?.toList ++ held (workers.eraseIdx i)) := by
  rw [held, held, ← filterMap_cons_eq]
  exact (perm_cons_eraseIdx h).filterMap _

/-- A worker that held nothing has become another. -/
theorem held_set_perm {workers : List Worker} {i : Nat} {w : Worker} (h : workers[i]? = some w)
    (hw : w.event? = none) (w' : Worker) :
    (held (workers.set i w')).Perm (held workers ++ w'.event?.toList) := by
  have hrest := held_perm h
  rw [hw, Option.toList_none, List.nil_append] at hrest
  refine List.Perm.trans ?_ (List.perm_append_comm.trans (hrest.symm.append_right _))
  rw [held, held, ← filterMap_cons_eq]
  exact (set_perm_cons_eraseIdx h w').filterMap _

/-! ## The numbers -/

/-- How many messages were taken so far, and how many were given up. -/
def Run.stats (r : Run) : DeliveryStats := ⟨r.sent, r.failed⟩

/-- Whatever is counted can be told from the events, those that were recorded and those that are
about to be, and from the workers that were lost. -/
structure Run.Tallied (ds : List Deed) (r : Run) : Prop where
  /-- A message that is settled has an event. -/
  stats : r.stats = tally (recordedIn ds ++ held r.workers)
  /-- A channel broke down over each of the others. -/
  lost : r.lost = (lostIn ds).length

/-- What is counted in a step comes up as an event that is held. -/
theorem Run.Tallied.append {ds : List Deed} {r r' : Run} {d : Option Deed} (h : r.Tallied ds)
    (new : List SendEvent)
    (hheld : (recordedIn d.toList ++ held r'.workers).Perm (held r.workers ++ new))
    (hstats : r'.stats = r.stats + tally new)
    (hlost : r'.lost = r.lost + (lostIn d.toList).length) : r'.Tallied (ds ++ d.toList) := by
  constructor
  · rw [hstats, h.stats, ← tally_append, recordedIn_append, List.append_assoc, List.append_assoc]
    exact tally_eq_of_perm (hheld.symm.append_left _)
  · rw [hlost, h.lost, lostIn_append, List.length_append]

/-- **Whatever a step can come to is counted as the events say.** -/
theorem Run.Tallied.goes {limit : Nat} {ds : List Deed} {r r' : Run} {d : Option Deed}
    (h : r.Tallied ds) (hgoes : r.Goes limit d r') : r'.Tallied (ds ++ d.toList) := by
  cases hgoes with
  | pass | ready | stop => exact h.append [] (.of_eq (List.append_nil _).symm) rfl rfl
  | start hnext => exact h.append [] (.of_eq List.filterMap_append) rfl rfl
  | retry hworker => exact h.append [] (held_set_perm hworker rfl (.calling _ _ _)) rfl rfl
  | accept | refuse | lack =>
    next hworker => exact h.append [_] (held_set_perm hworker rfl (.recording _)) rfl rfl
  | lose hworker | record answer hworker =>
    refine h.append [] ?_ rfl rfl
    rw [List.append_nil]
    exact (held_perm hworker).symm

theorem Run.Trail.tallied {σ : Type} {e : Engine σ} {campaign : Campaign} {audience : Audience}
    {tenant : Tenant} {limit : Nat} {ds : List Deed} {r : Run}
    (h : (e.opening campaign audience tenant).Trail limit ds r) : r.Tallied ds := by
  induction h with
  | refl => exact ⟨rfl, rfl⟩
  | step _ hgoes ih => exact ih.goes hgoes

/-! ## At the end -/

/-- How many messages were sent according to a report, and how many failed. -/
def Report.stats (report : Report) : DeliveryStats := ⟨report.sent, report.failed⟩

namespace Engine

variable {σ : Type} {e : Engine σ} {ds : List Deed} {ending : Ending} {report : Report}

/-- A dispatch that asked for its campaign counts what its events say, and the workers that were
lost. -/
theorem Since.stats_report {campaign : Campaign} {audience : Audience} {tenant : Tenant}
    (h : e.Since campaign audience tenant ds (.ended ending))
    (hreport : ending.report? = some report) :
    report.stats = tally (recordedIn ds) + ⟨0, (lostIn ds).length⟩ := by
  cases h with
  | @unclaimed answer =>
    cases answer <;> cases hreport
  | crashed => cases hreport
  | @closed ds r hlimit htrail hdrained answer =>
    obtain rfl := Option.some.inj ((Ending.report?_closing _ _).symm.trans hreport)
    obtain ⟨-, -, hworkers⟩ := hdrained
    have hstats := htrail.tallied.stats
    rw [hworkers, held, List.filterMap_nil, List.append_nil] at hstats
    have hrecorded : recordedIn (.asked campaign.id (.ok true) ::
        (ds ++ [.completed r.job.campaign.id answer])) = recordedIn ds := by simp
    have hlost : lostIn (.asked campaign.id (.ok true) ::
        (ds ++ [.completed r.job.campaign.id answer])) = lostIn ds := by simp
    rw [hrecorded, hlost, ← hstats, ← htrail.tallied.lost]
    rfl

/-- **What a report says of the messages can be told from what was done**: those that were sent have
an event that says so, and those that failed have one or lost their worker. -/
theorem Path.stats_report {id : String} {recipients : Recipients}
    (h : e.Path (.loading id recipients) ds (.ended ending))
    (hreport : ending.report? = some report) :
    report.stats = tally (recordedIn ds) + ⟨0, (lostIn ds).length⟩ := by
  rcases h.through_claiming with ⟨rfl, hearly⟩ | ⟨_, _, _, -, -, -, hafter⟩
  · -- what ends before the claim has no report, or one on a campaign that cannot be sent
    cases ending with
    | crashed => cases hreport
    | answered r =>
      cases r with
      | error err =>
        have herr : err.isEarly = true := hearly
        cases err with
        | finalize => cases herr
        | _ => cases hreport
      | ok report' =>
        obtain ⟨status, -, rfl⟩ := hearly
        cases hreport
        rfl
  · exact hafter.since.stats_report hreport

end Engine
end Dispatch
end Mailshot
