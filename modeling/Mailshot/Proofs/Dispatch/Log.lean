import Mathlib.Data.List.Nodup
import Mailshot.Proofs.Dispatch.Report

/-!
# What the log says

A worker appends one event when it knows what became of its message, unless the channel breaks down
over the message and takes the worker with it.  So the events of a dispatch are those of the
contacts whose workers were started, one for each, without those whose workers were lost
(`Engine.appended_of_started`); and there is an event for each just if none was lost.
-/

set_option autoImplicit false

namespace Mailshot
namespace Dispatch

/-- The events that are in the log now, in order. -/
def appendedIn (ds : List Deed) : List SendEvent := ds.filterMap Deed.appended?

/-- If no append failed then all events that workers tried to append are in the log. -/
theorem appendedIn_eq_recordedIn {ds : List Deed}
    (h : ∀ event err, .recorded event (.error err) ∉ ds) : appendedIn ds = recordedIn ds := by
  rw [appendedIn, recordedIn]
  refine List.filterMap_congr fun d hd => ?_
  cases d with
  | recorded event answer =>
    cases answer with
    | error err => exact absurd hd (h event err)
    | ok done => rfl
  | _ => rfl

/-- A worker is lost just if a channel broke down. -/
theorem lostIn_eq_nil_iff {ds : List Deed} :
    lostIn ds = [] ↔ ∀ contact email place, .called contact email place .crashed ∉ ds := by
  rw [lostIn, List.filterMap_eq_nil_iff]
  constructor
  · intro h contact email place hd
    cases h _ hd
  · intro h d hd
    cases d with
    | called contact email place attempt =>
      cases attempt with
      | crashed => exact absurd hd (h contact email place)
      | accepted receipt | refused error => rfl
    | _ => rfl

namespace Engine

variable {σ : Type} {e : Engine σ} {campaign : Campaign} {audience : Audience} {tenant : Tenant}
  {ds : List Deed} {ending : Ending}

/-- What is known at the end about the workers that were started, however a dispatch ended. -/
theorem Since.started (h : e.Since campaign audience tenant ds (.ended ending))
    (hids : audience.ids.Nodup) :
    ∃ taken rest, audience.contacts = taken ++ rest ∧
      startedIn ds = taken.filter (!·.email.all blank) ∧
      ((startedIn ds).map (·.id)).Nodup ∧
      ((recordedIn ds).map (·.contact) ++ (lostIn ds).map (·.id)).Perm
        ((startedIn ds).map (·.id)) := by
  cases h with
  | unclaimed | crashed =>
    exact ⟨[], audience.contacts, rfl, rfl, List.nodup_nil, List.Perm.refl _⟩
  | closed hlimit htrail hdrained answer =>
    obtain ⟨taken, rest, haudience, -, hstarted, -, haccounted, -⟩ := htrail.drained hdrained
    exact ⟨taken, rest, haudience, by simpa using hstarted,
      by simpa using htrail.nodup_started hids, by simpa using haccounted⟩

/-- **Every worker that was started leaves one event, unless a channel breaks down.**  The contacts
whose workers are started are those with an address before the stopping point, none twice.  If no
append fails, each of them has one event or had its worker lost with a channel, and nobody else has
an event; so there is one event for each just if no channel broke down. -/
theorem appended_of_started {id : String} {recipients : Recipients}
    (hbefore : e.Path (.loading id recipients) [] (.claiming campaign audience tenant))
    (h : e.Path (.claiming campaign audience tenant) ds (.ended ending))
    (happends : ∀ event err, .recorded event (.error err) ∉ ds) :
    ∃ taken rest, audience.contacts = taken ++ rest ∧
      startedIn ds = taken.filter (!·.email.all blank) ∧
      ((startedIn ds).map (·.id)).Nodup ∧
      ((appendedIn ds).map (·.contact) ++ (lostIn ds).map (·.id)).Perm
        ((startedIn ds).map (·.id)) ∧
      (∀ contact ∈ audience.contacts, contact.id ∈ (appendedIn ds).map (·.contact) →
        contact ∈ startedIn ds) ∧
      (((appendedIn ds).map (·.contact)).Perm ((startedIn ds).map (·.id)) ↔
        ∀ contact email place, .called contact email place .crashed ∉ ds) := by
  have hids : audience.ids.Nodup := hbefore.indexed.nodup_ids
  obtain ⟨taken, rest, haudience, hstarted, hnodup, haccounted⟩ := h.since.started hids
  rw [← appendedIn_eq_recordedIn happends] at haccounted
  refine ⟨taken, rest, haudience, hstarted, hnodup, haccounted, ?_, ?_⟩
  · intro contact hcontact hevent
    have hmem : contact.id ∈ (startedIn ds).map (·.id) :=
      haccounted.subset (List.mem_append_left _ hevent)
    obtain ⟨contact', hcontact', hid⟩ := List.mem_map.1 hmem
    have haudience' : contact' ∈ audience.contacts := by
      rw [hstarted] at hcontact'
      rw [haudience]
      exact List.mem_append_left _ (List.mem_of_mem_filter hcontact')
    rwa [List.inj_on_of_nodup_map hids haudience' hcontact hid] at hcontact'
  · rw [← lostIn_eq_nil_iff]
    constructor
    · intro hperm
      have hlength := haccounted.length_eq
      rw [List.length_append, hperm.length_eq, List.length_map, List.length_map] at hlength
      exact List.length_eq_zero_iff.1 (by omega)
    · intro hlost
      rwa [hlost, List.map_nil, List.append_nil] at haccounted

/-- One contact has an event and the other, which has no address, has none. -/
theorem appended_of_one_started :
    ∃ ds ending, (Sample.engine .console 1).Path (.loading "c" (.list Sample.contacts)) []
        (.claiming Sample.campaign (.ofList Sample.contacts) Sample.tenant) ∧
      (Sample.engine .console 1).Path
        (.claiming Sample.campaign (.ofList Sample.contacts) Sample.tenant) ds (.ended ending) ∧
      (∀ event err, .recorded event (.error err) ∉ ds) ∧
      (startedIn ds).map (·.id) = ["a"] ∧
      ((appendedIn ds).map (·.contact)).Perm ((startedIn ds).map (·.id)) := by
  have hbefore : (Sample.engine .console 1).Path (.loading "c" (.list Sample.contacts)) []
      (.claiming Sample.campaign (.ofList Sample.contacts) Sample.tenant) :=
    path_follow [.dispatcher, .dispatcher] _ Sample.connection
  have hafter := path_follow (e := Sample.engine .console 1)
    [.dispatcher, .dispatcher, .dispatcher, .worker 0, .worker 0, .dispatcher, .dispatcher,
      .dispatcher]
    (.claiming Sample.campaign (.ofList Sample.contacts) Sample.tenant) Sample.connection
  generalize hrun : ((Sample.engine .console 1).follow _ _ _).1 = run at hafter
  have happends : ∀ event err, .recorded event (.error err) ∉ run.1 := by
    intro event err hmem
    have herrors : run.1.filterMap Deed.error? = [] := by
      rw [← hrun]
      rfl
    cases List.filterMap_eq_nil_iff.1 herrors _ hmem
  have hcalls : ∀ contact email place, .called contact email place .crashed ∉ run.1 := by
    rw [← lostIn_eq_nil_iff, ← hrun]
    rfl
  have hending : run.2 = .ended (.answered (.ok ⟨"c", .completed, 2, 1, 0, 1⟩)) := by
    rw [← hrun]
    rfl
  rw [hending] at hafter
  obtain ⟨taken, rest, -, -, -, -, -, hiff⟩ := appended_of_started hbefore hafter happends
  exact ⟨run.1, _, hbefore, hafter, happends, by rw [← hrun]; rfl, hiff.2 hcalls⟩

/-- A channel that breaks down leaves a contact without an event, although no append fails. -/
theorem no_event_after_breakdown :
    ∃ ds, (Sample.engine Sample.broken 1).Path (.loading "c" (.list Sample.contacts)) ds
        (.ended (.answered (.ok ⟨"c", .completed, 2, 0, 1, 1⟩))) ∧
      .asked "c" (.ok true) ∈ ds ∧ (∀ event answer, .recorded event answer ∉ ds) ∧
      (startedIn ds).map (·.id) = ["a"] ∧
      ¬ ((appendedIn ds).map (·.contact)).Perm ((startedIn ds).map (·.id)) := by
  have hpath := path_follow (e := Sample.engine Sample.broken 1)
    [.dispatcher, .dispatcher, .dispatcher, .dispatcher, .dispatcher, .worker 0, .dispatcher,
      .dispatcher, .dispatcher]
    (.loading "c" (.list Sample.contacts)) Sample.connection
  refine ⟨_, hpath, List.mem_cons_self, ?_, rfl, ?_⟩
  · intro event answer hmem
    have hrecorded : event ∈ recordedIn _ := List.mem_filterMap.2 ⟨_, hmem, rfl⟩
    exact absurd hrecorded List.not_mem_nil
  · exact fun hperm => absurd hperm.length_eq (by decide)

end Engine
end Dispatch
end Mailshot
