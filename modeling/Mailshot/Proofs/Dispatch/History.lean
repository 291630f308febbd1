import Mailshot.Proofs.Dispatch.Owner
import Mailshot.Proofs.Dispatch.Tally

/-!
# What the log makes of a history

A store is empty at first.  Then statements are carried out, events are appended, and dispatches
come in and have their turns, in any order.  `History` keeps what the dispatches did and what others
appended in one list, so that the events that were appended (`History.log`) and their order are
known without looking into the store.  `History.Later` is the course of time.

* What is added to the list in the course of time is added to the log of the store, row by row, and
  nothing else happens to that log (`Later.exists_since`).  So whoever reads the log reads what was
  appended.
* Each dispatch is on a path of its own and signs its events in the name of the owner of its
  campaign (`History.Kept`), whatever others do in between.  So the numbers of a tenant are raised
  by a dispatch as its report says.

Both come together in `History.Reached.log_faithful`.
-/

set_option autoImplicit false

namespace Mailshot
namespace Dispatch

open Store (Statement rowOfEvent)

variable {σ : Type} {view : σ → Connection}

/-- The events of a lawful dispatch go to the log of the store. -/
structure Engine.Logs (view : σ → Connection) (e : Engine σ) : Prop where
  lawful : e.Lawful view
  record : ∀ event, Acts view (e.record event) (Connection.append event)

/-- A lawful dispatch that works with a connection records its events there. -/
theorem Engine.Lawful.logs_ofStore {now : Connection → String} {failover : Failover Connection}
    {clock : StateM Connection Instant} {concurrency : Nat} {defaultSender : Option String}
    (h : (Engine.ofStore now failover clock concurrency defaultSender).Lawful id) :
    (Engine.ofStore now failover clock concurrency defaultSender).Logs id :=
  ⟨h, fun _ _ => rfl⟩

/-- What dispatches did and others appended, and what came of it. -/
structure History (σ : Type) where
  /-- What was done, in order, each deed with the place of the call that did it.  Of what others did
  the appends are listed, without a place. -/
  done : List (Option Nat × Deed)
  /-- The state and the calls. -/
  sys : System σ

namespace History

/-! ## What was done -/

/-- The events that were appended, in order. -/
def logIn (done : List (Option Nat × Deed)) : List SendEvent :=
  done.filterMap fun p => p.2.appended?

/-- What calls did. -/
def traceIn (done : List (Option Nat × Deed)) : Trace :=
  done.filterMap fun p => p.1.map fun i => (i, p.2)

/-- What was done by others than the call in a place. -/
def apartFrom (i : Nat) (done : List (Option Nat × Deed)) : List (Option Nat × Deed) :=
  done.filter (·.1 ≠ some i)

/-- What a call did. -/
def doneAs (i : Nat) (ds : List Deed) : List (Option Nat × Deed) := ds.map fun d => (some i, d)

/-- Others appended some events. -/
def appends (events : List SendEvent) : List (Option Nat × Deed) :=
  events.map fun event => (none, .recorded event (.ok ()))

theorem logIn_append (l l' : List (Option Nat × Deed)) : logIn (l ++ l') = logIn l ++ logIn l' :=
  List.filterMap_append

theorem traceIn_append (l l' : List (Option Nat × Deed)) :
    traceIn (l ++ l') = traceIn l ++ traceIn l' := List.filterMap_append

theorem logIn_doneAs (i : Nat) (ds : List Deed) : logIn (doneAs i ds) = appendedIn ds :=
  List.filterMap_map

theorem logIn_appends (events : List SendEvent) : logIn (appends events) = events := by
  rw [logIn, appends, List.filterMap_map]
  exact List.filterMap_some

theorem traceIn_doneAs (i : Nat) (ds : List Deed) :
    traceIn (doneAs i ds) = ds.map fun d => (i, d) := by
  rw [traceIn, doneAs, List.filterMap_map]
  exact congrFun List.filterMap_eq_map' ds

theorem traceIn_appends (events : List SendEvent) : traceIn (appends events) = [] := by
  rw [traceIn, appends, List.filterMap_map]
  exact List.filterMap_none events

/-- The deeds of one call. -/
theorem doneBy_traceIn (i : Nat) (l : List (Option Nat × Deed)) :
    doneBy i (traceIn l) = (l.filter (·.1 = some i)).map (·.2) := by
  induction l with
  | nil => rfl
  | cons p l ih =>
    obtain ⟨author, d⟩ := p
    have hcons : traceIn ((author, d) :: l) = (author.map (·, d)).toList ++ traceIn l :=
      filterMap_cons_eq _ _ l
    rw [hcons, doneBy_append, ih]
    cases author with
    | none => rfl
    | some j =>
      by_cases hj : j = i <;> simp [doneBy, hj]

/-- The events of others, and those of one call. -/
theorem logIn_perm (i : Nat) (l : List (Option Nat × Deed)) :
    (logIn l).Perm (logIn (apartFrom i l) ++ appendedIn (doneBy i (traceIn l))) := by
  have hown : appendedIn (doneBy i (traceIn l)) =
      logIn (l.filter fun p => !decide (p.1 ≠ some i)) := by
    rw [doneBy_traceIn, appendedIn, List.filterMap_map, logIn]
    simp only [ne_eq, decide_not, Bool.not_not]
    rfl
  rw [hown, apartFrom, ← logIn_append]
  exact (List.filter_append_perm _ l).symm.filterMap _

/-! ## The course of time -/

/-- The store. -/
def store (view : σ → Connection) (h : History σ) : Store := (view h.sys.state).store

/-- The events that were appended, in order. -/
def log (h : History σ) : List SendEvent := logIn h.done

/-- What calls did. -/
def trace (h : History σ) : Trace := traceIn h.done

/-- A dispatch comes in. -/
def enter (h : History σ) (engine : Engine σ) (id : String) (recipients : Recipients) :
    History σ where
  done := h.done
  sys := { h.sys with calls := h.sys.calls ++ [⟨engine, id, recipients, .loading id recipients⟩] }

/-- The call in a place has a turn, in which others append some events. -/
def turn (h : History σ) (i : Nat) (call : Call σ) (turn : Engine.Turn) (others : List SendEvent) :
    History σ where
  done := h.done ++
    (doneAs i (call.engine.deed turn call.stage h.sys.state).toList ++ appends others)
  sys := {
    state := (call.engine.step turn call.stage h.sys.state).2
    calls := h.sys.calls.set i
      { call with stage := (call.engine.step turn call.stage h.sys.state).1 } }

/-- What may happen next. -/
inductive Step (view : σ → Connection) (h : History σ) : History σ → Prop
  /-- A dispatch comes in. -/
  | enter {engine : Engine σ} (hlogs : engine.Logs view) (id : String) (recipients : Recipients) :
      Step view h (h.enter engine id recipients)
  /-- A dispatch has a turn, in which some statements are carried out.  Its own event is the first
  that is appended by them. -/
  | turn {i : Nat} {call : Call σ} (hcall : h.sys.calls[i]? = some call) (turn : Engine.Turn)
      {others : List SendEvent} {sts : List Statement}
      (hsts : (h.turn i call turn others).store view = (h.store view).after sts)
      (hevents : sts.filterMap Statement.event? =
        appendedIn (call.engine.deed turn call.stage h.sys.state).toList ++ others) :
      Step view h (h.turn i call turn others)
  /-- Somebody appends an event, and gets this answer. -/
  | append (event : SendEvent) {s : σ} {answer : Except CampaignError Unit}
      (happend : Connection.append event (view h.sys.state) = (answer, view s)) :
      Step view h
        { done := h.done ++ [(none, .recorded event answer)], sys := { h.sys with state := s } }
  /-- Anybody carries out some other statements. -/
  | others (sts : List Statement) {s : σ} (hsts : (view s).store = (h.store view).after sts)
      (hquiet : ∀ st ∈ sts, st.event? = none) :
      Step view h { h with sys := { h.sys with state := s } }

/-- What may come of a history. -/
def Later (view : σ → Connection) : History σ → History σ → Prop :=
  Relation.ReflTransGen (Step view)

/-- What may come of a store in which nothing is stored. -/
def Reached (view : σ → Connection) (h : History σ) : Prop :=
  ∃ s, (view s).store = .empty ∧ Later view ⟨[], ⟨s, []⟩⟩ h

/-! ## What the log gains -/

/-- Appending over a connection is a statement, or is refused. -/
theorem append_cases {c c' : Connection} {event : SendEvent} {answer : Except CampaignError Unit}
    (h : Connection.append event c = (answer, c')) :
    (answer = .ok () ∧ c'.store = c.store.append event) ∨
      (∃ err, answer = .error err) ∧ c' = c := by
  rw [Connection.append, Connection.change, Connection.call] at h
  split at h
  · cases h
    exact .inl ⟨rfl, rfl⟩
  · cases h
    exact .inr ⟨⟨_, rfl⟩, rfl⟩

/-- **What happens in a step** to the store are some statements, and those that append an event are
listed. -/
theorem Step.exists_since {h h' : History σ} (hstep : Step view h h') :
    ∃ since sts, h'.done = h.done ++ since ∧ h'.store view = (h.store view).after sts ∧
      sts.filterMap Statement.event? = logIn since := by
  cases hstep with
  | enter => exact ⟨[], [], (List.append_nil _).symm, rfl, rfl⟩
  | turn hcall turn hsts hevents =>
    exact ⟨_, _, rfl, hsts, by rw [hevents, logIn_append, logIn_doneAs, logIn_appends]⟩
  | @append event s answer happend =>
    refine ⟨[(none, .recorded event answer)], ?_⟩
    rcases append_cases happend with ⟨rfl, hstore⟩ | ⟨⟨err, rfl⟩, hsame⟩
    · exact ⟨[.append event], rfl, hstore, rfl⟩
    · exact ⟨[], rfl, congrArg Connection.store hsame, rfl⟩
  | others sts hsts hquiet =>
    exact ⟨[], sts, (List.append_nil _).symm, hsts, List.filterMap_eq_nil_iff.2 hquiet⟩

/-- **What happens in the course of time** to the store are some statements, and those that append
an event are listed. -/
theorem Later.exists_since {h h' : History σ} (hlater : Later view h h') :
    ∃ since sts, h'.done = h.done ++ since ∧ h'.store view = (h.store view).after sts ∧
      sts.filterMap Statement.event? = logIn since := by
  induction hlater with
  | refl => exact ⟨[], [], (List.append_nil _).symm, rfl, rfl⟩
  | tail _ hstep ih =>
    obtain ⟨since, sts, hdone, hstore, hevents⟩ := ih
    obtain ⟨since', sts', hdone', hstore', hevents'⟩ := hstep.exists_since
    refine ⟨since ++ since', sts ++ sts', ?_, ?_, ?_⟩
    · rw [hdone', hdone, List.append_assoc]
    · rw [hstore', hstore, Store.after_append]
    · rw [List.filterMap_append, hevents, hevents', logIn_append]

/-! ## Turns can be had -/

/-- In a turn some statements are carried out, and its own event is the first that is appended. -/
theorem exists_statements {e : Engine σ} (hlogs : e.Logs view) (turn : Engine.Turn) (stage : Stage)
    (s : σ) : ∃ sts others, (view (e.step turn stage s).2).store = (view s).store.after sts ∧
      sts.filterMap Statement.event? = appendedIn (e.deed turn stage s).toList ++ others := by
  have hafter := hlogs.lawful.keeping.after_step turn stage s
  generalize e.deed turn stage s = d at hafter ⊢
  generalize (e.step turn stage s).2 = s' at hafter ⊢
  cases hafter with
  | asked id =>
    obtain ⟨now, hacts⟩ := hlogs.lawful.claim id s
    rcases Connection.claim_cases hacts with ⟨-, -, hstore⟩ | ⟨-, hsame⟩
    · exact ⟨[.claim id now], [], hstore, rfl⟩
    · exact ⟨[], [], congrArg Connection.store hsame, rfl⟩
  | completed id =>
    obtain ⟨now, hacts⟩ := hlogs.lawful.complete id s
    rcases Connection.complete_cases hacts with ⟨-, -, hstore⟩ | ⟨_, -, hsame, -⟩
    · exact ⟨[.markCompleted id now], [], hstore, rfl⟩
    · exact ⟨[], [], congrArg Connection.store hsame, rfl⟩
  | recorded event =>
    rcases append_cases (hlogs.record event s) with ⟨hanswer, hstore⟩ | ⟨⟨err, hanswer⟩, hsame⟩
    · exact ⟨[.append event], [], hstore, by rw [hanswer]; rfl⟩
    · exact ⟨[], [], congrArg Connection.store hsame, by rw [hanswer]; rfl⟩
  | other hd helse =>
    obtain ⟨sts, hsts, -⟩ := helse.exists_after
    refine ⟨sts, sts.filterMap Statement.event?, hsts, ?_⟩
    have hnone : appendedIn d.toList = [] := by
      refine List.filterMap_eq_nil_iff.2 fun deed hdeed => ?_
      have hcommit := hd deed (Option.mem_toList.1 hdeed)
      cases deed <;> first | rfl | cases hcommit
    rw [hnone, List.nil_append]

theorem trace_turn (h : History σ) (i : Nat) (call : Call σ) (turn : Engine.Turn)
    (others : List SendEvent) : (h.turn i call turn others).trace =
      h.trace ++ (call.engine.deed turn call.stage h.sys.state).toList.map fun d => (i, d) := by
  rw [trace, History.turn, traceIn_append, traceIn_append, traceIn_doneAs, traceIn_appends,
    List.append_nil]
  rfl

/-- **Turns may be had as they are listed.** -/
theorem Later.exists_play {h₀ h : History σ} (hlater : Later view h₀ h)
    (hlogs : ∀ call ∈ h.sys.calls, call.engine.Logs view) (turns : List (Nat × Engine.Turn)) :
    ∃ h', Later view h₀ h' ∧ h'.sys = (h.sys.play turns).2 ∧
      h'.trace = h.trace ++ (h.sys.play turns).1 := by
  induction turns generalizing h with
  | nil => exact ⟨h, hlater, rfl, (List.append_nil _).symm⟩
  | cons p rest ih =>
    obtain ⟨i, turn⟩ := p
    rw [System.play, System.turn]
    cases hcall : h.sys.calls[i]? with
    | none => exact ih hlater hlogs
    | some call =>
      have hcallLogs := hlogs call (List.mem_of_getElem? hcall)
      obtain ⟨sts, others, hsts, hevents⟩ :=
        exists_statements hcallLogs turn call.stage h.sys.state
      have hstep : Step view h (h.turn i call turn others) := .turn hcall turn hsts hevents
      obtain ⟨h', hlater', hsys, htrace⟩ := ih (hlater.tail hstep) fun call' hcall' => by
        rcases List.mem_or_eq_of_mem_set hcall' with hcall' | rfl
        · exact hlogs call' hcall'
        · exact hcallLogs
      refine ⟨h', hlater', hsys, ?_⟩
      rw [htrace, trace_turn, List.append_assoc]
      rfl

/-! ## What holds of each dispatch -/

/-- What holds at any time: what is stored makes sense, each dispatch is on a path of its own, and
it signs its events in the name of the owner of its campaign. -/
structure Kept (view : σ → Connection) (h : History σ) : Prop where
  /-- What is stored makes sense. -/
  sound : (h.store view).Sound
  /-- Each dispatch is on a path of its own. -/
  paths : h.sys.Paths (·.Logs view) h.trace
  /-- It goes on in the name of the owner. -/
  owned : ∀ (i : Nat) (call : Call σ), h.sys.calls[i]? = some call →
    call.stage.Owned (h.store view) call.id
  /-- Its events are signed by the owner. -/
  signed : ∀ (i : Nat) (call : Call σ), h.sys.calls[i]? = some call →
    ∀ event ∈ recordedIn (doneBy i h.trace), (h.store view).ownerOf? call.id = some event.tenant

/-- Others leave it so, whatever statements they carry out. -/
theorem Kept.frame {h h' : History σ} (hkept : h.Kept view) {sts : List Statement}
    (hsts : h'.store view = (h.store view).after sts) (hcalls : h'.sys.calls = h.sys.calls)
    (htrace : h'.trace = h.trace) : h'.Kept view where
  sound := by
    rw [hsts]
    exact hkept.sound.after sts
  paths := by
    rw [htrace]
    exact ⟨by rw [hcalls]; exact hkept.paths.known, by rw [hcalls]; exact hkept.paths.path⟩
  owned i call hcall := by
    rw [hsts]
    exact (hkept.owned i call (hcalls ▸ hcall)).after hkept.sound sts
  signed i call hcall event hevent := by
    rw [hsts]
    exact Store.ownerOf?_after hkept.sound
      (hkept.signed i call (hcalls ▸ hcall) event (htrace ▸ hevent)) sts

/-- It is so of a dispatch that comes in. -/
theorem Kept.enter {h : History σ} (hkept : h.Kept view) {engine : Engine σ}
    (hlogs : engine.Logs view) (id : String) (recipients : Recipients) :
    (h.enter engine id recipients).Kept view where
  sound := hkept.sound
  paths := hkept.paths.enter hlogs id recipients
  owned i call hcall := by
    rcases getElem?_concat_cases hcall with hcall | ⟨-, rfl⟩
    · exact hkept.owned i call hcall
    · rfl
  signed i call hcall event hevent := by
    rcases getElem?_concat_cases hcall with hcall | ⟨hge, -⟩
    · exact hkept.signed i call hcall event hevent
    · have hnone : recordedIn (doneBy i h.trace) = [] := by
        rw [hkept.paths.doneBy_eq_nil (Nat.le_of_not_lt hge)]
        rfl
      exact absurd (hnone ▸ hevent) List.not_mem_nil

/-- It is so of a dispatch that has a turn. -/
theorem Kept.turn {h : History σ} (hkept : h.Kept view) {i : Nat} {call : Call σ}
    (hcall : h.sys.calls[i]? = some call) (turn : Engine.Turn) {others : List SendEvent}
    {sts : List Statement}
    (hsts : (h.turn i call turn others).store view = (h.store view).after sts) :
    (h.turn i call turn others).Kept view where
  sound := by
    rw [hsts]
    exact hkept.sound.after sts
  paths := by
    rw [trace_turn]
    exact hkept.paths.turn hcall turn
  owned j other hother := by
    rcases getElem?_set_cases hother with ⟨rfl, rfl⟩ | ⟨-, hother⟩
    · exact (hkept.paths.path i call hcall).1.lawful.owned_step turn hkept.sound
        (hkept.owned i call hcall)
    · rw [hsts]
      exact (hkept.owned j other hother).after hkept.sound sts
  signed j other hother event hevent := by
    rw [hsts]
    refine Store.ownerOf?_after hkept.sound ?_ sts
    rw [trace_turn, doneBy_append, doneBy_map, recordedIn_append] at hevent
    rcases getElem?_set_cases hother with ⟨rfl, rfl⟩ | ⟨hij, hother⟩
    · rcases List.mem_append.1 hevent with hevent | hevent
      · exact hkept.signed i call hcall event hevent
      · rw [if_pos rfl] at hevent
        obtain ⟨d, hd, hrecorded⟩ := List.mem_filterMap.1 hevent
        cases d with
        | recorded event' answer =>
          cases hrecorded
          exact (hkept.paths.path i call hcall).2.owner_of_recorded (hkept.owned i call hcall)
            (Option.mem_toList.1 hd)
        | _ => cases hrecorded
    · rw [if_neg hij, recordedIn_nil, List.append_nil] at hevent
      exact hkept.signed j other hother event hevent

/-- **Whatever happens next, it stays so.** -/
theorem Kept.step {h h' : History σ} (hkept : h.Kept view) (hstep : Step view h h') :
    h'.Kept view := by
  obtain ⟨-, sts, -, hstore, -⟩ := hstep.exists_since
  cases hstep with
  | enter hlogs id recipients => exact hkept.enter hlogs id recipients
  | turn hcall turn hsts => exact hkept.turn hcall turn hsts
  | append event happend =>
    refine hkept.frame hstore rfl ?_
    rw [trace, traceIn_append]
    exact List.append_nil _
  | others => exact hkept.frame hstore rfl rfl

/-- **It is so at any time.** -/
theorem Reached.kept {h : History σ} (hreached : h.Reached view) : h.Kept view := by
  obtain ⟨s, hempty, hlater⟩ := hreached
  induction hlater with
  | refl =>
    constructor
    · show (view s).store.Sound
      rw [hempty]
      exact Store.sound_empty
    · exact ⟨fun _ hp => absurd hp List.not_mem_nil, fun _ _ hcall => by cases hcall⟩
    · exact fun _ _ hcall => by cases hcall
    · exact fun _ _ hcall => by cases hcall
  | tail _ hstep ih => exact ih.step hstep

/-- The log of the store has a row for each event that was appended. -/
theorem Reached.events_eq {h : History σ} (hreached : h.Reached view) :
    (h.store view).events = h.log.map rowOfEvent := by
  obtain ⟨s, hempty, hlater⟩ := hreached
  obtain ⟨since, sts, hdone, hstore, hevents⟩ := hlater.exists_since
  have hstart : (History.mk [] ⟨s, []⟩).store view = .empty := hempty
  rw [hstore, hstart, Store.events_after, hevents, log, hdone]
  rfl

theorem Reached.later {h h' : History σ} (hreached : h.Reached view) (hlater : Later view h h') :
    h'.Reached view := by
  obtain ⟨s, hempty, hbefore⟩ := hreached
  exact ⟨s, hempty, hbefore.trans hlater⟩

/-! ## What a dispatch makes of the numbers -/

/-- Events of one tenant count for this tenant and for nobody else. -/
theorem tally_filter_of_owner {events : List SendEvent} {owner : Option String}
    (h : ∀ event ∈ events, owner = some event.tenant) (tenant : String) :
    tally (events.filter (·.tenant = tenant)) =
      if owner = some tenant then tally events else 0 := by
  split
  · next howner =>
    rw [List.filter_eq_self.2 fun event hevent => ?_]
    exact decide_eq_true (Option.some.inj ((h event hevent).symm.trans howner))
  · next howner =>
    rw [List.filter_eq_nil_iff.2 fun event hevent heq => howner ?_, tally_nil]
    rw [h event hevent, of_decide_eq_true heq]

/-- A dispatch in which no channel broke down and no append failed has the events that its report
says, all of them signed by the owner of its campaign. -/
theorem Kept.stats_report {h : History σ} (hkept : h.Kept view) {i : Nat} {call : Call σ}
    {ending : Ending} {report : Report} (hcall : h.sys.calls[i]? = some call)
    (hover : call.stage = .ended ending) (hreport : ending.report? = some report)
    (hsends : ∀ contact email place, .called contact email place .crashed ∉ doneBy i h.trace)
    (happends : ∀ event err, .recorded event (.error err) ∉ doneBy i h.trace) (tenant : String) :
    tally ((appendedIn (doneBy i h.trace)).filter (·.tenant = tenant)) =
      if (h.store view).ownerOf? call.id = some tenant then report.stats else 0 := by
  have hpath := (hkept.paths.path i call hcall).2
  rw [hover] at hpath
  have hstats := hpath.stats_report hreport
  rw [lostIn_eq_nil_iff.2 hsends] at hstats
  rw [appendedIn_eq_recordedIn happends, tally_filter_of_owner (hkept.signed i call hcall), hstats]
  rfl

/-- The events of a campaign are settled just if their times are. -/
theorem map_settled_filter_eq_iff {events : List SendEvent} {campaign : String} :
    (events.filter (·.campaign = campaign)).map SendEvent.settled =
        events.filter (·.campaign = campaign) ↔
      ∀ event ∈ events, event.campaign = campaign → event.time.IsSettled := by
  conv_lhs => rhs; rw [← List.map_id (events.filter _)]
  rw [List.map_inj_left]
  simp only [List.mem_filter, decide_eq_true_iff, and_imp, id_eq, SendEvent.settled_eq_iff]

/-- **The log says what was appended, and nothing of it is lost.**  At any time in the history of a
store, the events of a campaign are read as they were appended, in order, if they come back from
their rows.  Their times are settled then, so that they lie as far behind the beginning of the year
0, and are the same just if they were settled before.  The numbers of a tenant are those of its
events; and events can be neither changed nor removed.  Later the log has the same rows, and behind
them those of the events that were appended since.  A dispatch that has come since then and ended
with a report raised the numbers of the owner of its campaign by those of its report, if no channel
broke down in it and none of its appends failed; all else by which numbers were raised was appended
by others. -/
theorem Reached.log_faithful {h : History σ} (hreached : h.Reached view) :
    (∀ campaign, (∀ event ∈ h.log, event.campaign = campaign → event.ReadsBack) →
      (h.store view).eventsOf campaign =
          .ok ((h.log.filter (·.campaign = campaign)).map SendEvent.settled) ∧
        ((h.store view).eventsOf campaign = .ok (h.log.filter (·.campaign = campaign)) ↔
          ∀ event ∈ h.log, event.campaign = campaign → event.time.IsSettled)) ∧
    (∀ event ∈ h.log, event.settled.time.nanoseconds = event.time.nanoseconds) ∧
    (∀ tenant, (h.store view).stats tenant = tally (h.log.filter (·.tenant = tenant))) ∧
    (∀ campaign, (h.store view).tamper campaign =
      if ∃ event ∈ h.log, event.campaign = campaign then .error .appendOnly else .ok 0) ∧
    ∀ h', Later view h h' → ∃ since, h'.done = h.done ++ since ∧
      (h'.store view).events = (h.store view).events ++ (logIn since).map rowOfEvent ∧
      ∀ (i : Nat) (call : Call σ) (ending : Ending) (report : Report),
        h.sys.calls.length ≤ i → h'.sys.calls[i]? = some call → call.stage = .ended ending →
        ending.report? = some report →
        (∀ contact email place, .called contact email place .crashed ∉ doneBy i h'.trace) →
        (∀ event err, .recorded event (.error err) ∉ doneBy i h'.trace) →
        ∀ tenant, (h'.store view).stats tenant = (h.store view).stats tenant +
          tally ((logIn (apartFrom i since)).filter (·.tenant = tenant)) +
          if (h'.store view).ownerOf? call.id = some tenant then report.stats else 0 := by
  have hevents := hreached.events_eq
  refine ⟨fun campaign hback => ?_, fun event _ => event.time.nanoseconds_settled,
    Store.stats_eq hevents, Store.tamper_eq hevents, fun h' hlater => ?_⟩
  · have hread := Store.eventsOf_eq_ok hevents hback
    exact ⟨hread, by rw [hread, Except.ok.injEq, map_settled_filter_eq_iff]⟩
  have hevents' := (hreached.later hlater).events_eq
  obtain ⟨since, sts, hdone, hstore, hlogged⟩ := hlater.exists_since
  refine ⟨since, hdone, by rw [hstore, Store.events_after, hlogged], ?_⟩
  intro i call ending report hnew hcall hover hreport hsends happends tenant
  have hown : doneBy i h'.trace = doneBy i (traceIn since) := by
    rw [trace, hdone, traceIn_append, doneBy_append, ← trace,
      hreached.kept.paths.doneBy_eq_nil hnew, List.nil_append]
  have hreported := (hreached.later hlater).kept.stats_report hcall hover hreport hsends happends
    tenant
  rw [hown] at hreported
  have hsince : tally ((logIn since).filter (·.tenant = tenant)) =
      tally ((logIn (apartFrom i since)).filter (·.tenant = tenant)) +
        tally ((appendedIn (doneBy i (traceIn since))).filter (·.tenant = tenant)) := by
    rw [← tally_append, ← List.filter_append]
    exact tally_eq_of_perm ((logIn_perm i since).filter _)
  rw [Store.stats_eq hevents', Store.stats_eq hevents, log, log, hdone, logIn_append,
    List.filter_append, tally_append, hsince, hreported, DeliveryStats.add_assoc]

end History

namespace Sample

/-- The draft and its tenant are made, and somebody appends an event of some time. -/
def started (time : Instant) : History Connection where
  done := [(none, .recorded (Store.Sample.taken "z" time) (.ok ()))]
  sys := ⟨.ofStore (connection.store.append (Store.Sample.taken "z" time)), []⟩

theorem reached_started (time : Instant) : (started time).Reached id := by
  refine ⟨.ofStore .empty, rfl, ?_⟩
  have hmade : History.Step id ⟨[], ⟨.ofStore .empty, []⟩⟩ ⟨[], ⟨connection, []⟩⟩ :=
    .others making (by decide) (by decide)
  exact (Relation.ReflTransGen.single hmade).tail (.append _ rfl)

theorem readsBack_taken {contact : String} {time : Instant} (h : time.HasPlainYear) :
    (Store.Sample.taken contact time).ReadsBack := by
  refine ⟨h, fun details hdetails => ?_⟩
  cases hdetails
  exact ⟨by decide, .string _, fun x hx => absurd hx List.not_mem_nil⟩

theorem logs_engine (concurrency : Nat) : (engine .console concurrency).Logs id :=
  (lawful_engine concurrency).logs_ofStore

end Sample

/-- A draft is dispatched after somebody else has appended an event for it. -/
theorem History.log_faithful_of_started :
    ∃ h', Later id (Sample.started .start2024) h' ∧
      ((Sample.started .start2024).store id).eventsOf "c" =
        .ok [Store.Sample.taken "z" .start2024] ∧
      ∃ since, h'.done = (Sample.started .start2024).done ++ since ∧
        (h'.store id).stats "t" = ⟨1, 0⟩ +
          tally ((logIn (apartFrom 0 since)).filter (·.tenant = "t")) + ⟨1, 0⟩ := by
  obtain ⟨hread, -, hstats, -, hraised⟩ := (Sample.reached_started .start2024).log_faithful
  have hentered : Later id (Sample.started .start2024) ((Sample.started .start2024).enter
      (Sample.engine .console 1) "c" (.list Sample.contacts)) :=
    .single (.enter (Sample.logs_engine 1) "c" _)
  obtain ⟨h', hlater, hsys, htrace⟩ := hentered.exists_play
    (fun call hcall => by
      obtain rfl := List.mem_singleton.1 hcall
      exact Sample.logs_engine 1)
    [(0, .dispatcher), (0, .dispatcher), (0, .dispatcher), (0, .dispatcher), (0, .dispatcher),
      (0, .worker 0), (0, .dispatcher), (0, .worker 0), (0, .dispatcher), (0, .dispatcher),
      (0, .dispatcher)]
  obtain ⟨since, hdone, -, hdispatch⟩ := hraised h' hlater
  have hsends : ∀ contact email place,
      .called contact email place .crashed ∉ doneBy 0 h'.trace := by
    rw [← lostIn_eq_nil_iff, htrace]
    rfl
  have happends : ∀ event err, .recorded event (.error err) ∉ doneBy 0 h'.trace := by
    intro event err hmem
    have herrors : (doneBy 0 h'.trace).filterMap Deed.error? = [] := by
      rw [htrace]
      rfl
    cases List.filterMap_eq_nil_iff.1 herrors _ hmem
  have hcall : h'.sys.calls[0]? = some { Sample.call 1 with
      stage := .ended (.answered (.ok ⟨"c", .completed, 2, 1, 0, 1⟩)) } := by
    rw [hsys]
    rfl
  have howner : (h'.store id).ownerOf? "c" = some "t" := by
    rw [store, hsys]
    rfl
  refine ⟨h', hlater, (hread "c" fun event hevent _ => ?_).1, since, hdone, ?_⟩
  · obtain rfl := List.mem_singleton.1 hevent
    exact Sample.readsBack_taken (by decide)
  · have hraises := hdispatch 0 _ _ _ (Nat.zero_le 0) hcall rfl rfl hsends happends "t"
    rw [hstats] at hraises
    exact hraises.trans (congrArg (_ + ·) (if_pos howner))

/-- The one event of a campaign has a year of four digits and details that come back, and lies in a
second that lasts two inside of a minute.  It is read as an event of the second behind that. -/
theorem History.event_read_a_second_later :
    (Sample.started .lateStart2024).Reached id ∧
      (Sample.started .lateStart2024).log = [Store.Sample.taken "z" .lateStart2024] ∧
      (Store.Sample.taken "z" .lateStart2024).ReadsBack ∧
      ∃ event, ((Sample.started .lateStart2024).store id).eventsOf "c" = .ok [event] ∧
        event ≠ Store.Sample.taken "z" .lateStart2024 ∧
        event.time.text = "2024-01-01T00:00:01.500+00:00" ∧ event.time.nano = 500000000 := by
  have hreached := Sample.reached_started .lateStart2024
  have hback : (Store.Sample.taken "z" .lateStart2024).ReadsBack :=
    Sample.readsBack_taken (by decide)
  refine ⟨hreached, rfl, hback, _, Store.eventsOf_eq_ok hreached.events_eq fun event hevent _ => ?_,
    ?_, by decide +kernel, rfl⟩
  · obtain rfl := List.mem_singleton.1 hevent
    exact hback
  · rw [ne_eq, SendEvent.settled_eq_iff]
    decide

end Dispatch
end Mailshot
