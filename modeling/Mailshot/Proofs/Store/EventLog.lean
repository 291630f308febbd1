import Mailshot.Proofs.Json.RoundTrip
import Mailshot.Proofs.Store.Lifecycle
import Mailshot.Proofs.Time.RoundTrip

/-!
# Reading the log of events

Statements only ever add to the log, each `append` one row behind all others (`events_after`), so
the log of a campaign is the events that were appended for it.  They are kept as texts and read as a
whole: times are settled, details whose text cannot be read are left out of their event, but a time
that cannot be read spoils the log of its campaign for good.

That is the case for the times whose year is not written with four digits.  A log is read in full
just if it has none of them (`event_log_read_in_full`).

Whoever reads the log reads what was appended, with times settled: the events of a campaign
(`eventsOf_eq_ok`), and how many of a tenant there are of each kind (`stats_eq`).
-/

set_option autoImplicit false

namespace Mailshot

/-- An event as it is read from its row. -/
def SendEvent.asRead (e : SendEvent) : SendEvent :=
  { e with
    time := e.time.settled
    metadata := e.metadata.bind fun details => Json.ofText? details.print }

/-- An event whose time is settled. -/
def SendEvent.settled (e : SendEvent) : SendEvent := { e with time := e.time.settled }

theorem SendEvent.settled_eq_iff {e : SendEvent} : e.settled = e ↔ e.time.IsSettled := by
  rw [← Instant.settled_eq_iff]
  exact ⟨congrArg SendEvent.time, fun h => by rw [settled, h]⟩

/-- An event comes back from its row as it is, but for the second of its time: its year is written
with four digits, and its details come back from their text. -/
structure SendEvent.ReadsBack (e : SendEvent) : Prop where
  /-- Its year has four digits. -/
  time : e.time.HasPlainYear
  /-- Its details read back, if it has any. -/
  metadata : ∀ details ∈ e.metadata, details.ReadsBack

theorem SendEvent.ReadsBack.asRead_eq {e : SendEvent} (h : e.ReadsBack) : e.asRead = e.settled := by
  have hmetadata : (e.metadata.bind fun details => Json.ofText? details.print) = e.metadata := by
    cases hsome : e.metadata with
    | none => rfl
    | some details => exact (h.metadata details hsome).ofText?_print
  rw [asRead, hmetadata, settled]

/-! ## Adding numbers up -/

namespace DeliveryStats

instance : Add DeliveryStats := ⟨fun a b => ⟨a.sent + b.sent, a.failed + b.failed⟩⟩

instance : Zero DeliveryStats := ⟨⟨0, 0⟩⟩

protected theorem add_assoc (a b c : DeliveryStats) : a + b + c = a + (b + c) :=
  congrArg₂ mk (Nat.add_assoc _ _ _) (Nat.add_assoc _ _ _)

end DeliveryStats

/-- How many of some events say that a channel took the message, and how many that none did. -/
def tally (events : List SendEvent) : DeliveryStats where
  sent := events.countP (·.kind = .sent)
  failed := events.countP (·.kind = .failed)

@[simp] theorem tally_nil : tally [] = 0 := rfl

theorem tally_append (l l' : List SendEvent) : tally (l ++ l') = tally l + tally l' :=
  congrArg₂ DeliveryStats.mk List.countP_append List.countP_append

/-- The order makes no difference. -/
theorem tally_eq_of_perm {l l' : List SendEvent} (h : l.Perm l') : tally l = tally l' :=
  congrArg₂ DeliveryStats.mk (h.countP_eq _) (h.countP_eq _)

namespace Store

/-- What is read from the row of an event. -/
theorem eventOfRow_rowOfEvent (e : SendEvent) :
    eventOfRow (rowOfEvent e) =
      if e.time.HasPlainYear then .ok e.asRead
      else .error (.invalidRow (.timestamp e.time.text .invalid)) := by
  have hkind : EventKind.parse e.kind.name = .ok e.kind := by
    rw [EventKind.parse, EventKind.ofName?_name]
  have hmetadata : (e.metadata.map (·.print)).bind Json.ofText? =
      e.metadata.bind fun details => Json.ofText? details.print := by
    cases e.metadata <;> rfl
  by_cases h : e.time.HasPlainYear
  · have htime : Instant.ofText e.time.text = .ok e.time.settled := by
      rw [Instant.ofText_text, if_pos h]
    rw [if_pos h]
    simp only [eventOfRow, rowOfEvent, htime, hkind, hmetadata]
    rfl
  · have htime : Instant.ofText e.time.text = .error .invalid := by
      rw [Instant.ofText_text, if_neg h]
    rw [if_neg h]
    simp only [eventOfRow, rowOfEvent, htime]

/-! ## What is appended -/

/-- The event that a statement appends. -/
def Statement.event? : Statement → Option SendEvent
  | append e => some e
  | _ => none

/-- A statement adds its event to the log, or leaves the log as it is. -/
theorem Statement.events_apply (s : Store) (st : Statement) :
    (st.apply s).events = s.events ++ (st.event?.map rowOfEvent).toList := by
  have hdoes := st.does_apply s
  cases st with
  | append e => rfl
  | _ =>
    generalize apply s _ = s' at hdoes ⊢
    cases hdoes <;> exact (List.append_nil _).symm

theorem events_after (s : Store) (sts : List Statement) :
    (s.after sts).events = s.events ++ (sts.filterMap Statement.event?).map rowOfEvent := by
  induction sts generalizing s with
  | nil => exact (List.append_nil _).symm
  | cons st sts ih =>
    rw [after_cons, ih, st.events_apply, List.append_assoc]
    cases h : st.event? with
    | none => rw [List.filterMap_cons_none h]; rfl
    | some e => rw [List.filterMap_cons_some h]; rfl

/-- The events of a campaign that some statements append, in the order in which they do. -/
def appendsTo (campaign : String) (sts : List Statement) : List SendEvent :=
  (sts.filterMap Statement.event?).filter (·.campaign = campaign)

/-- Of a log with a row for each event, the log of a campaign has the rows of its events. -/
theorem eventsOf_eq {s : Store} {events : List SendEvent} (h : s.events = events.map rowOfEvent)
    (campaign : String) : s.eventsOf campaign =
      (events.filter (·.campaign = campaign)).mapM fun e => eventOfRow (rowOfEvent e) := by
  rw [eventsOf, h, List.filter_map, List.mapM_map]
  rfl

/-- The log of a campaign has a row for each event that was appended for it. -/
theorem eventsOf_after (sts : List Statement) (campaign : String) :
    (empty.after sts).eventsOf campaign =
      (appendsTo campaign sts).mapM fun e => eventOfRow (rowOfEvent e) :=
  eventsOf_eq (events_after empty sts) campaign

/-! ## What is read -/

/-- Rows of events are read up to the first one whose time cannot be read, if there is one. -/
theorem mapM_eventOfRow (events : List SendEvent) :
    (events.mapM fun e => eventOfRow (rowOfEvent e)) =
      match events.find? fun e => ¬ e.time.HasPlainYear with
      | none => .ok (events.map SendEvent.asRead)
      | some e => .error (.invalidRow (.timestamp e.time.text .invalid)) := by
  induction events with
  | nil => rfl
  | cons e events ih =>
    rw [List.mapM_cons, eventOfRow_rowOfEvent, ih]
    by_cases h : e.time.HasPlainYear
    · rw [if_pos h, List.find?_cons_of_neg (by simpa using h)]
      cases events.find? fun e => ¬ e.time.HasPlainYear <;> rfl
    · rw [if_neg h, List.find?_cons_of_pos (by simpa using h)]
      rfl

section Readers

variable {s : Store} {events : List SendEvent}

/-- Events that come back from their rows are all read, as they were appended but for the seconds of
their times. -/
theorem eventsOf_eq_ok (h : s.events = events.map rowOfEvent) {campaign : String}
    (hback : ∀ e ∈ events, e.campaign = campaign → e.ReadsBack) :
    s.eventsOf campaign = .ok ((events.filter (·.campaign = campaign)).map SendEvent.settled) := by
  have hall : ∀ e ∈ events.filter (·.campaign = campaign), e.ReadsBack := fun e he => by
    obtain ⟨hmem, hcampaign⟩ := List.mem_filter.1 he
    exact hback e hmem (of_decide_eq_true hcampaign)
  have hplain : (events.filter (·.campaign = campaign)).find? (fun e => ¬ e.time.HasPlainYear) =
      none := List.find?_eq_none.2 fun e he => by simpa using (hall e he).time
  rw [eventsOf_eq h, mapM_eventOfRow, hplain]
  exact congrArg Except.ok (List.map_congr_left fun e he => (hall e he).asRead_eq)

/-- The numbers of a tenant are those of its events. -/
theorem stats_eq (h : s.events = events.map rowOfEvent) (tenant : String) :
    s.stats tenant = tally (events.filter (·.tenant = tenant)) := by
  have hcount (kind : EventKind) :
      s.events.countP (fun r => r.tenant = tenant && r.kind = kind.name) =
        (events.filter (·.tenant = tenant)).countP (·.kind = kind) := by
    rw [h, List.countP_map, List.countP_filter]
    refine congrArg (events.countP ·) (funext fun e => ?_)
    have hkind : e.kind.name = kind.name ↔ e.kind = kind := by
      cases e.kind <;> cases kind <;> decide
    exact (Bool.and_comm _ _).trans (congrArg (· && _) (decide_eq_decide.2 hkind))
  exact congrArg₂ DeliveryStats.mk (hcount .sent) (hcount .failed)

/-- As long as a campaign has events, they can be neither changed nor removed. -/
theorem tamper_eq (h : s.events = events.map rowOfEvent) (campaign : String) :
    s.tamper campaign =
      if ∃ e ∈ events, e.campaign = campaign then .error .appendOnly else .ok 0 := by
  have hany : s.events.any (·.campaign = campaign) = true ↔
      ∃ e ∈ events, e.campaign = campaign := by
    simp only [h, List.any_map, List.any_eq_true, Function.comp_apply, decide_eq_true_iff]
    rfl
  simp only [tamper, hany]

end Readers

/-- **A log is read in full just if every time in it has a year of four digits.** -/
theorem event_log_read_in_full (sts : List Statement) (campaign : String) :
    ((∃ events, (empty.after sts).eventsOf campaign = .ok events) ↔
        ∀ e ∈ appendsTo campaign sts, e.time.HasPlainYear) ∧
      ∀ events, (empty.after sts).eventsOf campaign = .ok events →
        events = (appendsTo campaign sts).map SendEvent.asRead ∧
          events.length = (appendsTo campaign sts).length := by
  have hplain : (appendsTo campaign sts).find? (fun e => ¬ e.time.HasPlainYear) = none ↔
      ∀ e ∈ appendsTo campaign sts, e.time.HasPlainYear := by
    simp [List.find?_eq_none]
  rw [eventsOf_after, mapM_eventOfRow, ← hplain]
  cases (appendsTo campaign sts).find? fun e => ¬ e.time.HasPlainYear with
  | none =>
    refine ⟨⟨fun _ => rfl, fun _ => ⟨_, rfl⟩⟩, fun events hread => ?_⟩
    obtain rfl := Except.ok.inj hread
    exact ⟨rfl, List.length_map _⟩
  | some e =>
    refine ⟨⟨fun ⟨_, hread⟩ => ?_, fun hnone => ?_⟩, fun _ hread => ?_⟩
    · cases hread
    · cases hnone
    · cases hread

namespace Sample

/-- A message of a campaign was taken at some time. -/
def taken (contact : String) (time : Instant) : SendEvent where
  campaign := "c"
  tenant := "t"
  contact := contact
  kind := .sent
  time := time
  messageId := none
  metadata := some (.string "console")

end Sample

/-- Of two events both are read. -/
theorem event_log_read_of_two :
    ∃ events, (empty.after [.append (Sample.taken "a" .start2024),
        .append (Sample.taken "b" .start2024)]).eventsOf "c" = .ok events ∧ events.length = 2 := by
  obtain ⟨hread, hall⟩ := event_log_read_in_full [.append (Sample.taken "a" .start2024),
    .append (Sample.taken "b" .start2024)] "c"
  obtain ⟨events, hok⟩ := hread.2 (by decide)
  exact ⟨events, hok, (hall events hok).2⟩

/-- A single event whose time can be written down, and is read from what was written, is appended
to a log that cannot be read any more. -/
theorem event_log_spoiled_by_year_10000 :
    Instant.ofText "9999-12-31T23:59:59-01:00" = .ok .year10000 ∧
      appendsTo "c" [.append (Sample.taken "a" .start2024),
        .append (Sample.taken "b" .year10000)] =
          [Sample.taken "a" .start2024, Sample.taken "b" .year10000] ∧
      (empty.after [.append (Sample.taken "a" .start2024),
        .append (Sample.taken "b" .year10000)]).eventsOf "c" =
          .error (.invalidRow (.timestamp "+10000-01-01T00:59:59+00:00" .invalid)) := by
  obtain ⟨htime, htext⟩ := Instant.ofText_year10000
  refine ⟨htime, rfl, ?_⟩
  rw [eventsOf_after, mapM_eventOfRow, ← htext]
  rfl

end Store
end Mailshot
