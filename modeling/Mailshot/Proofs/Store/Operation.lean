import Mailshot.Proofs.Store.Answers
import Mailshot.Proofs.Store.Reached

/-!
# Calls that write one row, or nothing

A call to the store is refused, or finds nothing that it applies to, or is carried out; and it is
carried out as a whole or not at all.

* `Store.row?` is the store row by row: what stands in a `Store.Place`.  Nothing else is in a store,
  up to the order of links, which is not looked at (`ext_row?`).
* `Operation.Writes` is what a call does that is carried out: the row in its own place is written
  (`Operation.write`), and every other place keeps its row.
* `Operation.IsRefused` lists the reasons not to carry it out.  There are no others, and a call that
  has one leaves the store as it is (`Operation.perform_writes_or_keeps`).
-/

set_option autoImplicit false

namespace Mailshot

/-! ## Rows of all tables -/

namespace Table

variable {ρ : Type}

/-- Where a row stands in its table. -/
inductive Place where
  /-- Under an identifier. -/
  | named (id : String)
  /-- Among those that have none. -/
  | nameless (n : Nat)
deriving DecidableEq

/-- The row in a place. -/
def row? (t : Table ρ) : Place → Option ρ
  | .named id => t.find? id
  | .nameless n => t.nameless[n]?

/-- Insertion writes the place of its own identifier only. -/
theorem row?_insert (t : Table ρ) (id : String) (row : ρ) (p : Place) :
    (t.insert id row).row? p = if p = .named id then some row else t.row? p := by
  cases p with
  | named q => simp only [row?, find?_insert, Place.named.injEq, eq_comm]
  | nameless n => rfl

/-- A table is known by its rows. -/
theorem ext_row? {t t' : Table ρ} (h : ∀ p, t.row? p = t'.row? p) : t = t' := by
  have hnamed : t.named = t'.named := Dictionary.ext_find? fun id => h (.named id)
  have hnameless : t.nameless = t'.nameless := List.ext_getElem? fun n => h (.nameless n)
  cases t
  cases t'
  cases hnamed
  cases hnameless
  rfl

end Table

namespace Store

/-- Where a row stands in a store. -/
inductive Place where
  /-- Among the tenants. -/
  | tenant (id : String)
  /-- Among the contacts. -/
  | contact (p : Table.Place)
  /-- Among the segments. -/
  | segment (p : Table.Place)
  /-- Among the campaigns. -/
  | campaign (p : Table.Place)
  /-- Among the links. -/
  | link (campaign segment : String)
  /-- Among the events. -/
  | event (n : Nat)
deriving DecidableEq

/-- A row of any table. -/
inductive Row where
  /-- The name of a tenant. -/
  | tenant (name : String)
  /-- A contact. -/
  | contact (row : ContactRow)
  /-- A segment. -/
  | segment (row : SegmentRow)
  /-- A campaign. -/
  | campaign (row : CampaignRow)
  /-- That a campaign goes to a segment. -/
  | link
  /-- An event. -/
  | event (row : EventRow)

/-- A row with its campaign changed, if it is one. -/
def Row.mapCampaign (f : CampaignRow → CampaignRow) : Row → Row
  | campaign row => campaign (f row)
  | row => row

/-- The row in a place. -/
def row? (s : Store) : Place → Option Row
  | .tenant id => (s.tenants.find? id).map .tenant
  | .contact p => (s.contacts.row? p).map .contact
  | .segment p => (s.segments.row? p).map .segment
  | .campaign p => (s.campaigns.row? p).map .campaign
  | .link campaign segment =>
    if s.links.contains (campaign, segment) then some .link else none
  | .event n => s.events[n]?.map .event

theorem row?_link_of_mem {s : Store} {campaign segment : String}
    (h : (campaign, segment) ∈ s.links) : s.row? (.link campaign segment) = some .link :=
  if_pos (List.contains_iff_mem.2 h)

theorem row?_link_of_notMem {s : Store} {campaign segment : String}
    (h : (campaign, segment) ∉ s.links) : s.row? (.link campaign segment) = none :=
  if_neg (mt List.contains_iff_mem.1 h)

/-- **A store is known by its rows**, up to the order of its links. -/
theorem ext_row? {s s' : Store} (h : ∀ p, s.row? p = s'.row? p) :
    s'.tenants = s.tenants ∧ s'.contacts = s.contacts ∧ s'.segments = s.segments ∧
      s'.campaigns = s.campaigns ∧ (∀ pair, pair ∈ s'.links ↔ pair ∈ s.links) ∧
      s'.events = s.events := by
  have hmap {α : Type} {wrap : α → Row} (hwrap : Function.Injective wrap) {o o' : Option α}
      (heq : o.map wrap = o'.map wrap) : o' = o := (Option.map_injective hwrap heq).symm
  refine ⟨Dictionary.ext_find? fun id => hmap (fun _ _ => Row.tenant.inj) (h (.tenant id)),
    Table.ext_row? fun p => hmap (fun _ _ => Row.contact.inj) (h (.contact p)),
    Table.ext_row? fun p => hmap (fun _ _ => Row.segment.inj) (h (.segment p)),
    Table.ext_row? fun p => hmap (fun _ _ => Row.campaign.inj) (h (.campaign p)),
    fun (campaign, segment) => ?_,
    List.ext_getElem? fun n => hmap (fun _ _ => Row.event.inj) (h (.event n))⟩
  have hlink := h (.link campaign segment)
  by_cases hs : (campaign, segment) ∈ s.links <;> by_cases hs' : (campaign, segment) ∈ s'.links
  · exact iff_of_true hs' hs
  · rw [row?_link_of_mem hs, row?_link_of_notMem hs'] at hlink
    cases hlink
  · rw [row?_link_of_notMem hs, row?_link_of_mem hs'] at hlink
    cases hlink
  · exact iff_of_false hs' hs

section Insert

variable (s : Store) (id : String) (p : Place)

theorem row?_insert_contact (row : ContactRow) :
    ({ s with contacts := s.contacts.insert id row } : Store).row? p =
      if p = .contact (.named id) then some (.contact row) else s.row? p := by
  cases p with
  | contact q =>
    simp only [row?, Table.row?_insert, Place.contact.injEq]
    split <;> rfl
  | _ => rfl

theorem row?_insert_segment (row : SegmentRow) :
    ({ s with segments := s.segments.insert id row } : Store).row? p =
      if p = .segment (.named id) then some (.segment row) else s.row? p := by
  cases p with
  | segment q =>
    simp only [row?, Table.row?_insert, Place.segment.injEq]
    split <;> rfl
  | _ => rfl

theorem row?_insert_campaign (row : CampaignRow) :
    ({ s with campaigns := s.campaigns.insert id row } : Store).row? p =
      if p = .campaign (.named id) then some (.campaign row) else s.row? p := by
  cases p with
  | campaign q =>
    simp only [row?, Table.row?_insert, Place.campaign.injEq]
    split <;> rfl
  | _ => rfl

theorem row?_add_link (campaign segment : String) :
    ({ s with links := s.links ++ [(campaign, segment)] } : Store).row? p =
      if p = .link campaign segment then some .link else s.row? p := by
  cases p with
  | link c g =>
    simp only [row?, List.contains_iff_mem, List.mem_append, List.mem_singleton, Prod.mk.injEq,
      Place.link.injEq]
    by_cases h : c = campaign ∧ g = segment <;> simp [h]
  | _ => rfl

theorem row?_append (e : SendEvent) :
    (s.append e).row? p =
      if p = .event s.events.length then some (.event (rowOfEvent e)) else s.row? p := by
  cases p with
  | event n =>
    simp only [row?, append, Place.event.injEq, List.getElem?_append]
    split
    · next hlt => rw [if_neg (Nat.ne_of_lt hlt)]
    · next hge =>
      by_cases hn : n = s.events.length
      · subst hn
        simp
      · have hout : s.events.length < n := by omega
        simp [hn, List.getElem?_eq_none (Nat.le_of_lt hout), Nat.sub_ne_zero_of_lt hout]
  | _ => rfl

/-- Changing a row where its status allows it writes the place of that row. -/
theorem row?_setWhere {statuses : List Status} {f : CampaignRow → CampaignRow}
    (hset : (s.setWhere id statuses f).1 = true) :
    (s.setWhere id statuses f).2.row? p =
      if p = .campaign (.named id) then (s.row? p).map (.mapCampaign f) else s.row? p := by
  rw [setWhere] at hset ⊢
  cases hfind : s.campaigns.find? id with
  | none => simp [hfind] at hset
  | some r =>
    simp only [hfind] at hset ⊢
    split
    · rw [row?_insert_campaign]
      split
      · next hp =>
        have hrow : s.row? p = some (.campaign r) := by
          rw [hp, row?, Table.row?, hfind]
          rfl
        rw [hrow]
        rfl
      · rfl
    · next hmem =>
      rw [if_neg hmem] at hset
      cases hset

end Insert

/-! ## Operations -/

/-- One call that may change the store. -/
inductive Operation where
  /-- A contact is stored. -/
  | upsertContact (contact : Contact)
  /-- A campaign is made. -/
  | createCampaign (id createdAt : String) (new : NewCampaign)
  /-- A segment is made. -/
  | createSegment (id createdAt tenant name : String) (rules : RuleGroup)
  /-- A campaign is to go to a segment. -/
  | link (campaign segment : String)
  /-- A moment is set for a draft. -/
  | schedule (id now : String) (time : Instant)
  /-- Sending is to stop. -/
  | requestCancel (id now : String)
  /-- A campaign is completed. -/
  | complete (id now : String)
  /-- An event is appended. -/
  | append (event : SendEvent)
  /-- A campaign is claimed for sending. -/
  | claim (id now : String)

/-- What is wrong with an operation. -/
inductive Failure where
  /-- Something about contacts. -/
  | contact (e : ContactError)
  /-- Something about campaigns. -/
  | campaign (e : CampaignError)

/-- What an operation answers. -/
inductive Answer where
  /-- It was carried out. -/
  | done
  /-- There was no campaign to claim. -/
  | missed
  /-- It failed. -/
  | failed (failure : Failure)

namespace Answer

/-- The answer of a call that succeeds without a value. -/
def ofUnit {ε : Type} (wrap : ε → Failure) : Except ε Unit → Answer
  | .ok () => done
  | .error e => failed (wrap e)

/-- The answer of a claim. -/
def ofClaim : Except CampaignError Bool → Answer
  | .ok true => done
  | .ok false => missed
  | .error e => failed (.campaign e)

end Answer

namespace Operation

/-- An operation is carried out over a connection. -/
def perform : Operation → StateM Connection Answer
  | upsertContact contact =>
    .ofUnit .contact <$> Connection.change .store (·.upsertContact contact)
  | createCampaign id createdAt new =>
    .ofUnit .campaign <$> Connection.change .store (·.createCampaign id createdAt new)
  | createSegment id createdAt tenant name rules =>
    .ofUnit .campaign <$> Connection.change .store (·.createSegment id createdAt tenant name rules)
  | link campaign segment =>
    .ofUnit .campaign <$> Connection.change .store (·.link campaign segment)
  | schedule id now time => .ofUnit .campaign <$> Connection.schedule id now time
  | requestCancel id now => .ofUnit .campaign <$> Connection.requestCancel id now
  | complete id now => .ofUnit .campaign <$> Connection.complete id now
  | append event => .ofUnit .campaign <$> Connection.append event
  | claim id now => .ofClaim <$> Connection.claim id now

/-- The place of the row that an operation is about.  An event is put behind all others. -/
def place (s : Store) : Operation → Place
  | upsertContact contact => .contact (.named contact.id)
  | createSegment id _ _ _ _ => .segment (.named id)
  | link campaign segment => .link campaign segment
  | append _ => .event s.events.length
  | createCampaign id _ _ | schedule id _ _ | requestCancel id _ | complete id _ | claim id _ =>
    .campaign (.named id)

/-- What becomes of that row. -/
def write : Operation → Option Row → Option Row
  | upsertContact contact, _ => some (.contact (rowOfContact contact))
  | createCampaign _ createdAt new, _ => some (.campaign {
      tenant := new.tenant, name := new.name, subject := new.subject, body := new.body
      fromName := new.fromName, replyTo := new.replyTo, status := Status.draft.name
      scheduledAt := none, cancelRequested := false, createdAt := createdAt
      updatedAt := createdAt })
  | createSegment _ createdAt tenant name rules, _ =>
    some (.segment ⟨tenant, name, rules.text, createdAt⟩)
  | link _ _, _ => some .link
  | schedule _ now time, row => row.map (.mapCampaign fun r => { r with
      status := Status.scheduled.name, scheduledAt := some time.text, updatedAt := now })
  | requestCancel _ now, row =>
    row.map (.mapCampaign fun r => { r with cancelRequested := true, updatedAt := now })
  | complete _ now, row =>
    row.map (.mapCampaign fun r => { r with status := Status.completed.name, updatedAt := now })
  | append event, _ => some (.event (rowOfEvent event))
  | claim _ now, row =>
    row.map (.mapCampaign fun r => { r with status := Status.sending.name, updatedAt := now })

/-- The row that an operation is about is written, and no other. -/
def Writes (op : Operation) (s s' : Store) : Prop :=
  ∀ p, s'.row? p = if p = op.place s then op.write (s.row? p) else s.row? p

/-- Why an operation is refused. -/
inductive IsRefused (s : Store) : Operation → Failure → Prop
  /-- The tenant of a contact is not there. -/
  | contact {contact : Contact} (h : s.hasTenant contact.tenant = false) :
      IsRefused s (.upsertContact contact) (.contact (.store .foreignKey))
  /-- The tenant of a campaign is not there. -/
  | campaign {id createdAt : String} {new : NewCampaign} (h : s.hasTenant new.tenant = false) :
      IsRefused s (.createCampaign id createdAt new) (.campaign (.store .foreignKey))
  /-- There is a campaign with this identifier. -/
  | campaignTaken {id createdAt : String} {new : NewCampaign} (h : s.hasTenant new.tenant = true)
      (hid : s.hasCampaign id = true) :
      IsRefused s (.createCampaign id createdAt new) (.campaign (.store (.unique "campaigns.id")))
  /-- The tenant of a segment is not there. -/
  | segment {id createdAt tenant name : String} {rules : RuleGroup}
      (h : s.hasTenant tenant = false) :
      IsRefused s (.createSegment id createdAt tenant name rules) (.campaign (.store .foreignKey))
  /-- There is a segment with this identifier. -/
  | segmentTaken {id createdAt tenant name : String} {rules : RuleGroup}
      (h : s.hasTenant tenant = true) (hid : s.hasSegment id = true) :
      IsRefused s (.createSegment id createdAt tenant name rules)
        (.campaign (.store (.unique "segments.id")))
  /-- One end of a link is not there. -/
  | link {campaign segment : String}
      (h : s.hasCampaign campaign = false ∨ s.hasSegment segment = false) :
      IsRefused s (.link campaign segment) (.campaign (.store .foreignKey))
  /-- There is no campaign to set a moment for. -/
  | scheduleMissing {id now : String} {time : Instant} (h : s.status? id = none) :
      IsRefused s (.schedule id now time) (.campaign (.notFound id))
  /-- It is not a draft. -/
  | schedule {id now : String} {time : Instant} {status : Status}
      (h : s.status? id = some status.name) (hne : status ≠ .draft) :
      IsRefused s (.schedule id now time) (.campaign (.invalidTransition status .scheduled))
  /-- There is no campaign to stop. -/
  | requestMissing {id now : String} (h : s.status? id = none) :
      IsRefused s (.requestCancel id now) (.campaign (.notFound id))
  /-- It is not being sent. -/
  | request {id now : String} {status : Status} (h : s.status? id = some status.name)
      (hne : status ≠ .sending) :
      IsRefused s (.requestCancel id now) (.campaign (.notCancellable id status))
  /-- There is no campaign to complete. -/
  | completeMissing {id now : String} (h : s.status? id = none) :
      IsRefused s (.complete id now) (.campaign (.notFound id))
  /-- It is not being sent. -/
  | complete {id now : String} {status : Status} (h : s.status? id = some status.name)
      (hne : status ≠ .sending) :
      IsRefused s (.complete id now) (.campaign (.invalidTransition status .completed))

/-- A claim finds no campaign that can be claimed. -/
inductive Misses (s : Store) : Operation → Prop
  /-- It is not there, or neither a draft nor scheduled. -/
  | claim {id now : String} (h : s.status? id ≠ some Status.draft.name)
      (h' : s.status? id ≠ some Status.scheduled.name) : Misses s (.claim id now)

/-- What an operation answers over a connection that is closed. -/
def closed : Operation → Failure
  | upsertContact _ => .contact (.store .closed)
  | _ => .campaign (.store .closed)

theorem perform_of_closed {c : Connection} (h : c.isOpen = false) (op : Operation) :
    op.perform c = (.failed op.closed, c) := by
  obtain ⟨s, isOpen⟩ := c
  cases h
  cases op <;> rfl

end Operation

/-! ## Looking at the status -/

section Status

variable {s : Store} {id : String} {status : Status}

theorem exists_load_of_status? (h : s.status? id = some status.name) :
    ∃ campaign, s.load id = .ok campaign ∧ campaign.status = status := by
  obtain ⟨r, hfind, hstatus⟩ := Option.map_eq_some_iff.1 h
  exact ⟨_, load_of_row hfind hstatus, rfl⟩

theorem load_of_status?_eq_none (h : s.status? id = none) :
    s.load id = .error (.notFound id) := by
  rw [load, Option.map_eq_none_iff.1 h]

/-- Whatever a status says, it is one of those that there are. -/
theorem Sound.status?_cases (hs : s.Sound) (id : String) :
    s.status? id = none ∨ ∃ status : Status, s.status? id = some status.name := by
  cases hfind : s.campaigns.find? id with
  | none => exact .inl (Option.map_eq_none_iff.2 hfind)
  | some r =>
    obtain ⟨status, hstatus⟩ := (hs.campaigns.of_find? hfind).1.status
    exact .inr ⟨status, by rw [status?, hfind, Option.map_some, hstatus]⟩

/-- A campaign stands in one place only. -/
theorem status?_ne {other : Status} (h : s.status? id = some status.name) (hne : status ≠ other) :
    s.status? id ≠ some other.name := by
  rw [h, Ne, Option.some.injEq, Status.name_inj]
  exact hne

/-- Sets a moment, by where the campaign stands. -/
theorem schedule_of_status? (h : s.status? id = some status.name) (now : String)
    (time : Instant) :
    s.schedule id now time =
      if status = .draft then (.ok (), (s.markScheduled id now time).2)
      else (.error (.invalidTransition status .scheduled), s) := by
  obtain ⟨campaign, hload, hstatus⟩ := exists_load_of_status? h
  rw [schedule, checkSchedulable, hload]
  simp only [bind, Except.bind, hstatus]
  cases status <;> rfl

theorem schedule_of_missing (h : s.status? id = none) (now : String) (time : Instant) :
    s.schedule id now time = (.error (.notFound id), s) := by
  rw [schedule, checkSchedulable, load_of_status?_eq_none h]
  rfl

/-- A change that the status does not allow is none. -/
theorem setWhere_eq_of_not {statuses : List Status} {f : CampaignRow → CampaignRow}
    (h : ¬ ∃ status ∈ statuses, s.status? id = some status.name) :
    s.setWhere id statuses f = (false, s) := by
  have hfst : (s.setWhere id statuses f).1 = false :=
    Bool.eq_false_iff.2 fun hset => h ((s.setWhere_fst id statuses f).1 hset)
  exact Prod.ext hfst (s.setWhere_snd id statuses f hfst)

/-- Only a campaign that is being sent is stopped or completed. -/
theorem not_sending (h : s.status? id ≠ some Status.sending.name) :
    ¬ ∃ status ∈ [Status.sending], s.status? id = some status.name := by
  rintro ⟨status, hmem, hstatus⟩
  rw [List.mem_singleton.1 hmem] at hstatus
  exact h hstatus

/-- A request in vain tells why it was. -/
theorem requestCancel_of_ne (h : s.status? id ≠ some Status.sending.name) (now : String) :
    s.requestCancel id now = (.error (s.explainCancel id), s) := by
  rw [requestCancel, markCancelled, setWhere_eq_of_not (not_sending h)]

/-- So does completing in vain. -/
theorem complete_of_ne (h : s.status? id ≠ some Status.sending.name) (now : String) :
    s.complete id now = (.error (s.explainComplete id), s) := by
  rw [complete, markCompleted, setWhere_eq_of_not (not_sending h)]

theorem explainCancel_of_status? (h : s.status? id = some status.name) :
    s.explainCancel id = .notCancellable id status := by
  obtain ⟨campaign, hload, rfl⟩ := exists_load_of_status? h
  rw [explainCancel, hload]

theorem explainComplete_of_status? (h : s.status? id = some status.name) :
    s.explainComplete id = .invalidTransition status .completed := by
  obtain ⟨campaign, hload, rfl⟩ := exists_load_of_status? h
  rw [explainComplete, hload]

end Status

namespace Operation

variable {s : Store} {op : Operation}

/-! ## Refusals -/

section Connection

variable {ε α : Type} {refuse : StoreFault → ε}

/-- A call over an open connection is the call of the store. -/
theorem map_call (k : Except ε α → Answer) (f : Store → Except ε α × Store) (s : Store) :
    (k <$> Connection.call refuse f) (.ofStore s) = (k (f s).1, .ofStore (f s).2) := rfl

variable {wrap : ε → Failure} {f : Store → Except StoreFault Store}

theorem map_change_of_ok {s' : Store} (h : f s = .ok s') :
    (Answer.ofUnit wrap <$> Connection.change refuse f) (.ofStore s) = (.done, .ofStore s') := by
  rw [Connection.change, map_call, h]
  rfl

theorem map_change_of_error {fault : StoreFault} (h : f s = .error fault) :
    (Answer.ofUnit wrap <$> Connection.change refuse f) (.ofStore s) =
      (.failed (wrap (refuse fault)), .ofStore s) := by
  rw [Connection.change, map_call, h]
  rfl

end Connection

/-- **A call that has a reason not to be carried out is refused for it, and changes nothing.** -/
theorem IsRefused.perform_eq (hs : s.Sound) {failure : Failure} (h : op.IsRefused s failure) :
    op.perform (.ofStore s) = (.failed failure, .ofStore s) := by
  cases h with
  | contact h => exact map_change_of_error (by rw [Store.upsertContact, h]; rfl)
  | campaign h => exact map_change_of_error (by rw [Store.createCampaign, h]; rfl)
  | campaignTaken h hid => exact map_change_of_error (by rw [Store.createCampaign, h, hid]; rfl)
  | segment h => exact map_change_of_error (by rw [Store.createSegment, h]; rfl)
  | segmentTaken h hid => exact map_change_of_error (by rw [Store.createSegment, h, hid]; rfl)
  | @link campaign segment h =>
    -- a pair that is linked has both ends
    have hnew : (campaign, segment) ∉ s.links := by
      intro hmem
      obtain ⟨hcampaign, hsegment⟩ := hs.links _ hmem
      rcases h with h | h
      · exact Bool.false_ne_true (h.symm.trans hcampaign)
      · exact Bool.false_ne_true (h.symm.trans hsegment)
    have hends : (s.hasCampaign campaign && s.hasSegment segment) = false := by
      rw [Bool.and_eq_false_iff]
      exact h
    refine map_change_of_error ?_
    rw [Store.link, if_neg hnew, hends]
    rfl
  | scheduleMissing h =>
    rw [perform, Connection.schedule, map_call, schedule_of_missing h]
    rfl
  | schedule h hne =>
    rw [perform, Connection.schedule, map_call, schedule_of_status? h, if_neg hne]
    rfl
  | requestMissing h =>
    rw [perform, Connection.requestCancel, map_call, requestCancel_of_ne (by rw [h]; simp),
      explainCancel, load_of_status?_eq_none h]
    rfl
  | request h hne =>
    rw [perform, Connection.requestCancel, map_call, requestCancel_of_ne (status?_ne h hne),
      explainCancel_of_status? h]
    rfl
  | completeMissing h =>
    rw [perform, Connection.complete, map_call, complete_of_ne (by rw [h]; simp),
      explainComplete, load_of_status?_eq_none h]
    rfl
  | complete h hne =>
    rw [perform, Connection.complete, map_call, complete_of_ne (status?_ne h hne),
      explainComplete_of_status? h]
    rfl

/-- So is a claim in vain answered. -/
theorem Misses.perform_eq (h : op.Misses s) :
    op.perform (.ofStore s) = (.missed, .ofStore s) := by
  cases h with
  | @claim id now h h' =>
    have hnot : ¬ ∃ status ∈ [Status.draft, Status.scheduled],
        s.status? id = some status.name := by
      simp only [List.mem_cons, List.not_mem_nil, or_false, exists_eq_or_imp, exists_eq_left]
      exact not_or.2 ⟨h, h'⟩
    rw [perform, Connection.claim, map_call, Store.claim, setWhere_eq_of_not hnot]
    rfl

/-! ## Writing one row -/

/-- A change of a row where its status allows it writes one row. -/
theorem writes_setWhere {id : String} {statuses : List Status} {f : CampaignRow → CampaignRow}
    (hplace : op.place s = .campaign (.named id))
    (hwrite : ∀ row, op.write row = row.map (.mapCampaign f))
    (hset : (s.setWhere id statuses f).1 = true) : op.Writes s (s.setWhere id statuses f).2 := by
  intro p
  rw [row?_setWhere s id p hset, hplace, hwrite]

/-- An operation has a reason not to be carried out, or finds nothing, or is carried out. -/
def Settled (op : Operation) (s : Store) : Prop :=
  (∃ failure, op.IsRefused s failure) ∨ op.Misses s ∨
    ∃ s', op.perform (.ofStore s) = (.done, .ofStore s') ∧ op.Writes s s'

theorem Settled.of_write {s' : Store} (hperform : op.perform (.ofStore s) = (.done, .ofStore s'))
    (hwrites : ∀ p, s'.row? p = if p = op.place s then op.write (s.row? p) else s.row? p) :
    op.Settled s := .inr (.inr ⟨s', hperform, hwrites⟩)

/-- A call that moves a campaign on from one status is refused where there is none, and where it
stands elsewhere. -/
theorem Settled.of_status {id : String} {source : Status} {missing : Failure}
    {other : Status → Failure} (hs : s.Sound)
    (hmissing : s.status? id = none → op.IsRefused s missing)
    (hother : ∀ {status : Status}, s.status? id = some status.name → status ≠ source →
      op.IsRefused s (other status))
    (hdone : s.status? id = some source.name → op.Settled s) : op.Settled s := by
  rcases hs.status?_cases id with h | ⟨status, h⟩
  · exact .inl ⟨_, hmissing h⟩
  · by_cases hsource : status = source
    · exact hdone (hsource ▸ h)
    · exact .inl ⟨_, hother h hsource⟩

/-- A pair that is linked already is linked. -/
theorem perform_link_of_mem {campaign segment : String} (h : (campaign, segment) ∈ s.links) :
    (link campaign segment).perform (.ofStore s) = (.done, .ofStore s) :=
  map_change_of_ok (by rw [Store.link, if_pos h])

theorem settled_link (campaign segment : String) : (link campaign segment).Settled s := by
  by_cases hmem : (campaign, segment) ∈ s.links
  · refine .of_write (perform_link_of_mem hmem) fun p => ?_
    split
    · next hp =>
      rw [hp, place, row?_link_of_mem hmem]
      rfl
    · rfl
  · cases hends : s.hasCampaign campaign && s.hasSegment segment with
    | true =>
      refine .of_write (map_change_of_ok ?_) fun p => row?_add_link s p campaign segment
      rw [Store.link, if_neg hmem, hends, if_pos rfl]
    | false => exact .inl ⟨_, .link (Bool.and_eq_false_iff.1 hends)⟩

/-- **Any other call is carried out, and writes its row.** -/
theorem settled (hs : s.Sound) (op : Operation) : op.Settled s := by
  cases op with
  | upsertContact contact =>
    cases h : s.hasTenant contact.tenant with
    | false => exact .inl ⟨_, .contact h⟩
    | true =>
      refine .of_write (map_change_of_ok ?_) fun p => row?_insert_contact s _ p _
      rw [Store.upsertContact, h, if_pos rfl]
  | createCampaign id createdAt new =>
    cases h : s.hasTenant new.tenant with
    | false => exact .inl ⟨_, .campaign h⟩
    | true =>
      cases hid : s.hasCampaign id with
      | true => exact .inl ⟨_, .campaignTaken h hid⟩
      | false =>
        refine .of_write (map_change_of_ok ?_) fun p => row?_insert_campaign s _ p _
        rw [Store.createCampaign, h, hid]
        rfl
  | createSegment id createdAt tenant name rules =>
    cases h : s.hasTenant tenant with
    | false => exact .inl ⟨_, .segment h⟩
    | true =>
      cases hid : s.hasSegment id with
      | true => exact .inl ⟨_, .segmentTaken h hid⟩
      | false =>
        refine .of_write (map_change_of_ok ?_) fun p => row?_insert_segment s _ p _
        rw [Store.createSegment, h, hid]
        rfl
  | link campaign segment => exact settled_link campaign segment
  | schedule id now time =>
    refine .of_status hs .scheduleMissing .schedule fun hdraft => ?_
    have hset := (s.markScheduled_fst id now time).2 hdraft
    refine .of_write ?_ (writes_setWhere rfl (fun _ => rfl) hset)
    rw [perform, Connection.schedule, map_call, schedule_of_status? hdraft, if_pos rfl]
    rfl
  | requestCancel id now =>
    refine .of_status hs .requestMissing .request fun hsending => ?_
    have hset := (s.markCancelled_fst id now).2 hsending
    refine .of_write ?_ (writes_setWhere rfl (fun _ => rfl) hset)
    rw [perform, Connection.requestCancel, map_call, requestCancel_eq, if_pos hset]
    rfl
  | complete id now =>
    refine .of_status hs .completeMissing .complete fun hsending => ?_
    have hset := (s.markCompleted_fst id now).2 hsending
    refine .of_write ?_ (writes_setWhere rfl (fun _ => rfl) hset)
    rw [perform, Connection.complete, map_call, complete_eq, if_pos hset]
    rfl
  | append event => exact .of_write rfl fun p => row?_append s p event
  | claim id now =>
    cases hset : (s.claim id now).1 with
    | true =>
      refine .of_write ?_ (writes_setWhere rfl (fun _ => rfl) hset)
      rw [perform, Connection.claim, map_call, hset]
      rfl
    | false =>
      have hnot := fun h => Bool.eq_false_iff.1 hset ((s.claim_fst id now).2 h)
      exact .inr (.inl (.claim (fun h => hnot (.inl h)) fun h => hnot (.inr h)))

/-- What a call over an open connection comes to. -/
theorem perform_ofStore (hs : s.Sound) (op : Operation) :
    (∃ failure, op.IsRefused s failure ∧ op.perform (.ofStore s) = (.failed failure, .ofStore s)) ∨
      (op.Misses s ∧ op.perform (.ofStore s) = (.missed, .ofStore s)) ∨
      ∃ s', op.perform (.ofStore s) = (.done, .ofStore s') ∧ op.Writes s s' := by
  rcases settled hs op with ⟨failure, hrefused⟩ | hmisses | hdone
  · exact .inl ⟨failure, hrefused, hrefused.perform_eq hs⟩
  · exact .inr (.inl ⟨hmisses, hmisses.perform_eq⟩)
  · exact .inr (.inr hdone)

theorem failed_iff (hs : s.Sound) (failure : Failure) :
    (op.perform (.ofStore s)).1 = .failed failure ↔ op.IsRefused s failure := by
  refine ⟨fun h => ?_, fun h => congrArg Prod.fst (h.perform_eq hs)⟩
  rcases perform_ofStore hs op with ⟨why, hwhy, heq⟩ | ⟨-, heq⟩ | ⟨s', heq, -⟩
  · rw [heq] at h
    cases h
    exact hwhy
  all_goals
    rw [heq] at h
    cases h

theorem missed_iff (hs : s.Sound) : (op.perform (.ofStore s)).1 = .missed ↔ op.Misses s := by
  refine ⟨fun h => ?_, fun h => congrArg Prod.fst h.perform_eq⟩
  rcases perform_ofStore hs op with ⟨why, -, heq⟩ | ⟨hmisses, -⟩ | ⟨s', heq, -⟩
  · rw [heq] at h
    cases h
  · exact hmisses
  · rw [heq] at h
    cases h

theorem snd_of_ne_done (hs : s.Sound) (h : (op.perform (.ofStore s)).1 ≠ .done) :
    (op.perform (.ofStore s)).2 = .ofStore s := by
  rcases perform_ofStore hs op with ⟨why, -, heq⟩ | ⟨-, heq⟩ | ⟨s', heq, -⟩
  · rw [heq]
  · rw [heq]
  · exact absurd (congrArg Prod.fst heq) h

theorem writes_of_done (hs : s.Sound) (h : (op.perform (.ofStore s)).1 = .done) :
    ∃ s', (op.perform (.ofStore s)).2 = .ofStore s' ∧ op.Writes s s' := by
  rcases perform_ofStore hs op with ⟨why, -, heq⟩ | ⟨-, heq⟩ | ⟨s', heq, hwrites⟩
  · rw [heq] at h
    cases h
  · rw [heq] at h
    cases h
  · exact ⟨s', congrArg Prod.snd heq, hwrites⟩

/-- **A call writes one row, or nothing.**  It fails for the reasons of `IsRefused`, and over a
connection that is closed; whatever it answers but that it was carried out, everything is as it was.
If it was carried out, the row that it is about is written, and no other.  To link a pair that is
linked already changes nothing and is no failure. -/
theorem perform_writes_or_keeps {c : Connection} (hs : c.store.Reached) (op : Operation) :
    (∀ failure, (op.perform c).1 = .failed failure ↔
        if c.isOpen then op.IsRefused c.store failure else failure = op.closed) ∧
      ((op.perform c).1 = .missed ↔ c.isOpen = true ∧ op.Misses c.store) ∧
      ((op.perform c).1 ≠ .done → (op.perform c).2 = c) ∧
      ((op.perform c).1 = .done →
        ∃ s', (op.perform c).2 = .ofStore s' ∧ op.Writes c.store s') ∧
      ∀ campaign segment, c.isOpen = true → (campaign, segment) ∈ c.store.links →
        (link campaign segment).perform c = (.done, c) := by
  obtain ⟨s, isOpen⟩ := c
  have hsound : s.Sound := hs.sound
  cases isOpen with
  | false =>
    have hclosed : op.perform ⟨s, false⟩ = (.failed op.closed, ⟨s, false⟩) :=
      perform_of_closed rfl op
    rw [hclosed]
    refine ⟨fun failure => ?_, ?_, fun _ => rfl, fun h => ?_, fun _ _ hopen => ?_⟩
    · simp [eq_comm]
    · simp
    · cases h
    · cases hopen
  | true =>
    refine ⟨fun failure => failed_iff hsound failure, ?_, snd_of_ne_done hsound,
      writes_of_done hsound, fun _ _ _ hmem => perform_link_of_mem hmem⟩
    exact (missed_iff hsound).trans (and_iff_right rfl).symm

namespace Sample

/-- A store with two drafts, one of which goes to a segment. -/
def linked : Store := empty.after
  [.upsertTenant ⟨"t", "T"⟩, .createCampaign "c" "" ⟨"t", "n", "s", "b", none, none⟩,
    .createCampaign "d" "" ⟨"t", "n", "s", "b", none, none⟩,
    .createSegment "g" "" "t" "G" ⟨.any, []⟩, .link "c" "g"]

/-- What the clock of the database shows. -/
def noon : String := "2024-01-02 12:00:00"

end Sample

/-- A draft is set a moment, and the other one is left alone; to link it to a segment that is not
there, to ask for it to stop, and to link the other one again changes nothing. -/
theorem perform_writes_or_keeps_linked :
    (∃ s', ((schedule "d" Sample.noon .start2024).perform (.ofStore Sample.linked)).2 =
          .ofStore s' ∧
        s'.row? (.campaign (.named "c")) = Sample.linked.row? (.campaign (.named "c"))) ∧
      ((link "d" "h").perform (.ofStore Sample.linked)).1 =
        .failed (.campaign (.store .foreignKey)) ∧
      ((requestCancel "d" Sample.noon).perform (.ofStore Sample.linked)).1 =
        .failed (.campaign (.notCancellable "d" .draft)) ∧
      (link "c" "g").perform (.ofStore Sample.linked) = (.done, .ofStore Sample.linked) := by
  have hreached : (Connection.ofStore Sample.linked).store.Reached := later_after empty _
  obtain ⟨-, -, -, hdone, hagain⟩ :=
    perform_writes_or_keeps hreached (schedule "d" Sample.noon .start2024)
  obtain ⟨hlink, -⟩ := perform_writes_or_keeps hreached (link "d" "h")
  obtain ⟨hrequest, -⟩ := perform_writes_or_keeps hreached (requestCancel "d" Sample.noon)
  refine ⟨?_, (hlink _).2 (.link (.inr rfl)), (hrequest _).2 (.request rfl (by decide)),
    hagain "c" "g" rfl (List.mem_singleton_self _)⟩
  obtain ⟨s', heq, hwrites⟩ := hdone rfl
  refine ⟨s', heq, ?_⟩
  rw [hwrites, if_neg (by decide)]
  rfl

end Operation

end Store
end Mailshot
