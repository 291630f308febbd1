import Mathlib.Data.List.Perm.Basic
import Mailshot.Proofs.Dispatch.Path

/-!
# What becomes of the contacts

While a dispatch is sending, a contact waits, is passed over, is about to have a worker, has one, or
had one that came to its end.  This file keeps the books.  Two invariants of a run say what the
numbers and the deeds amount to, each kept by whatever a step can come to:

* `Run.InOrder` is about the dispatcher: the contacts that had their turn are a beginning of the
  audience, those of them with an address had a worker started and the others were counted.
* `Run.InHand` is about the workers: each that was started is at work, recorded an event, or was
  lost with its channel, and the numbers say how many.

Together they hold of every `Run.Trail` from the opening (`Run.Trail.inOrder`, `Run.Trail.inHand`).
-/

set_option autoImplicit false

namespace Mailshot

/-- Whether a channel took the message. -/
def Attempt.isAccepted : Attempt → Bool
  | accepted _ => true
  | _ => false

namespace Dispatch

/-! ## The books -/

/-- The contacts whose workers were started, in order. -/
def startedIn (ds : List Deed) : List Contact := ds.filterMap Deed.started?

/-- What was handed to the channels, in order. -/
def calledIn (ds : List Deed) : List (Contact × OutboundEmail × Nat × Attempt) :=
  ds.filterMap Deed.called?

/-- The events that workers tried to append, in order. -/
def recordedIn (ds : List Deed) : List SendEvent := ds.filterMap Deed.recorded?

/-- The contacts whose workers were lost, in order. -/
def lostIn (ds : List Deed) : List Contact := ds.filterMap Deed.lost?

/-- What is picked out of a list comes in the same order. -/
theorem filterMap_cons_eq {α β : Type} (f : α → Option β) (a : α) (l : List α) :
    (a :: l).filterMap f = (f a).toList ++ l.filterMap f := by
  rw [List.filterMap_cons]
  cases f a <;> rfl

@[simp] theorem startedIn_nil : startedIn [] = [] := rfl

@[simp] theorem startedIn_cons (d : Deed) (ds : List Deed) :
    startedIn (d :: ds) = d.started?.toList ++ startedIn ds := filterMap_cons_eq _ d ds

@[simp] theorem startedIn_append (ds ds' : List Deed) :
    startedIn (ds ++ ds') = startedIn ds ++ startedIn ds' := List.filterMap_append

@[simp] theorem calledIn_nil : calledIn [] = [] := rfl

@[simp] theorem calledIn_cons (d : Deed) (ds : List Deed) :
    calledIn (d :: ds) = d.called?.toList ++ calledIn ds := filterMap_cons_eq _ d ds

@[simp] theorem calledIn_append (ds ds' : List Deed) :
    calledIn (ds ++ ds') = calledIn ds ++ calledIn ds' := List.filterMap_append

@[simp] theorem recordedIn_nil : recordedIn [] = [] := rfl

@[simp] theorem recordedIn_cons (d : Deed) (ds : List Deed) :
    recordedIn (d :: ds) = d.recorded?.toList ++ recordedIn ds := filterMap_cons_eq _ d ds

@[simp] theorem recordedIn_append (ds ds' : List Deed) :
    recordedIn (ds ++ ds') = recordedIn ds ++ recordedIn ds' := List.filterMap_append

@[simp] theorem lostIn_nil : lostIn [] = [] := rfl

@[simp] theorem lostIn_cons (d : Deed) (ds : List Deed) :
    lostIn (d :: ds) = d.lost?.toList ++ lostIn ds := filterMap_cons_eq _ d ds

@[simp] theorem lostIn_append (ds ds' : List Deed) :
    lostIn (ds ++ ds') = lostIn ds ++ lostIn ds' := List.filterMap_append

/-- The identifier of the contact that a worker is for. -/
@[simp] def Worker.contactId : Worker → String
  | .calling contact _ _ => contact.id
  | .recording event => event.contact

/-- Whether the message of a worker is not settled yet. -/
@[simp] def Worker.isCalling : Worker → Bool
  | .calling _ _ _ => true
  | .recording _ => false

/-- The contacts that have not had their turn: the one for whom a worker is about to be started, and
those that wait. -/
def Run.ahead (r : Run) : List Contact := (r.next.map (·.1)).toList ++ r.waiting

/-! ## The dispatcher -/

/-- Of the audience these contacts were taken, and dealt with in order. -/
structure Run.InOrder (audience taken : List Contact) (ds : List Deed) (r : Run) : Prop where
  /-- The size of the audience is known. -/
  audienceSize : r.job.audienceSize = audience.length
  /-- Those without an address are counted. -/
  skipped : r.skipped = taken.countP (·.address?.isNone)
  /-- Workers were started for the others. -/
  started : startedIn ds = taken.filter (·.address?.isSome)
  /-- A worker is started only for a contact with an address. -/
  address : ∀ contact address, r.next = some (contact, address) → contact.address? = some address
  /-- The others are ahead. -/
  going : r.stopped = false → audience = taken ++ r.ahead
  /-- After a stop nobody is ahead, and the stop came at a contact with an address. -/
  halted : r.stopped = true → r.ahead = [] ∧
    ∃ contact rest, audience = taken ++ contact :: rest ∧ contact.address?.isSome

/-- The books of the dispatcher are not touched by a worker. -/
theorem Run.InOrder.frame {audience taken : List Contact} {ds : List Deed} {r r' : Run}
    {d : Option Deed} (h : r.InOrder audience taken ds) (hjob : r'.job = r.job)
    (hskipped : r'.skipped = r.skipped) (hnext : r'.next = r.next)
    (hwaiting : r'.waiting = r.waiting) (hstopped : r'.stopped = r.stopped)
    (hd : startedIn d.toList = []) : r'.InOrder audience taken (ds ++ d.toList) where
  audienceSize := by rw [hjob]; exact h.audienceSize
  skipped := by rw [hskipped]; exact h.skipped
  started := by rw [startedIn_append, hd, List.append_nil]; exact h.started
  address := by rw [hnext]; exact h.address
  going := by rw [hstopped, Run.ahead, hnext, hwaiting]; exact h.going
  halted := by rw [hstopped, Run.ahead, hnext, hwaiting]; exact h.halted

/-- As long as somebody is ahead there was no stop. -/
theorem Run.InOrder.going_of_ahead {audience taken : List Contact} {ds : List Deed} {r : Run}
    {contact : Contact} {rest : List Contact} (h : r.InOrder audience taken ds)
    (hahead : r.ahead = contact :: rest) :
    r.stopped = false ∧ audience = taken ++ contact :: rest := by
  rw [← hahead]
  cases hstopped : r.stopped with
  | false => exact ⟨rfl, h.going hstopped⟩
  | true =>
    rw [(h.halted hstopped).1] at hahead
    cases hahead

/-- **Whatever a step can come to keeps the books of the dispatcher.** -/
theorem Run.InOrder.goes {limit : Nat} {audience taken : List Contact} {ds : List Deed}
    {r r' : Run} {d : Option Deed} (h : r.InOrder audience taken ds) (hgoes : r.Goes limit d r') :
    ∃ taken', r'.InOrder audience taken' (ds ++ d.toList) := by
  cases hgoes with
  | @pass contact rest hnext hwaiting haddress =>
    have hahead : r.ahead = contact :: rest := by rw [ahead, hnext, hwaiting]; rfl
    obtain ⟨hstopped, haudience⟩ := h.going_of_ahead hahead
    refine ⟨taken ++ [contact], ?_⟩
    constructor
    · exact h.audienceSize
    · simp [List.countP_append, haddress, h.skipped]
    · simp [List.filter_append, haddress, h.started]
    · exact h.address
    · intro _
      rw [haudience]
      simp [ahead, hnext]
    · intro hs
      exact absurd hs (by simp [hstopped])
  | @ready contact rest address hnext hwaiting haddress hroom =>
    have hahead : r.ahead = contact :: rest := by rw [ahead, hnext, hwaiting]; rfl
    obtain ⟨hstopped, haudience⟩ := h.going_of_ahead hahead
    refine ⟨taken, ?_⟩
    constructor
    · exact h.audienceSize
    · exact h.skipped
    · simpa using h.started
    · intro contact' address' heq
      obtain ⟨rfl, rfl⟩ := Prod.mk.inj (Option.some.inj heq)
      exact haddress
    · intro _
      exact haudience
    · intro hs
      exact absurd hs (by simp [hstopped])
  | @stop contact address hnext =>
    have hahead : r.ahead = contact :: r.waiting := by rw [ahead, hnext]; rfl
    obtain ⟨hstopped, haudience⟩ := h.going_of_ahead hahead
    refine ⟨taken, ?_⟩
    constructor
    · exact h.audienceSize
    · exact h.skipped
    · simpa using h.started
    · intro contact' address' heq
      cases heq
    · intro hs
      cases hs
    · intro _
      refine ⟨rfl, contact, r.waiting, haudience, ?_⟩
      rw [h.address contact address hnext]
      rfl
  | @start contact address hnext =>
    have hahead : r.ahead = contact :: r.waiting := by rw [ahead, hnext]; rfl
    obtain ⟨hstopped, haudience⟩ := h.going_of_ahead hahead
    have haddress := h.address contact address hnext
    refine ⟨taken ++ [contact], ?_⟩
    constructor
    · exact h.audienceSize
    · simp [List.countP_append, haddress, h.skipped]
    · rw [startedIn_append, h.started, List.filter_append]
      simp [haddress, startedIn, Deed.started?]
    · intro contact' address' heq
      cases heq
    · intro _
      rw [haudience]
      simp [ahead]
    · intro hs
      exact absurd hs (by simp [hstopped])
  | retry | accept | refuse | lack | lose | record =>
    exact ⟨taken, h.frame rfl rfl rfl rfl rfl rfl⟩

/-! ## The workers -/

/-- Every worker that was started is at work or came to an end, and the numbers say how many
messages are settled. -/
structure Run.InHand (ds : List Deed) (r : Run) : Prop where
  /-- A worker whose message is settled is counted once. -/
  settled : r.sent + r.failed + r.lost + r.workers.countP (·.isCalling) = (startedIn ds).length
  /-- A worker recorded an event, or was lost, or is at work. -/
  accounted : ((recordedIn ds).map (·.contact) ++ ((lostIn ds).map (·.id) ++
    r.workers.map (·.contactId))).Perm ((startedIn ds).map (·.id))

/-- A worker and the others. -/
theorem perm_cons_eraseIdx {α : Type} {l : List α} {i : Nat} {a : α} (h : l[i]? = some a) :
    l.Perm (a :: l.eraseIdx i) := by
  obtain ⟨hlt, rfl⟩ := List.getElem?_eq_some_iff.1 h
  exact (List.getElem_cons_eraseIdx_perm hlt).symm

/-- A worker that has become another, and the others. -/
theorem set_perm_cons_eraseIdx {α : Type} {l : List α} {i : Nat} {a : α} (h : l[i]? = some a)
    (b : α) : (l.set i b).Perm (b :: l.eraseIdx i) :=
  List.set_perm_cons_eraseIdx (List.getElem?_eq_some_iff.1 h).1 b

/-- The books of the workers are not touched by the dispatcher unless it starts one. -/
theorem Run.InHand.frame {ds : List Deed} {r r' : Run} (h : r.InHand ds)
    (hnumbers : r'.sent = r.sent ∧ r'.failed = r.failed ∧ r'.lost = r.lost)
    (hworkers : r'.workers = r.workers) : r'.InHand (ds ++ (none : Option Deed).toList) := by
  obtain ⟨hsent, hfailed, hlost⟩ := hnumbers
  rw [Option.toList_none, List.append_nil]
  constructor
  · rw [hsent, hfailed, hlost, hworkers]
    exact h.settled
  · rw [hworkers]
    exact h.accounted

/-- A worker goes on with its message, or settles it and is counted. -/
theorem Run.InHand.replace {ds : List Deed} {r r' : Run} {d : Option Deed} {i : Nat}
    {w w' : Worker} (h : r.InHand ds) (hworker : r.workers[i]? = some w)
    (hworkers : r'.workers = r.workers.set i w') (hid : w'.contactId = w.contactId)
    (hnumbers : r'.sent + r'.failed + r'.lost + (if w'.isCalling then 1 else 0) =
      r.sent + r.failed + r.lost + (if w.isCalling then 1 else 0))
    (hd : startedIn d.toList = [] ∧ recordedIn d.toList = [] ∧ lostIn d.toList = []) :
    r'.InHand (ds ++ d.toList) := by
  obtain ⟨hstarted, hrecorded, hlost⟩ := hd
  have hbefore := perm_cons_eraseIdx hworker
  have hafter := set_perm_cons_eraseIdx hworker w'
  constructor
  · have hsettled := h.settled
    rw [hbefore.countP_eq, List.countP_cons] at hsettled
    rw [hworkers, hafter.countP_eq, List.countP_cons, startedIn_append, hstarted, List.append_nil]
    omega
  · have hsame : (r'.workers.map (·.contactId)).Perm (r.workers.map (·.contactId)) := by
      rw [hworkers]
      refine (hafter.map _).trans ?_
      rw [List.map_cons, hid, ← List.map_cons]
      exact (hbefore.map _).symm
    rw [startedIn_append, recordedIn_append, lostIn_append, hstarted, hrecorded, hlost]
    simp only [List.append_nil]
    exact ((hsame.append_left _).append_left _).trans h.accounted

/-- **Whatever a step can come to keeps the books of the workers.** -/
theorem Run.InHand.goes {limit : Nat} {ds : List Deed} {r r' : Run} {d : Option Deed}
    (h : r.InHand ds) (hgoes : r.Goes limit d r') : r'.InHand (ds ++ d.toList) := by
  cases hgoes with
  | pass | ready | stop => exact h.frame ⟨rfl, rfl, rfl⟩ rfl
  | @start contact address hnext =>
    have hsettled := h.settled
    constructor
    · simp at hsettled ⊢
      omega
    · simpa using h.accounted.append_right [contact.id]
  | retry hworker => exact h.replace hworker rfl rfl rfl ⟨rfl, rfl, rfl⟩
  | accept | refuse | lack =>
    next hworker =>
      refine h.replace hworker rfl rfl ?_ ⟨rfl, rfl, rfl⟩
      simp
      omega
  | @lose i contact email place hworker =>
    have hperm := perm_cons_eraseIdx hworker
    have hsettled := h.settled
    have haccounted := h.accounted
    constructor
    · rw [hperm.countP_eq, List.countP_cons] at hsettled
      simp at hsettled ⊢
      omega
    · have hworkers := (hperm.map (·.contactId)).symm
      refine List.Perm.trans ?_ (by simpa using haccounted)
      simpa using (hworkers.append_left ((lostIn ds).map (·.id))).append_left
        ((recordedIn ds).map (·.contact))
  | @record i event answer hworker =>
    have hperm := perm_cons_eraseIdx hworker
    have hsettled := h.settled
    have haccounted := h.accounted
    constructor
    · rw [hperm.countP_eq, List.countP_cons] at hsettled
      simpa using hsettled
    · have hworkers := (hperm.map (·.contactId)).symm
      refine List.Perm.trans ?_ (by simpa using haccounted)
      simpa using (List.perm_middle.symm.trans
        (hworkers.append_left ((lostIn ds).map (·.id)))).append_left
          ((recordedIn ds).map (·.contact))

/-! ## From the opening on -/

/-- What the messages have in common stays as it is. -/
theorem Run.Goes.job_eq {limit : Nat} {r r' : Run} {d : Option Deed} (h : r.Goes limit d r') :
    r'.job = r.job := by
  cases h <;> rfl

/-- A message is counted as sent just if a channel took it. -/
theorem Run.Goes.sent_eq {limit : Nat} {r r' : Run} {d : Option Deed} (h : r.Goes limit d r') :
    r'.sent = r.sent + (calledIn d.toList).countP (·.2.2.2.isAccepted) := by
  cases h <;> rfl

namespace Run.Trail

variable {limit : Nat} {ds : List Deed} {r r' : Run}

theorem sent_eq (h : r.Trail limit ds r') :
    r'.sent = r.sent + (calledIn ds).countP (·.2.2.2.isAccepted) := by
  induction h with
  | refl => rfl
  | step _ hgoes ih => rw [hgoes.sent_eq, ih, calledIn_append, List.countP_append, Nat.add_assoc]

theorem job_eq (h : r.Trail limit ds r') : r'.job = r.job := by
  induction h with
  | refl => rfl
  | step _ hgoes ih => rw [hgoes.job_eq, ih]

variable {σ : Type} {e : Engine σ} {campaign : Campaign} {audience : Audience} {tenant : Tenant}

/-- What is sent is the campaign that was got. -/
theorem campaign_eq (h : (e.opening campaign audience tenant).Trail limit ds r) :
    r.job.campaign = campaign := by
  rw [h.job_eq]
  rfl

/-- **The books of the dispatcher are right at any time.** -/
theorem inOrder (h : (e.opening campaign audience tenant).Trail limit ds r) :
    ∃ taken, r.InOrder audience.contacts taken ds := by
  induction h with
  | refl =>
    refine ⟨[], ?_⟩
    constructor
    · rfl
    · rfl
    · rfl
    · intro contact address heq
      cases heq
    · intro _
      rfl
    · intro hs
      cases hs
  | step _ hgoes ih =>
    obtain ⟨taken, htaken⟩ := ih
    exact htaken.goes hgoes

/-- **The books of the workers are right at any time.** -/
theorem inHand (h : (e.opening campaign audience tenant).Trail limit ds r) : r.InHand ds := by
  induction h with
  | refl => exact ⟨rfl, .refl _⟩
  | step _ hgoes ih => exact ih.goes hgoes

/-- Of an audience in which no identifier comes twice, no contact has two workers started. -/
theorem nodup_started (h : (e.opening campaign audience tenant).Trail limit ds r)
    (hids : audience.ids.Nodup) : ((startedIn ds).map (·.id)).Nodup := by
  obtain ⟨taken, htaken⟩ := h.inOrder
  have hsub : (startedIn ds).Sublist audience.contacts := by
    rw [htaken.started]
    refine List.filter_sublist.trans ?_
    cases hstopped : r.stopped with
    | false =>
      rw [htaken.going hstopped]
      exact List.sublist_append_left _ _
    | true =>
      obtain ⟨-, contact, rest, haudience, -⟩ := htaken.halted hstopped
      rw [haudience]
      exact List.sublist_append_left _ _
  exact hids.sublist (hsub.map _)

end Run.Trail

end Dispatch
end Mailshot
