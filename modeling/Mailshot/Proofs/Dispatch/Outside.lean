import Mailshot.Proofs.Dispatch.Exclusive
import Mailshot.Proofs.Dispatch.Log
import Mailshot.Proofs.Dispatch.Twins
import Mailshot.Proofs.Store.Agreement

/-!
# A store and the world outside

A dispatch works with a store, and with what is outside of it: channels, clocks, and whatever may
keep an event from being appended.  `Outside` is all of this, on a memory of its own; what it does
to the store is at most to ask that sending stop.  `Outside.engine` is a dispatch between the two.

* `Outside.touches_finish` says what such a dispatch does to the store: it is touched
  (`Store.Touched`) where the campaign stands, and events are appended.
* `Outside.Alike` compares two worlds.  Together with two stores that agree on the campaign and its
  tenant they make two dispatches that come to the same (`Outside.Alike.twins`).
-/

set_option autoImplicit false

namespace Mailshot
namespace Dispatch

/-- What a dispatch works with beside the store, on a memory of its own. -/
structure Outside (μ : Type) where
  /-- What the channels are called and what they do with a message: how they answer, and whether
  they ask that sending stop. -/
  channels : List (String × (OutboundEmail → StateM μ (Attempt × Bool)))
  /-- There is at least one, and no more than are ever tried. -/
  size_bounds : 0 < channels.length ∧ channels.length ≤ maxAttempts
  /-- Why an event cannot be appended, if it cannot. -/
  refuses : SendEvent → StateM μ (Option CampaignError)
  /-- What time it is. -/
  clock : StateM μ Instant
  /-- What the clock of the database shows. -/
  now : μ → String

section Halves

variable {μ α : Type}

/-- An action on the store. -/
def onStore (m : StateM Connection α) : StateM (Connection × μ) α :=
  fun s => ((m s.1).1, (m s.1).2, s.2)

/-- An action on the store that notes the time. -/
def inTime (now : μ → String) (m : String → StateM Connection α) : StateM (Connection × μ) α :=
  fun s => onStore (m (now s.2)) s

/-- An action outside of the store. -/
def aside (m : StateM μ α) : StateM (Connection × μ) α := fun s => ((m s.2).1, s.1, (m s.2).2)

end Halves

namespace Outside

variable {μ : Type}

/-- A channel of a dispatch of the campaign with an identifier. -/
def channel (now : μ → String) (id : String)
    (c : String × (OutboundEmail → StateM μ (Attempt × Bool))) : Channel (Connection × μ) where
  name := c.1
  send email := do
    let out ← aside (c.2 email)
    if out.2 then do
      let _ ← inTime now (Connection.requestCancel id)
      return out.1
    else return out.1

/-- Appends an event, unless that is not possible. -/
def record (o : Outside μ) (event : SendEvent) :
    StateM (Connection × μ) (Except CampaignError Unit) := do
  match ← aside (o.refuses event) with
  | some err => return .error err
  | none => onStore (Connection.append event)

/-- A dispatch of the campaign with an identifier, between the store and the world outside. -/
def engine (o : Outside μ) (id : String) (concurrency : Nat) (defaultSender : Option String) :
    Engine (Connection × μ) where
  campaigns := {
    load := fun q => onStore (Connection.load q)
    tenant := fun q => onStore (Connection.tenant q)
    linkedRuleGroups := fun q => onStore (Connection.linkedRuleGroups q)
    claim := fun q => inTime o.now (Connection.claim q)
    complete := fun q => inTime o.now (Connection.complete q)
    cancelRequested := fun q => onStore (Connection.cancelRequested q) }
  contacts := {
    matching := fun p tenant => onStore (Connection.contactSource.matching p tenant)
    count := fun p tenant => onStore (Connection.contactSource.count p tenant) }
  failover := ⟨o.channels.map (channel o.now id), by
    rw [List.length_map]
    exact o.size_bounds⟩
  record := o.record
  clock := aside o.clock
  concurrency := concurrency
  defaultSender := defaultSender

/-! ## What such a dispatch does to the store -/

/-- Whether a channel ever asks that sending stop. -/
def MayStop (o : Outside μ) : Prop :=
  ∃ c ∈ o.channels, ∃ email m, (c.2 email m).1.2 = true

/-- A connection is touched where a campaign stands, and these events are appended. -/
def Touches (id : String) (mayStop : Prop) (events : List SendEvent) (c c' : Connection) : Prop :=
  Store.Touched id mayStop events c.store c'.store ∧ c'.isOpen = c.isOpen

theorem Touches.refl (id : String) (mayStop : Prop) (c : Connection) :
    Touches id mayStop [] c c := ⟨.refl _, rfl⟩

theorem Touches.trans {id : String} {mayStop : Prop} {events events' : List SendEvent}
    {c c' c'' : Connection} (h : Touches id mayStop events c c')
    (h' : Touches id mayStop events' c' c'') : Touches id mayStop (events ++ events') c c'' :=
  ⟨h.1.trans h'.1, h'.2.trans h.2⟩

theorem touches_claim (id now : String) (mayStop : Prop) (c : Connection) :
    Touches id mayStop [] c (Connection.claim id now c).2 := by
  rw [Connection.claim, Connection.call]
  split
  · exact ⟨.claim _ now, rfl⟩
  · exact .refl _ _ _

theorem touches_complete (id now : String) (mayStop : Prop) (c : Connection) :
    Touches id mayStop [] c (Connection.complete id now c).2 := by
  rw [Connection.complete, Connection.call]
  split
  · exact ⟨.complete _ now, rfl⟩
  · exact .refl _ _ _

theorem touches_requestCancel (id now : String) {mayStop : Prop} (hstop : mayStop)
    (c : Connection) : Touches id mayStop [] c (Connection.requestCancel id now c).2 := by
  rw [Connection.requestCancel, Connection.call]
  split
  · refine ⟨?_, rfl⟩
    dsimp only
    rw [Store.requestCancel_snd]
    exact .markCancelled hstop _ now
  · exact .refl _ _ _

/-- An event is appended just if that is the answer. -/
theorem touches_append (id : String) (mayStop : Prop) (event : SendEvent) (c : Connection) :
    Touches id mayStop (appendedIn [.recorded event (Connection.append event c).1]) c
      (Connection.append event c).2 := by
  rw [Connection.append, Connection.change, Connection.call]
  split
  · exact ⟨.append _ event, rfl⟩
  · exact .refl _ _ _

variable (o : Outside μ) (id : String) (concurrency : Nat) (defaultSender : Option String)

theorem touches_record (mayStop : Prop) (event : SendEvent) (s : Connection × μ) :
    Touches id mayStop (appendedIn [.recorded event (o.record event s).1]) s.1
      (o.record event s).2.1 := by
  simp only [record, Engine.bind_apply]
  cases (aside (o.refuses event) s).1 with
  | some err => exact .refl _ _ _
  | none =>
    exact touches_append id mayStop event s.1

/-- Reading leaves the store as it is. -/
theorem touches_onStore_read {ε α : Type} (mayStop : Prop) (refuse : StoreFault → ε)
    (f : Store → Except ε α) (s : Connection × μ) :
    Touches id mayStop [] s.1 (onStore (Connection.read refuse f) s).2.1 := by
  show Touches id mayStop [] s.1 (Connection.read refuse f s.1).2
  rw [read_snd]
  exact .refl _ _ _

/-- Whatever else such a dispatch calls appends nothing. -/
theorem keeping : (o.engine id concurrency defaultSender).Keeping fun s s' =>
    Touches id o.MayStop [] s.1 s'.1 where
  refl s := .refl _ _ s.1
  trans _ _ _ h h' := h.trans h'
  load q s := touches_onStore_read id _ _ _ s
  tenant q s := touches_onStore_read id _ _ _ s
  linkedRuleGroups q s := touches_onStore_read id _ _ _ s
  cancelRequested q s := touches_onStore_read id _ _ _ s
  contacts p tenant s := by
    show Touches id o.MayStop [] s.1 (Connection.contactSource.matching p tenant s.1).2
    rw [contactSource_matching_snd]
    exact .refl _ _ _
  channels c hc email s := by
    obtain ⟨c', hc', rfl⟩ := List.mem_map.1 hc
    simp only [channel, Engine.bind_apply]
    cases hstop : (aside (c'.2 email) s).1.2 with
    | false => exact .refl _ _ _
    | true => exact touches_requestCancel id _ ⟨c', hc', email, s.2, hstop⟩ s.1
  clock s := .refl _ _ s.1

end Outside

/-- The campaign that is claimed or completed by it. -/
def Deed.campaign? : Deed → Option String
  | asked campaign _ | completed campaign _ => some campaign
  | _ => none

namespace Outside

variable {μ : Type} {o : Outside μ} {id : String} {concurrency : Nat}
  {defaultSender : Option String}

/-- **What a step does to the store**, if it claims and completes no other campaign. -/
theorem touches_step (turn : Engine.Turn) (stage : Stage) (s : Connection × μ)
    (hid : ∀ d ∈ (o.engine id concurrency defaultSender).deed turn stage s,
      ∀ q ∈ d.campaign?, q = id) :
    Touches id o.MayStop
      (appendedIn ((o.engine id concurrency defaultSender).deed turn stage s).toList) s.1
      ((o.engine id concurrency defaultSender).step turn stage s).2.1 := by
  have hafter := (o.keeping id concurrency defaultSender).after_step turn stage s
  generalize (o.engine id concurrency defaultSender).deed turn stage s = d at hafter hid ⊢
  generalize ((o.engine id concurrency defaultSender).step turn stage s).2 = s' at hafter ⊢
  cases hafter with
  | asked q =>
    obtain rfl : q = id := hid _ rfl q rfl
    exact touches_claim q _ _ s.1
  | completed q =>
    obtain rfl : q = id := hid _ rfl q rfl
    exact touches_complete q _ _ s.1
  | recorded event => exact o.touches_record id _ event s
  | other hd h =>
    have hnone : appendedIn d.toList = [] := by
      cases d with
      | none => rfl
      | some deed =>
        have hcommit := hd deed rfl
        cases deed <;> first | rfl | cases hcommit
    rw [hnone]
    exact h

/-- The same channel, but that it never asks for a stop. -/
def quietChannel (c : String × (OutboundEmail → StateM μ (Attempt × Bool))) :
    String × (OutboundEmail → StateM μ (Attempt × Bool)) :=
  (c.1, fun email m => (((c.2 email m).1.1, false), (c.2 email m).2))

/-- The same world with channels that never ask for a stop. -/
def quiet (o : Outside μ) : Outside μ where
  channels := o.channels.map quietChannel
  size_bounds := by
    rw [List.length_map]
    exact o.size_bounds
  refuses := o.refuses
  clock := o.clock
  now := o.now

theorem not_mayStop_quiet : ¬ o.quiet.MayStop := by
  rintro ⟨c, hc, email, m, hstop⟩
  obtain ⟨c', -, rfl⟩ := List.mem_map.1 hc
  cases hstop

/-- In this step a channel asks that sending stop. -/
def Asks (o : Outside μ) (turn : Engine.Turn) (stage : Stage) (s : Connection × μ) : Prop :=
  ∃ r i contact email place c, stage = .sending r ∧ turn = .worker i ∧
    r.workers[i]? = some (.calling contact email place) ∧ o.channels[place]? = some c ∧
    (c.2 email s.2).1.2 = true

/-- Unless a channel asks for a stop, it makes no difference whether it might. -/
theorem quiet_step (id : String) (concurrency : Nat) (defaultSender : Option String)
    {turn : Engine.Turn} {stage : Stage} {s : Connection × μ} (h : ¬ o.Asks turn stage s) :
    (o.quiet.engine id concurrency defaultSender).step turn stage s =
        (o.engine id concurrency defaultSender).step turn stage s ∧
      (o.quiet.engine id concurrency defaultSender).deed turn stage s =
        (o.engine id concurrency defaultSender).deed turn stage s := by
  cases stage with
  | sending r =>
    cases turn with
    | dispatcher => exact ⟨rfl, rfl⟩
    | worker i =>
      simp only [Engine.step, Engine.workerStep, Engine.deed]
      cases hworker : r.workers[i]? with
      | none => exact ⟨rfl, rfl⟩
      | some w =>
        cases w with
        | recording event => exact ⟨rfl, rfl⟩
        | calling contact email place =>
          have hplace : (o.quiet.engine id concurrency defaultSender).failover.channels[place]? =
              (o.channels[place]?).map fun c => channel o.now id (quietChannel c) := by
            simp [engine, quiet, Function.comp_def]
          have hplace' : (o.engine id concurrency defaultSender).failover.channels[place]? =
              (o.channels[place]?).map (channel o.now id) := by
            simp [engine]
          have hlength : (o.quiet.engine id concurrency defaultSender).failover.channels.length =
              (o.engine id concurrency defaultSender).failover.channels.length := by
            simp [engine, quiet]
          cases hchannel : o.channels[place]? with
          | none =>
            simp only [hplace, hplace', hchannel, Option.map_none]
            exact ⟨rfl, trivial⟩
          | some c =>
            have hgo : (c.2 email s.2).1.2 = false := Bool.eq_false_iff.2 fun hstop =>
              h ⟨r, i, contact, email, place, c, rfl, rfl, hworker, hchannel, hstop⟩
            have hsend : (channel o.now id (quietChannel c)).send email s =
                (channel o.now id c).send email s := by
              have hnot : ¬ (aside (c.2 email) s).1.2 = true := Bool.eq_false_iff.1 hgo
              simp only [channel, Engine.bind_apply]
              rw [if_neg hnot]
              rfl
            simp only [hplace, hplace', hchannel, Option.map_some, hlength, Engine.bind_apply, hsend]
            exact ⟨rfl, trivial⟩
  | resolving campaign audience groups => cases groups <;> cases turn <;> exact ⟨rfl, rfl⟩
  | _ => cases turn <;> exact ⟨rfl, rfl⟩

theorem lawful : (o.engine id concurrency defaultSender).Lawful Prod.fst where
  load _ _ := rfl
  tenant _ _ := rfl
  linkedRuleGroups _ _ := rfl
  claim _ s := ⟨o.now s.2, rfl⟩
  complete _ s := ⟨o.now s.2, rfl⟩
  cancelRequested _ _ := rfl
  contacts p tenant s := by
    show Store.Elsewhere s.1.store (Connection.contactSource.matching p tenant s.1).2.store
    rw [contactSource_matching_snd]
    exact .refl _
  channels c hc email s := by
    obtain ⟨c', hc', rfl⟩ := List.mem_map.1 hc
    simp only [channel, Engine.bind_apply]
    split
    · show Store.Elsewhere s.1.store (Connection.requestCancel id (o.now _) s.1).2.store
      rw [Connection.requestCancel, Connection.call]
      split
      · exact .requestCancel id _
      · exact .refl _
    · exact .refl _
  record event s := by
    simp only [Outside.engine, record, Engine.bind_apply]
    cases (aside (o.refuses event) s).1 with
    | some err => exact .refl _
    | none =>
      show Store.Elsewhere s.1.store (Connection.append event s.1).2.store
      rw [Connection.append, Connection.change, Connection.call]
      split
      · exact .of_statement (.append event) rfl
      · exact .refl _
  clock s := .refl _

/-- A dispatch of a campaign claims and completes no other. -/
theorem campaign_of_mem {recipients : Recipients} {ds : List Deed} {stage : Stage}
    (h : (o.engine id concurrency defaultSender).Path (.loading id recipients) ds stage) {d : Deed}
    (hd : d ∈ ds) : ∀ q ∈ d.campaign?, q = id := by
  intro q hq
  rcases h.through_claiming with ⟨rfl, -⟩ | ⟨campaign, audience, tenant, hreads, -, -, hafter⟩
  · cases hd
  · obtain rfl : campaign.id = id := lawful.id_eq hreads
    rcases hafter.since.won_or_not with hwon | ⟨rfl, -⟩ | ⟨answer, -, rfl, -⟩
    · rcases hwon.cases_of_mem hd with rfl | hguard | ⟨answer, rfl⟩
      · exact (Option.some.inj hq).symm
      · have hnone : d.campaign? = none := by
          cases d <;> first | rfl | cases hguard
        rw [hnone] at hq
        cases hq
      · exact (Option.some.inj hq).symm
    · cases hd
    · obtain rfl := List.mem_singleton.1 hd
      exact (Option.some.inj hq).symm

/-- A step changes whether sending is to stop only if a channel asks for it. -/
theorem touches_step_asks (turn : Engine.Turn) (stage : Stage) (s : Connection × μ)
    (hid : ∀ d ∈ (o.engine id concurrency defaultSender).deed turn stage s,
      ∀ q ∈ d.campaign?, q = id) :
    Touches id (o.Asks turn stage s)
      (appendedIn ((o.engine id concurrency defaultSender).deed turn stage s).toList) s.1
      ((o.engine id concurrency defaultSender).step turn stage s).2.1 := by
  by_cases hasks : o.Asks turn stage s
  · have htouches := touches_step turn stage s hid
    exact ⟨htouches.1.mono fun _ => hasks, htouches.2⟩
  · obtain ⟨hstep, hdeed⟩ := quiet_step id concurrency defaultSender hasks
    rw [← hdeed] at hid
    have htouches := touches_step turn stage s hid
    rw [hstep, hdeed] at htouches
    exact ⟨htouches.1.mono fun hmay => absurd hmay not_mayStop_quiet, htouches.2⟩

/-- **What a dispatch does to the store**: where its campaign stands is changed and the time noted,
and whether it was asked to stop if a channel asked for that, and the events that it recorded are
appended. -/
theorem touches_finish (stage : Stage) (s : Connection × μ)
    (hid : ∀ d ∈ (o.engine id concurrency defaultSender).deedsOf stage s,
      ∀ q ∈ d.campaign?, q = id) :
    Touches id
      (∃ p ∈ (o.engine id concurrency defaultSender).passed stage s, o.Asks p.1.turn p.1 p.2)
      (appendedIn ((o.engine id concurrency defaultSender).deedsOf stage s)) s.1
      ((o.engine id concurrency defaultSender).finish stage s).2.1 := by
  revert hid
  fun_induction Engine.finish (o.engine id concurrency defaultSender) stage s with
  | case1 stage s ending hending =>
    intro hid
    cases stage with
    | ended ending' =>
      rw [Engine.deedsOf_ended]
      exact .refl _ _ _
    | _ => cases hending
  | case2 stage s hending next ih =>
    intro hid
    have hfirst : (o.engine id concurrency defaultSender).Proceeds stage s _ _ _ :=
      .step hending (.refl _ _)
    rw [hfirst.deedsOf_eq, List.append_nil] at hid ⊢
    have hstep := touches_step_asks stage.turn stage s fun d hd =>
      hid d (List.mem_append_left _ (Option.mem_toList.2 hd))
    have hrest := ih fun d hd => hid d (List.mem_append_right _ hd)
    rw [appendedIn, List.filterMap_append, Engine.passed_eq hending]
    refine Touches.trans ⟨hstep.1.mono fun hasks => ?_, hstep.2⟩
      ⟨hrest.1.mono fun hasks => ?_, hrest.2⟩
    · exact ⟨_, List.mem_cons_self, hasks⟩
    · obtain ⟨p, hp, hasks⟩ := hasks
      exact ⟨p, List.mem_cons_of_mem _ hp, hasks⟩

/-! ## Two worlds compared -/

/-- Two worlds do the same except for messages to one address, and up to the time, of which nothing
is asked. -/
structure Alike (hidden : Option String) (logged : Prop) (M : μ → μ → Prop) (o o' : Outside μ) :
    Prop where
  /-- The channels have the same names and do the same for all other addresses. -/
  channels : List.Forall₂ (fun c c' => c'.1 = c.1 ∧
    ∀ email, email.recipient ∉ hidden → Matches M (c.2 email) (c'.2 email)) o.channels o'.channels
  /-- What they do for this address cannot be told afterwards, and is not to ask for a stop. -/
  send_left : ∀ c ∈ o.channels, ∀ email, email.recipient ∈ hidden →
    Unseen M (c.2 email) ∧ ∀ m, (c.2 email m).1.2 = false
  send_right : ∀ c ∈ o'.channels, ∀ email, email.recipient ∈ hidden →
    Unseen (flip M) (c.2 email) ∧ ∀ m, (c.2 email m).1.2 = false
  /-- Any events may be kept from being appended, unless that is ruled out. -/
  refuses : logged → ∀ event event' m m', event'.untimed = event.untimed → M m m' →
    (o'.refuses event' m').1 = (o.refuses event m).1
  refuses_left : ∀ event, Unseen M (o.refuses event)
  refuses_right : ∀ event, Unseen (flip M) (o'.refuses event)
  clock_left : Unseen M o.clock
  clock_right : Unseen (flip M) o'.clock

/-- What two dispatches know of each other: the stores agree, one can be reached as the other can,
and what is outside matches. -/
structure Near (tenant id : String) (M : μ → μ → Prop) (s s' : Connection × μ) : Prop where
  store : Store.AgreeOn tenant id s.1.store s'.1.store
  isOpen : s'.1.isOpen = s.1.isOpen
  memory : M s.2 s'.2

section Near

variable {tenant : String} {M : μ → μ → Prop} {ε α : Type} {refuse : StoreFault → ε}

/-- What is read is the same if the stores agree on it. -/
theorem matches_read {f : Store → Except ε α}
    (hf : ∀ s s', Store.AgreeOn tenant id s s' → f s' = f s) :
    Matches (Near tenant id M) (onStore (Connection.read refuse f))
      (onStore (Connection.read refuse f)) := by
  intro s s' h
  have hread : (Connection.read refuse f s'.1).1 = (Connection.read refuse f s.1).1 := by
    rw [Connection.read, Connection.read, h.isOpen, hf _ _ h.store]
    split <;> rfl
  refine ⟨hread, ?_⟩
  have hleft : (onStore (Connection.read refuse f) s).2 = s :=
    Prod.ext (read_snd refuse f s.1) rfl
  have hright : (onStore (Connection.read refuse f) s').2 = s' :=
    Prod.ext (read_snd refuse f s'.1) rfl
  rw [hleft, hright]
  exact h

/-- What is changed is answered in the same way if the stores agree on it, and they still do,
whatever time it is. -/
theorem matches_call {f : String → Store → Except ε α × Store} (now now' : μ → String)
    (hf : ∀ s s' time time', Store.AgreeOn tenant id s s' →
      (f time' s').1 = (f time s).1 ∧ Store.AgreeOn tenant id (f time s).2 (f time' s').2) :
    Matches (Near tenant id M) (inTime now fun time => Connection.call refuse (f time))
      (inTime now' fun time => Connection.call refuse (f time)) := by
  intro s s' h
  obtain ⟨hanswer, hstore⟩ := hf _ _ (now s.2) (now' s'.2) h.store
  have hopen := h.isOpen
  simp only [inTime, onStore, Connection.call, hopen]
  split
  · exact ⟨hanswer, hstore, rfl, h.memory⟩
  · exact ⟨rfl, h⟩

/-- A channel that does the same outside does the same. -/
theorem matches_channel {c c' : String × (OutboundEmail → StateM μ (Attempt × Bool))}
    {email : OutboundEmail} (now now' : μ → String) (h : Matches M (c.2 email) (c'.2 email)) :
    Matches (Near tenant id M) ((channel now id c).send email)
      ((channel now' id c').send email) := by
  intro s s' hnear
  obtain ⟨hanswer, hmemory⟩ := h s.2 s'.2 hnear.memory
  have haside : (aside (c'.2 email) s').1 = (aside (c.2 email) s).1 := hanswer
  have hnear' : Near tenant id M (aside (c.2 email) s).2 (aside (c'.2 email) s').2 :=
    ⟨hnear.store, hnear.isOpen, hmemory⟩
  simp only [channel, Engine.bind_apply, haside]
  cases (aside (c.2 email) s).1.2 with
  | false => exact ⟨rfl, hnear'⟩
  | true =>
    have hcancel : Matches (Near tenant id M) (inTime now (Connection.requestCancel id))
        (inTime now' (Connection.requestCancel id)) :=
      matches_call now now' fun _ _ time time' h => h.requestCancel time time'
    exact ⟨rfl, (hcancel _ _ hnear').2⟩

/-- A channel that makes no difference outside, and does not ask for a stop, makes none. -/
theorem unseen_channel {R : Connection × μ → Connection × μ → Prop} {N : μ → μ → Prop}
    (hR : ∀ s s' m, R s s' → N m s'.2 → R (s.1, m) s') (hN : ∀ s s', R s s' → N s.2 s'.2)
    {c : String × (OutboundEmail → StateM μ (Attempt × Bool))}
    {email : OutboundEmail} {now : μ → String} (h : Unseen N (c.2 email))
    (hstop : ∀ m, (c.2 email m).1.2 = false) : Unseen R ((channel now id c).send email) := by
  intro s s' hnear
  have hgo : (aside (c.2 email) s).1.2 = false := hstop s.2
  simp only [channel, Engine.bind_apply, hgo]
  exact hR s s' _ hnear (h _ _ (hN s s' hnear))

/-- Appending makes no difference if neither the event does nor whether it is appended. -/
theorem unseen_record {R : Connection × μ → Connection × μ → Prop} {N : μ → μ → Prop}
    (hR : ∀ s s' m, R s s' → N m s'.2 → R (s.1, m) s') (hN : ∀ s s', R s s' → N s.2 s'.2)
    {event : SendEvent} (happend : ∀ s s', R s s' →
      R ({ s.1 with store := s.1.store.append event }, s.2) s')
    {o : Outside μ} (h : Unseen N (o.refuses event)) : Unseen R (o.record event) := by
  intro s s' hnear
  have hnear' : R (aside (o.refuses event) s).2 s' := hR s s' _ hnear (h _ _ (hN s s' hnear))
  simp only [record, Engine.bind_apply]
  cases (aside (o.refuses event) s).1 with
  | some err => exact hnear'
  | none =>
    show R ((Connection.append event s.1).2, (o.refuses event s.2).2) s'
    rw [Connection.append, Connection.change, Connection.call]
    split
    · exact happend _ _ hnear'
    · exact hnear'

end Near

/-- **Two worlds that are alike make dispatches that come to the same**, if the stores agree on the
campaign and its tenant. -/
theorem Alike.twins {hidden : Option String} {logged : Prop} {M : μ → μ → Prop}
    {o o' : Outside μ} (h : Alike hidden logged M o o') (tenant id : String) (concurrency : Nat)
    (defaultSender : Option String) :
    Engine.Twins hidden logged (Near tenant id M) id tenant (o.engine id concurrency defaultSender)
      (o'.engine id concurrency defaultSender) where
  concurrency := rfl
  defaultSender := rfl
  channels := by
    show List.Forall₂ _ (o.channels.map (channel o.now id)) (o'.channels.map (channel o'.now id))
    rw [List.forall₂_map_left_iff, List.forall₂_map_right_iff]
    exact h.channels.imp fun c c' ⟨hname, hsend⟩ =>
      ⟨hname, fun email hshown => matches_channel o.now o'.now (hsend email hshown)⟩
  send_left c hc email hhidden := by
    obtain ⟨c, hmem, rfl⟩ := List.mem_map.1 hc
    obtain ⟨hunseen, hstop⟩ := h.send_left c hmem email hhidden
    exact unseen_channel (fun s s' m hnear hm => ⟨hnear.store, hnear.isOpen, hm⟩)
      (fun s s' hnear => hnear.memory) hunseen hstop
  send_right c hc email hhidden := by
    obtain ⟨c, hmem, rfl⟩ := List.mem_map.1 hc
    obtain ⟨hunseen, hstop⟩ := h.send_right c hmem email hhidden
    exact unseen_channel (fun s s' m hnear hm => ⟨hnear.store, hnear.isOpen, hm⟩)
      (fun s s' hnear => hnear.memory) hunseen hstop
  record hlogged event event' s s' huntimed hnear := by
    have hrefuses : (aside (o'.refuses event') s').1 = (aside (o.refuses event) s).1 :=
      h.refuses hlogged event event' s.2 s'.2 huntimed hnear.memory
    show (o'.record event' s').1 = (o.record event s).1
    simp only [record, Engine.bind_apply, hrefuses]
    cases (aside (o.refuses event) s).1 with
    | some err => rfl
    | none =>
      show (Connection.append event' s'.1).1 = (Connection.append event s.1).1
      rw [Connection.append, Connection.append, Connection.change, Connection.change,
        Connection.call, Connection.call, hnear.isOpen]
      split <;> rfl
  record_left event := unseen_record (fun s s' m hnear hm => ⟨hnear.store, hnear.isOpen, hm⟩)
    (fun s s' hnear => hnear.memory)
    (fun s s' hnear => ⟨hnear.store.append_left event, hnear.isOpen, hnear.memory⟩)
    (h.refuses_left event)
  record_right event := unseen_record (fun s s' m hnear hm => ⟨hnear.store, hnear.isOpen, hm⟩)
    (fun s s' hnear => hnear.memory)
    (fun s s' hnear => ⟨hnear.store.append_right event, hnear.isOpen, hnear.memory⟩)
    (h.refuses_right event)
  clock_left s s' hnear := ⟨hnear.store, hnear.isOpen, h.clock_left _ _ hnear.memory⟩
  clock_right s s' hnear := ⟨hnear.store, hnear.isOpen, h.clock_right _ _ hnear.memory⟩
  load := matches_read fun _ _ hstore => hstore.load_eq
  loaded s s' campaign hnear hload := by
    have hload := (of_read_fst hload).2
    exact ⟨Store.id_of_load hload, hnear.store.tenant_of_load hload⟩
  linkedRuleGroups := matches_read fun _ _ hstore => congrArg Except.ok hstore.linkedRuleGroups_eq
  contacts p := by
    have heq : Connection.contactSource.matching p tenant = if p.isNever then pure (.ok []) else
        Connection.read ContactError.store fun s =>
          (s.answerOn tenant (s.matching p tenant)).mapError .store := rfl
    show Matches _ (onStore (Connection.contactSource.matching p tenant))
      (onStore (Connection.contactSource.matching p tenant))
    rw [heq]
    split
    · exact fun s s' hnear => ⟨rfl, hnear⟩
    · exact matches_read fun _ _ hstore => congrArg (Except.mapError ContactError.store)
        (hstore.matching_eq p)
  tenant := matches_read fun _ _ hstore => hstore.tenant_eq
  identified s tenant' htenant := Store.id_of_tenant (of_read_fst htenant).2
  claim := matches_call o.now o'.now fun _ _ time time' hstore =>
    ⟨congrArg Except.ok (hstore.claim time time').1, (hstore.claim time time').2⟩
  complete := matches_call o.now o'.now fun _ _ time time' hstore => hstore.complete time time'
  cancelRequested := matches_read fun _ _ hstore => hstore.cancelRequested_eq

end Outside

namespace Sample

/-- A world with one channel that takes every message, in which nothing is remembered. -/
def outside : Outside Unit where
  channels := [("console", fun _ => pure (.accepted ⟨"console", none, true⟩, false))]
  size_bounds := by decide
  refuses _ := pure none
  clock := pure default
  now _ := now

theorem not_mayStop_outside : ¬ outside.MayStop := by
  rintro ⟨c, hc, email, m, hstop⟩
  obtain rfl := List.mem_singleton.1 hc
  cases hstop

end Sample

end Dispatch
end Mailshot
