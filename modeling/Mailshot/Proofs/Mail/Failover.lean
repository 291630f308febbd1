import Mailshot.Mail.Failover
import Mailshot.Proofs.Mail.Relay

/-!
# The calls for one message

Channels that note how they are called (`Failover.noting`) show which ones a message is handed to,
and are the same channels for whoever hands it over.

`Failover.Tries` says once which calls there are so far and what they come to: nothing yet, or the
end of the message (`Failover.deliverFrom_noting`).  As long as there is no end, every channel that
was called could not be reached (`Tries.isRecoverable`).  So all the calls but the last one come to
nothing, and what that one says is the end (`Tries.exists_last`).
-/

set_option autoImplicit false

namespace Mailshot
namespace Failover

variable {σ : Type}

/-! ## What one answer comes to -/

theorem conclude_eq_none {name : String} {attempts : Nat} {more : Bool} {attempt : Attempt}
    (h : conclude name attempts more attempt = none) :
    attempt.isRecoverable = true ∧ more = true := by
  cases attempt with
  | accepted | crashed => cases h
  | refused error =>
    rw [conclude] at h
    split at h
    case isTrue hmore => exact (Bool.and_eq_true _ _).mp hmore
    case isFalse => cases h

theorem conclude_eq_some {name : String} {attempts : Nat} {more : Bool} {attempt : Attempt}
    {d : Delivery} (h : conclude name attempts more attempt = some d) :
    d = attempt.delivery name attempts ∧ (attempt.isRecoverable = false ∨ more = false) := by
  cases hrec : attempt.isRecoverable with
  | false =>
    rw [conclude_of_not_isRecoverable hrec] at h
    exact ⟨(Option.some.inj h).symm, .inl rfl⟩
  | true =>
    obtain ⟨reason, rfl⟩ := Attempt.isRecoverable_iff.mp hrec
    cases more with
    | true => cases h
    | false => exact ⟨(Option.some.inj h).symm, .inr rfl⟩

/-! ## The calls so far -/

/-- A call of a channel: its place in the order, the message, and what became of that. -/
structure Call where
  /-- The place of the channel. -/
  place : Nat
  /-- The message that it was handed. -/
  email : OutboundEmail
  /-- What the channel said. -/
  attempt : Attempt

/-- The calls so far of channels with these names for one message, and what they come to. -/
inductive Tries (names : List String) (email : OutboundEmail) :
    List Call → Option Delivery → Prop
  /-- No channel was called. -/
  | start : Tries names email [] none
  /-- The next one is called, as there is no end yet. -/
  | call {calls : List Call} (h : Tries names email calls none) {name : String}
      (hname : names[calls.length]? = some name) (attempt : Attempt) :
      Tries names email (calls ++ [⟨calls.length, email, attempt⟩])
        (conclude name (calls.length + 1) (decide (calls.length + 1 < names.length)) attempt)

namespace Tries

variable {names : List String} {email : OutboundEmail} {calls : List Call} {o : Option Delivery}
  {d : Delivery}

/-- The channels are called from the first one on, in order. -/
theorem map_place (h : Tries names email calls o) :
    calls.map (·.place) = List.range calls.length := by
  induction h with
  | start => rfl
  | call _ _ attempt ih =>
    rw [List.map_append, ih, List.length_append, List.length_singleton, List.range_succ]
    rfl

/-- Each of them is handed the same message. -/
theorem email_eq (h : Tries names email calls o) : ∀ call ∈ calls, call.email = email := by
  induction h with
  | start => exact fun _ hmem => nomatch hmem
  | call _ _ attempt ih =>
    intro call hmem
    rcases List.mem_append.mp hmem with hmem | hmem
    · exact ih call hmem
    · rw [List.mem_singleton.mp hmem]

/-- **As long as there is no end, no channel could be reached.** -/
theorem isRecoverable (h : Tries names email calls none) :
    ∀ call ∈ calls, call.attempt.isRecoverable = true := by
  generalize hnone : (none : Option Delivery) = o at h
  induction h with
  | start => exact fun _ hmem => nomatch hmem
  | call _ _ attempt ih =>
    intro call hmem
    rcases List.mem_append.mp hmem with hmem | hmem
    · exact ih rfl call hmem
    · rw [List.mem_singleton.mp hmem]
      exact (conclude_eq_none hnone.symm).1

/-- As long as there is no end, there is another channel. -/
theorem lt_length (h : Tries names email calls none) (hpos : 0 < names.length) :
    calls.length < names.length := by
  generalize hnone : (none : Option Delivery) = o at h
  cases h with
  | start => exact hpos
  | call _ _ attempt =>
    rw [List.length_append, List.length_singleton]
    exact of_decide_eq_true (conclude_eq_none hnone.symm).2

/-- **The end is what the last channel says**, and no other one may be called then. -/
theorem exists_last (h : Tries names email calls (some d)) :
    ∃ earlier last name, calls = earlier ++ [last] ∧ Tries names email earlier none ∧
      names[earlier.length]? = some name ∧ d = last.attempt.delivery name (earlier.length + 1) ∧
      (last.attempt.isRecoverable = false ∨ earlier.length + 1 = names.length) := by
  generalize hsome : some d = o at h
  cases h with
  | start => cases hsome
  | @call earlier hearlier name hname attempt =>
    obtain ⟨hd, hfinal⟩ := conclude_eq_some hsome.symm
    refine ⟨earlier, _, name, rfl, hearlier, hname, hd, hfinal.imp_right fun hlast => ?_⟩
    have hlength := (List.getElem?_eq_some_iff.mp hname).1
    have hlast := of_decide_eq_false hlast
    omega

end Tries

/-! ## Noting the calls -/

/-- A channel that notes how it is called, under its place. -/
def noting (place : Nat) (channel : Channel σ) : Channel (σ × List Call) where
  name := channel.name
  send email s :=
    ((channel.send email s.1).1, (channel.send email s.1).2,
      s.2 ++ [⟨place, email, (channel.send email s.1).1⟩])

@[simp]
theorem name_noting (place : Nat) (channel : Channel σ) :
    (noting place channel).name = channel.name := rfl

/-- Channels that all do. -/
def noted (channels : List (Channel σ)) : List (Channel (σ × List Call)) := channels.mapIdx noting

theorem take_noted (channels : List (Channel σ)) (n : Nat) :
    (noted channels).take n = noted (channels.take n) := by
  refine List.ext_getElem? fun i => ?_
  simp only [noted, List.getElem?_take, List.getElem?_mapIdx]
  split <;> rfl

section Step

variable {email : OutboundEmail} {tried : Nat} {channel : Channel σ} {later : List (Channel σ)}
  {s s' : σ} {attempt : Attempt}

theorem deliverFrom_of_some (hsend : channel.send email s = (attempt, s')) {d : Delivery}
    (hconclude : conclude channel.name (tried + 1) (!later.isEmpty) attempt = some d) :
    deliverFrom email tried (channel :: later) s = (d, s') := by
  simp only [deliverFrom, bind, StateT.bind, hsend, hconclude]
  rfl

theorem deliverFrom_of_none (hsend : channel.send email s = (attempt, s'))
    (hconclude : conclude channel.name (tried + 1) (!later.isEmpty) attempt = none) :
    deliverFrom email tried (channel :: later) s = deliverFrom email (tried + 1) later s' := by
  simp only [deliverFrom, bind, StateT.bind, hsend, hconclude]

end Step

/-- **To hand a message to channels that note their calls is to hand it to the channels**, and the
calls go on to the end of the message. -/
theorem deliverFrom_noting {names : List String} {email : OutboundEmail} {calls : List Call}
    (h : Tries names email calls none) {channels : List (Channel σ)} (hne : channels ≠ [])
    (hnames : names.drop calls.length = channels.map (·.name)) (s : σ) :
    ∃ more,
      deliverFrom email calls.length (channels.mapIdx fun i => noting (calls.length + i))
          (s, calls) =
        ((deliverFrom email calls.length channels s).1,
          (deliverFrom email calls.length channels s).2, calls ++ more) ∧
      Tries names email (calls ++ more) (some (deliverFrom email calls.length channels s).1) := by
  -- on the channels that are left; the calls so far say which place the first of them has
  induction channels generalizing calls s with
  | nil => exact absurd rfl hne
  | cons channel later ih =>
    obtain ⟨attempt, s', hsend⟩ : ∃ attempt s', channel.send email s = (attempt, s') :=
      ⟨_, _, rfl⟩
    have hnoting : (noting calls.length channel).send email (s, calls) =
        (attempt, s', calls ++ [⟨calls.length, email, attempt⟩]) := by
      simp only [noting, hsend]
    have hlength : names.length - calls.length = later.length + 1 := by
      rw [← List.length_drop, hnames, List.length_map, List.length_cons]
    have hmore : decide (calls.length + 1 < names.length) = !later.isEmpty := by
      cases later <;> simp at hlength ⊢ <;> omega
    have hname : names[calls.length]? = some channel.name := by
      rw [← Nat.add_zero calls.length, ← List.getElem?_drop, hnames]
      rfl
    have hcall := h.call hname attempt
    rw [hmore] at hcall
    have hmap : (channel :: later).mapIdx (fun i => noting (calls.length + i)) =
        noting calls.length channel :: later.mapIdx fun i => noting (calls.length + 1 + i) := by
      simp only [List.mapIdx_cons, Nat.add_zero, Nat.add_assoc, Nat.add_comm 1]
    have hempty : (later.mapIdx fun i => noting (calls.length + 1 + i)).isEmpty = later.isEmpty :=
      Bool.eq_iff_iff.mpr (by simp)
    rw [hmap]
    cases hconclude : conclude channel.name (calls.length + 1) (!later.isEmpty) attempt with
    | some d =>
      rw [deliverFrom_of_some hsend hconclude,
        deliverFrom_of_some hnoting (by rwa [name_noting, hempty])]
      exact ⟨_, rfl, hconclude ▸ hcall⟩
    | none =>
      rw [hconclude] at hcall
      have hlater : later ≠ [] := by
        rintro rfl
        cases (conclude_eq_none hconclude).2
      have hdrop : names.drop (calls.length + 1) = later.map (·.name) := by
        rw [← List.tail_drop, hnames]
        rfl
      obtain ⟨more, hdeliver, htries⟩ := ih hcall hlater (by simpa using hdrop) s'
      rw [deliverFrom_of_none hsend hconclude,
        deliverFrom_of_none hnoting (by rwa [name_noting, hempty])]
      rw [List.length_append, List.length_singleton, List.append_assoc] at hdeliver htries
      exact ⟨_, hdeliver, htries⟩

/-- The calls for a message, from the first one to the end. -/
theorem deliver_noted (f : Failover σ) (email : OutboundEmail) (s : σ) :
    ∃ calls, deliverFrom email 0 (noted f.channels) (s, []) =
        ((f.deliver email s).1, (f.deliver email s).2, calls) ∧
      Tries f.names email calls (some (f.deliver email s).1) := by
  have h := deliverFrom_noting (.start : Tries f.names email [] none)
    (List.ne_nil_of_length_pos f.size_bounds.1) rfl s
  simp only [List.length_nil, Nat.zero_add, List.nil_append] at h
  exact h

/-! ## The calls of a whole delivery -/

/-- The calls for a message of channels with these names, the last call apart, are as they are meant
to be, and so is what came of the message. -/
structure IsExact (names : List String) (email : OutboundEmail) (earlier : List Call) (last : Call)
    (d : Delivery) : Prop where
  /-- The first channels are called, in order, each once. -/
  map_place : (earlier ++ [last]).map (·.place) = List.range (earlier.length + 1)
  /-- There are as many. -/
  length_le : earlier.length + 1 ≤ names.length
  /-- Each of them is handed the message. -/
  email_eq : ∀ call ∈ earlier ++ [last], call.email = email
  /-- None but the last one could be reached. -/
  connection : ∀ call ∈ earlier, ∃ reason, call.attempt = .refused (.connection reason)
  /-- The message is taken just if the last one took it, which is what the receipt is of. -/
  accepted_iff : ∀ receipt attempts, d = .accepted receipt attempts ↔
    last.attempt = .accepted receipt ∧ attempts = earlier.length + 1
  /-- It is not taken just if the last one did not take it, for the reason that this one gave. -/
  failed_iff : ∀ error name attempts, d = .failed error name attempts ↔
    last.attempt = .refused error ∧ names[earlier.length]? = some name ∧
      attempts = earlier.length + 1
  /-- Nothing comes of it just if the last one broke down over it. -/
  crashed_iff : d = .crashed ↔ last.attempt = .crashed
  /-- A last one that could not be reached is the last one there is. -/
  final : ∀ reason, last.attempt = .refused (.connection reason) →
    earlier.length + 1 = names.length

/-- Calls that have come to an end are as they are meant to be. -/
theorem Tries.isExact {names : List String} {email : OutboundEmail} {calls : List Call}
    {d : Delivery} (h : Tries names email calls (some d)) :
    ∃ earlier last, calls = earlier ++ [last] ∧ IsExact names email earlier last d := by
  obtain ⟨earlier, last, name, rfl, hearlier, hname, rfl, hfinal⟩ := h.exists_last
  refine ⟨earlier, last, rfl, ?_⟩
  exact {
    map_place := by simpa using h.map_place
    length_le := (List.getElem?_eq_some_iff.mp hname).1
    email_eq := h.email_eq
    connection := fun call hmem => Attempt.isRecoverable_iff.mp (hearlier.isRecoverable call hmem)
    accepted_iff := by
      intro receipt attempts
      cases last.attempt <;> simp [Attempt.delivery, eq_comm]
    failed_iff := by
      intro error name' attempts
      rw [hname]
      cases last.attempt <;> simp [Attempt.delivery, eq_comm]
    crashed_iff := by cases last.attempt <;> simp [Attempt.delivery]
    final := by
      intro reason hlast
      rw [hlast] at hfinal
      exact hfinal.resolve_left nofun }

namespace IsExact

variable {names : List String} {email : OutboundEmail} {earlier : List Call} {last : Call}
  {d : Delivery}

/-- A call that is accepted is the last one, so there is one at most. -/
theorem eq_last (h : IsExact names email earlier last d) {call : Call}
    (hmem : call ∈ earlier ++ [last]) {receipt : Receipt}
    (haccepted : call.attempt = .accepted receipt) : call = last := by
  rcases List.mem_append.mp hmem with hmem | hmem
  · obtain ⟨reason, hrefused⟩ := h.connection call hmem
    cases haccepted.symm.trans hrefused
  · exact List.mem_singleton.mp hmem

/-- So is one over which a channel breaks down. -/
theorem eq_crashed_iff (h : IsExact names email earlier last d) :
    d = .crashed ↔ ∃ call ∈ earlier ++ [last], call.attempt = .crashed := by
  refine ⟨fun hd => ⟨last, by simp, h.crashed_iff.mp hd⟩, ?_⟩
  rintro ⟨call, hmem, hcrashed⟩
  rcases List.mem_append.mp hmem with hmem | hmem
  · obtain ⟨reason, hrefused⟩ := h.connection call hmem
    cases hcrashed.symm.trans hrefused
  · rw [List.mem_singleton.mp hmem] at hcrashed
    exact h.crashed_iff.mpr hcrashed

/-- The answer for no channels at all is never given. -/
theorem ne_failed_zero (h : IsExact names email earlier last d) (error : TransportError)
    (name : String) : d ≠ .failed error name 0 := by
  intro hd
  cases ((h.failed_iff error name 0).mp hd).2.2

end IsExact

/-- **A message is handed to one channel after the other, to two at most, until one can be
reached.**  The channels are all there are, and all that they are called with is noted. -/
theorem deliver_exact (channel : Channel σ) (others : List (Channel σ)) (email : OutboundEmail)
    (s : σ) :
    ∃ f g, ofChannels (channel :: others) = .ok f ∧
      ofChannels (noted (channel :: others)) = .ok g ∧
      f.channels = (channel :: others).take 2 ∧
      ∃ earlier last,
        g.deliver email (s, []) =
          ((f.deliver email s).1, (f.deliver email s).2, earlier ++ [last]) ∧
        IsExact f.names email earlier last (f.deliver email s).1 ∧
        earlier.length + 1 ≤ 2 ∧
        (∀ call ∈ earlier ++ [last], ∀ receipt, call.attempt = .accepted receipt → call = last) ∧
        (f.deliver email s).1 ≠ .failed (.misconfigured "no mail channel configured") "" 0 := by
  have hnoted : noted (channel :: others) =
      noting 0 channel :: others.mapIdx fun i => noting (i + 1) := List.mapIdx_cons
  have hchannels : (ofFirst (noting 0 channel) (others.mapIdx fun i => noting (i + 1))).channels =
      noted (ofFirst channel others).channels :=
    (congrArg (List.take maxAttempts) hnoted.symm).trans (take_noted _ _)
  obtain ⟨calls, hdeliver, htries⟩ := (ofFirst channel others).deliver_noted email s
  obtain ⟨earlier, last, rfl, hexact⟩ := htries.isExact
  refine ⟨ofFirst channel others, _, rfl, congrArg ofChannels hnoted, rfl, earlier, last, ?_,
    hexact, ?_, fun call hmem receipt => hexact.eq_last hmem, hexact.ne_failed_zero _ _⟩
  · rw [deliver, hchannels, hdeliver]
  · have hle := hexact.length_le
    rw [names, List.length_map] at hle
    exact Nat.le_trans hle (ofFirst channel others).size_bounds.2

end Failover
end Mailshot
