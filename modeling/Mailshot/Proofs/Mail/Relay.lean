import Mailshot.Mail.Failover
import Mailshot.Mail.Relay
import Mailshot.Proofs.Http.Exchanges

/-!
# Relays that have answered

A message that a relay did not take is given to the next channel only if the relay could not be
reached (`Failover.deliver_of_not_isRecoverable`).  A relay counts as one that could not be reached
if there was no answer in the end (`Relay.isRecoverable_attemptOf`), whatever came before.  So a
relay that has answered keeps the message, unless its answer led on to a place from which there was
none (`Relay.answered_relay`).  It is asked at its endpoint, with its key, and waited for as long as
its settings say (`Relay.suits_exchanges`).
-/

set_option autoImplicit false

namespace Mailshot

/-! ## What an answer means for the next channel -/

/-- Whether a channel may be passed over after what became of a message there. -/
def Attempt.isRecoverable : Attempt → Bool
  | refused error => error.isRecoverable
  | accepted _ | crashed => false

/-- That is so just if it could not be reached. -/
theorem Attempt.isRecoverable_iff {attempt : Attempt} :
    attempt.isRecoverable = true ↔ ∃ reason, attempt = .refused (.connection reason) := by
  constructor
  · intro h
    cases attempt with
    | accepted | crashed => cases h
    | refused error =>
      cases error with
      | connection reason => exact ⟨reason, rfl⟩
      | rejected | invalidResponse | misconfigured => cases h
  · rintro ⟨reason, rfl⟩
    rfl

/-- What became of a message in the end if a channel was the last one that was tried. -/
def Attempt.delivery (name : String) (attempts : Nat) : Attempt → Delivery
  | accepted receipt => .accepted receipt attempts
  | refused error => .failed error name attempts
  | crashed => .crashed

namespace Failover

variable {σ : Type}

theorem conclude_of_not_isRecoverable {attempt : Attempt} (h : attempt.isRecoverable = false)
    (name : String) (attempts : Nat) (more : Bool) :
    conclude name attempts more attempt = some (attempt.delivery name attempts) := by
  cases attempt with
  | accepted | crashed => rfl
  | refused error =>
    have hfinal : error.isRecoverable = false := h
    rw [conclude, hfinal]
    rfl

/-- **A message that a channel does not give back is in nobody else's hands.** -/
theorem deliver_of_not_isRecoverable (f : Failover σ) {channel : Channel σ}
    {later : List (Channel σ)} (hchannels : f.channels = channel :: later) (email : OutboundEmail)
    (s : σ) (h : (channel.send email s).1.isRecoverable = false) :
    f.deliver email s =
      ((channel.send email s).1.delivery channel.name 1, (channel.send email s).2) := by
  obtain ⟨attempt, s', hsend⟩ : ∃ attempt s', channel.send email s = (attempt, s') := ⟨_, _, rfl⟩
  rw [hsend] at h ⊢
  simp only [deliver, hchannels, deliverFrom, bind, StateT.bind, hsend,
    conclude_of_not_isRecoverable h]
  rfl

end Failover

namespace Relay

/-! ## What an answer of a relay means -/

/-- What the end of a chain of exchanges means for the message. -/
def attemptOf (settings : RelaySettings) : Except Http.Fault Http.Response → Attempt
  | .error f => .refused (errorOfFault f)
  | .ok a =>
    match checkResponse a with
    | .error e => .refused e
    | .ok body => .accepted ⟨settings.name, messageId? body, false⟩

/-- A relay counts as one that could not be reached just if there was no answer in the end. -/
theorem isRecoverable_attemptOf (settings : RelaySettings)
    (answer : Except Http.Fault Http.Response) :
    (attemptOf settings answer).isRecoverable = true ↔
      ∃ url, answer = .error (.unanswered url) := by
  cases answer with
  | error f =>
    cases f with
    | unanswered url => exact ⟨fun _ => ⟨url, rfl⟩, fun _ => rfl⟩
    | unbuildable | tooManyPlaces => exact ⟨fun h => (by cases h), fun ⟨_, h⟩ => (by cases h)⟩
  | ok a =>
    refine ⟨fun h => ?_, fun ⟨_, h⟩ => (by cases h)⟩
    rw [attemptOf, checkResponse] at h
    split at h
    · next e hcheck =>
      split at hcheck
      · cases hcheck
      · cases hcheck
        cases h
    · cases h

section Send

variable {σ : Type} (network : Http.Network σ) (settings : RelaySettings) (email : OutboundEmail)
  (s : σ)

theorem send_of_request {r : Http.Request} (h : request settings email = .ok r) :
    send network settings email s =
      (attemptOf settings (Http.send network r s).1, (Http.send network r s).2) := by
  simp only [send, h, bind, StateT.bind]
  generalize Http.send network r s = end'
  obtain ⟨answer, s'⟩ := end'
  cases answer with
  | error f => rfl
  | ok a =>
    dsimp only
    rw [attemptOf]
    cases checkResponse a <;> rfl

/-- A message that no request can be made for is not sent. -/
theorem send_of_error {f : Http.Fault} (h : request settings email = .error f) :
    send network settings email s = (.refused (.misconfigured "builder error"), s) := by
  rw [send, h]
  rw [request] at h
  split at h
  · cases h
  · cases h
    rfl

/-- The exchanges of the channel of a relay over a message. -/
def exchanges : List Http.Exchange :=
  ((toChannel (Http.noting network) settings).send email (s, [])).2.2

theorem exchanges_eq :
    exchanges network settings email s =
      (send (Http.noting network) settings email (s, [])).2.2 := rfl

theorem exchanges_of_request {r : Http.Request} (h : request settings email = .ok r) :
    exchanges network settings email s = Http.exchanges network r s := by
  rw [exchanges_eq, send_of_request _ settings email _ h]
  rfl

theorem exchanges_of_error {f : Http.Fault} (h : request settings email = .error f) :
    exchanges network settings email s = [] := by
  rw [exchanges_eq, send_of_error _ settings email _ h]

/-- **A relay that has answered keeps the message, unless an answer led on to a place from which
there was none.** -/
theorem answered_relay
    (hanswered : ∃ r a, (r, some a) ∈ exchanges network settings email s) :
    ((∃ reason, (send network settings email s).1 = .refused (.connection reason)) ↔
        Http.LedNowhere (exchanges network settings email s)) ∧
      (¬ Http.LedNowhere (exchanges network settings email s) →
        ∀ (f : Failover σ) (later : List (Channel σ)),
          f.channels = toChannel network settings :: later →
          f.deliver email s = ((send network settings email s).1.delivery settings.name 1,
            (send network settings email s).2)) := by
  have hiff : (send network settings email s).1.isRecoverable = true ↔
      Http.LedNowhere (exchanges network settings email s) := by
    cases h : request settings email with
    | error f =>
      rw [exchanges_of_error _ _ _ _ h] at hanswered
      obtain ⟨r, a, hmem⟩ := hanswered
      cases hmem
    | ok r =>
      rw [exchanges_of_request _ _ _ _ h] at hanswered ⊢
      rw [send_of_request _ _ _ _ h, isRecoverable_attemptOf]
      exact (Http.exchanges_send network r s).ledNowhere_iff hanswered
  refine ⟨Attempt.isRecoverable_iff.symm.trans hiff, fun hfine f later hchannels => ?_⟩
  exact f.deliver_of_not_isRecoverable hchannels email s
    (Bool.eq_false_iff.2 fun h => hfine (hiff.1 h))

end Send

namespace Sample

/-- A network that gives the answers of a list, one after the other. -/
def scripted : Http.Network (List (Option Http.Response)) := fun _ answers =>
  (answers.head?.join, answers.tail)

/-- A relay without a key. -/
def settings : RelaySettings where
  name := "relay"
  endpoint := ⟨"http", "", "", some "relay", none, .segments ["v1", "send"], none, none⟩
  apiKey := none
  senderAddress := "news@acme.io"
  timeout := 5000

/-- A message. -/
def email : OutboundEmail where
  recipient := "a@x.io"
  subject := "Hello"
  html := "<p>Hello</p>"
  senderName := none
  replyTo := none

/-- The relay, and another channel that takes every message. -/
def failover : Failover (List (Option Http.Response)) where
  channels := [toChannel scripted settings, .console]
  size_bounds := by decide

/-- The same request is to be made in another place. -/
def moved : Http.Response := ⟨307, some "/next", none, .whole []⟩

/-- The message was taken. -/
def taken : Http.Response := ⟨200, none, none, .whole []⟩

end Sample

/-- A relay that names another place, where the message is taken. -/
theorem answered_relay_of_two :
    (∃ r a, (r, some a) ∈ exchanges Sample.scripted Sample.settings Sample.email
        [some Sample.moved, some Sample.taken]) ∧
      Sample.failover.deliver Sample.email [some Sample.moved, some Sample.taken] =
        (.accepted ⟨"relay", none, false⟩ 1, []) := by
  have hanswered : ∃ r a, (r, some a) ∈ exchanges Sample.scripted Sample.settings Sample.email
      [some Sample.moved, some Sample.taken] := ⟨_, _, List.mem_cons_self⟩
  refine ⟨hanswered, ?_⟩
  rw [(answered_relay _ _ _ _ hanswered).2 (fun h => ?_) Sample.failover [.console] rfl]
  · rfl
  · obtain ⟨r', hlast⟩ := h.getLast?
    cases hlast

/-- The relay answers and names another place; from there comes no answer.  The relay counts as one
that could not be reached, and the next channel gets the message. -/
theorem message_passed_on_after_answer :
    (∃ r a, (r, some a) ∈ exchanges Sample.scripted Sample.settings Sample.email
        [some Sample.moved, none]) ∧
      (send Sample.scripted Sample.settings Sample.email [some Sample.moved, none]).1 =
        .refused (.connection "error sending request for url (http://relay/next)") ∧
      Sample.failover.deliver Sample.email [some Sample.moved, none] =
        (.accepted ⟨"console", none, true⟩ 2, []) := by
  refine ⟨⟨_, _, List.mem_cons_self⟩, ?_, rfl⟩
  decide +kernel

end Relay
end Mailshot
