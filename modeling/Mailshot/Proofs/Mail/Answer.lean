import Mailshot.Proofs.Mail.Relay

/-!
# What a relay says about a message

Once there is a final answer, its status alone decides whether the relay has the message, and the
body is only read for an identifier or for the reason (`Relay.answer_decides`).  Whatever the body
is, nothing in it can turn an accepted message into one that is sent a second time, or a refused one
into one that is lost.

Relays name the identifier differently.  `IsFirstText` says which of the members is meant: the first
of the names under which there is a text, so a member of another kind does not hide the ones behind
it.
-/

set_option autoImplicit false

namespace Mailshot
namespace Relay

/-! ## Identifiers -/

/-- The text under the first of the keys that has one. -/
def IsFirstText (keys : List String) (members : List (String × Json)) (id : String) : Prop :=
  ∃ earlier key later, keys = earlier ++ key :: later ∧
    Dictionary.valueOf? key members = some (.string id) ∧
    ∀ k ∈ earlier, ∀ t, Dictionary.valueOf? k members ≠ some (.string t)

/-- A body is an object that says the identifier of a message. -/
def Identifies (body id : String) : Prop :=
  ∃ members, Json.ofText? body = some (.object members) ∧
    IsFirstText ["message_id", "messageId", "id"] members id

theorem text?_eq_some_iff {v : Json} {t : String} : v.text? = some t ↔ v = .string t := by
  cases v <;> simp [Json.text?]

/-- Only objects have texts under keys. -/
theorem member?_text?_eq_some_iff {v : Json} {key t : String} :
    (v.member? key).bind Json.text? = some t ↔
      ∃ members, v = .object members ∧ Dictionary.valueOf? key members = some (.string t) := by
  rw [Option.bind_eq_some_iff]
  simp only [text?_eq_some_iff, exists_eq_right]
  cases v <;> simp [Json.member?]

theorem findSome?_eq_some_iff {members : List (String × Json)} {id : String} (keys : List String) :
    keys.findSome? (fun k => ((Json.object members).member? k).bind Json.text?) = some id ↔
      IsFirstText keys members id := by
  rw [List.findSome?_eq_some_iff]
  simp only [Option.eq_none_iff_forall_ne_some, ne_eq, member?_text?_eq_some_iff, Json.object.injEq,
    exists_eq_left', IsFirstText]

/-- **The identifier that is read from a body is the one that the body says.** -/
theorem messageId?_eq_some_iff {body id : String} :
    messageId? body = some id ↔ Identifies body id := by
  rw [messageId?, Option.bind_eq_some_iff]
  constructor
  · rintro ⟨v, hv, hfound⟩
    obtain ⟨k, -, hk⟩ := List.exists_of_findSome?_eq_some hfound
    obtain ⟨members, rfl, -⟩ := member?_text?_eq_some_iff.1 hk
    exact ⟨members, hv, (findSome?_eq_some_iff idKeys).1 hfound⟩
  · rintro ⟨members, hv, hfirst⟩
    exact ⟨.object members, hv, (findSome?_eq_some_iff idKeys).2 hfirst⟩

/-! ## Final answers -/

theorem attemptOf_of_isSuccess (settings : RelaySettings) {a : Http.Response}
    (h : a.isSuccess = true) :
    attemptOf settings (.ok a) = .accepted ⟨settings.name, messageId? a.text, false⟩ := by
  rw [attemptOf, checkResponse, if_pos h]

theorem attemptOf_of_not_isSuccess (settings : RelaySettings) {a : Http.Response}
    (h : ¬ a.isSuccess = true) :
    attemptOf settings (.ok a) = .refused (.rejected a.status (Redaction.clean a.text)) := by
  rw [attemptOf, checkResponse, if_neg h]

/-- **The status decides, and the body only says the identifier.**  Say that a request can be made
for a message and that there is a final answer to it.  The message counts as accepted just if the
status is one of success.  The receipt then has the name of the channel and is of a message that was
sent in earnest; it has an identifier just if the body says one, so it has none if the body is empty
or no object.  With any other status the message is refused with that status and the cleaned body.
A body that could not be read to its end counts as empty.  Neither way is another channel tried. -/
theorem answer_decides {σ : Type} {network : Http.Network σ} {settings : RelaySettings}
    {email : OutboundEmail} {r : Http.Request} {a : Http.Response} {s s' : σ}
    (hrequest : request settings email = .ok r)
    (hanswer : Http.send network r s = (.ok a, s')) :
    ∃ attempt, send network settings email s = (attempt, s') ∧
      ((∃ receipt, attempt = .accepted receipt) ↔ 200 ≤ a.status ∧ a.status ≤ 299) ∧
      (200 ≤ a.status ∧ a.status ≤ 299 →
        ∃ id?, attempt = .accepted { channel := settings.name, messageId := id?, mock := false } ∧
          (∀ id, id? = some id ↔ Identifies a.text id) ∧ (a.text = "" → id? = none)) ∧
      (¬ (200 ≤ a.status ∧ a.status ≤ 299) →
        attempt = .refused (.rejected a.status (Redaction.clean a.text))) ∧
      (a.body = .broken → a.text = "" ∧ Redaction.clean a.text = "") ∧
      attempt.isRecoverable = false := by
  have hsuccess : a.isSuccess = true ↔ 200 ≤ a.status ∧ a.status ≤ 299 := by
    rw [Http.Response.isSuccess, decide_eq_true_iff]
    omega
  have hbroken : a.body = .broken → a.text = "" ∧ Redaction.clean a.text = "" := fun hbody => by
    have htext : a.text = "" := by rw [Http.Response.text, hbody]
    rw [htext]
    exact ⟨rfl, by decide⟩
  refine ⟨attemptOf settings (.ok a), by rw [send_of_request _ _ _ _ hrequest, hanswer], ?_⟩
  rw [← hsuccess]
  by_cases h : a.isSuccess = true
  · rw [attemptOf_of_isSuccess settings h]
    refine ⟨⟨fun _ => h, fun _ => ⟨_, rfl⟩⟩, fun _ => ?_, fun hno => absurd h hno, hbroken, rfl⟩
    refine ⟨messageId? a.text, rfl, fun id => messageId?_eq_some_iff, fun hempty => ?_⟩
    rw [hempty]
    rfl
  · rw [attemptOf_of_not_isSuccess settings h]
    exact ⟨⟨fun ⟨_, hreceipt⟩ => (by cases hreceipt), fun hyes => absurd hyes h⟩,
      fun hyes => absurd hyes h, fun _ => rfl, hbroken, rfl⟩

namespace Sample

/-- The message was taken, and the first of the names does not stand for a text. -/
def identified : Http.Response where
  status := 202
  location := none
  contentType := some "application/json"
  body := .whole "\x7b\"id\":\"m-2\",\"messageId\":\"m-1\",\"message_id\":42\x7d".toUTF8.toList

end Sample

/-- A relay that names another place, where the message is taken and gets an identifier. -/
theorem answer_decides_of_moved :
    ∃ r, request Sample.settings Sample.email = .ok r ∧
      Http.send Sample.scripted r [some Sample.moved, some Sample.identified] =
        (.ok Sample.identified, []) ∧
      send Sample.scripted Sample.settings Sample.email
          [some Sample.moved, some Sample.identified] =
        (.accepted { channel := "relay", messageId := some "m-1", mock := false }, []) := by
  obtain ⟨r, hrequest, hanswer⟩ : ∃ r, request Sample.settings Sample.email = .ok r ∧
      Http.send Sample.scripted r [some Sample.moved, some Sample.identified] =
        (.ok Sample.identified, []) := ⟨_, rfl, rfl⟩
  refine ⟨r, hrequest, hanswer, ?_⟩
  obtain ⟨attempt, hsend, -, haccepted, -⟩ := answer_decides hrequest hanswer
  obtain ⟨id?, rfl, hid, -⟩ := haccepted (by decide)
  have hread : messageId? Sample.identified.text = some "m-1" := by decide +kernel
  rw [hsend, (hid "m-1").2 (messageId?_eq_some_iff.1 hread)]
  rfl

end Relay
end Mailshot
