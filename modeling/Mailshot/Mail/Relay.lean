import Mailshot.Http.Exchange
import Mailshot.Json.Printer
import Mailshot.Json.Reader
import Mailshot.Mail.Message
import Mailshot.Mail.Redaction
import Mailshot.Text.Quoted

/-!
# Mail relays

A relay takes one JSON document for each message.  The status of its answer alone decides whether
the message was taken; the body can only add the identifier of the message, or say why it was not
taken.
-/

set_option autoImplicit false

namespace Mailshot

/-- What is known about a relay. -/
structure RelaySettings where
  /-- The name of the channel. -/
  name : String
  /-- Where documents are sent. -/
  endpoint : Url
  /-- The key that is shown. -/
  apiKey : Option String
  /-- The address that messages come from. -/
  senderAddress : String
  /-- How long an answer is waited for, in milliseconds. -/
  timeout : Nat
deriving DecidableEq

/-- A length of time as it is shown in logs: in seconds from one second on. -/
def durationText (milliseconds : Nat) : String :=
  if milliseconds = 0 then "0ns"
  else if milliseconds < 1000 then toString milliseconds ++ "ms"
  else
    let rest := milliseconds % 1000
    let ds := (toString (1000 + rest)).toList.drop 1
    let fraction := (ds.reverse.dropWhile (· = '0')).reverse
    toString (milliseconds / 1000) ++
      (if rest = 0 then "" else "." ++ String.ofList fraction) ++ "s"

/-- The settings as they are shown in logs, without the key. -/
def RelaySettings.debugText (s : RelaySettings) : String :=
  "RelaySettings \x7b name: " ++ quoted s.name ++ ", endpoint: " ++ quoted s.endpoint.text ++
    ", api_key: " ++ (if s.apiKey.isSome then "Some(\"[REDACTED]\")" else "None") ++
    ", sender_address: " ++ quoted s.senderAddress ++ ", timeout: " ++ durationText s.timeout ++
    " \x7d"

namespace Relay

/-- Who a message comes from: the name, without characters that would end it, and the address. -/
def formatFrom (name : Option String) (address : String) : String :=
  let kept := trim (String.ofList ((name.getD "").toList.filter fun c =>
    c ≠ '"' && c ≠ '\\' && c ≠ '\r' && c ≠ '\n'))
  if kept.isEmpty then address else "\"" ++ kept ++ "\" <" ++ address ++ ">"

/-- The document for a message. -/
def document (s : RelaySettings) (email : OutboundEmail) : Json :=
  .object ([("from", .string (formatFrom email.senderName s.senderAddress)),
    ("to", .string email.recipient)] ++
    (email.replyTo.map fun r => ("reply_to", Json.string r)).toList ++
    [("subject", .string email.subject), ("html", .string email.html)])

/-- The keys under which relays say the identifier of a message. -/
def idKeys : List String := ["message_id", "messageId", "id"]

/-- The identifier of a message in the body of an answer. -/
def messageId? (body : String) : Option String :=
  (Json.ofText? body).bind fun v => idKeys.findSome? fun k => (v.member? k).bind (·.text?)

/-- The body of an answer that took the message, or the error that it stands for. -/
def checkResponse (a : Http.Response) : Except TransportError String :=
  if a.isSuccess then .ok a.text else .error (.rejected a.status (Redaction.clean a.text))

/-- What a missing answer means for the message. -/
def errorOfFault (f : Http.Fault) : TransportError :=
  match f with
  | .unanswered _ => .connection f.message
  | .unbuildable _ => .misconfigured f.message
  | .tooManyPlaces _ => .invalidResponse f.message

/-- Whether a key can be shown: it holds no control but tabs. -/
def isSendableKey (key : String) : Bool :=
  key.toList.all fun c => c = '\t' || (32 ≤ c.toNat && c.toNat ≠ 127)

/-- The request for a message. -/
def request (s : RelaySettings) (email : OutboundEmail) : Except Http.Fault Http.Request :=
  if s.apiKey.all isSendableKey then
    .ok {
      method := .post
      url := s.endpoint.withoutUser
      authorization := s.apiKey.map ("Bearer " ++ ·)
      document := some (document s email).print
      timeout := s.timeout }
  else .error (.unbuildable none)

/-- Sends a message. -/
def send {σ : Type} (network : Http.Network σ) (s : RelaySettings) (email : OutboundEmail) :
    StateM σ Attempt :=
  match request s email with
  | .error f => pure (.refused (errorOfFault f))
  | .ok r => do
    match ← Http.send network r with
    | .error f => return .refused (errorOfFault f)
    | .ok a =>
      match checkResponse a with
      | .error e => return .refused e
      | .ok body => return .accepted ⟨s.name, messageId? body, false⟩

/-- A relay as a channel. -/
def toChannel {σ : Type} (network : Http.Network σ) (s : RelaySettings) : Channel σ :=
  ⟨s.name, send network s⟩

/-- The channel of a relay, whose endpoint must be a place on the web. -/
def channel {σ : Type} (network : Http.Network σ) (s : RelaySettings) :
    Except TransportError (Channel σ) :=
  if s.endpoint.isWeb then .ok (toChannel network s)
  else .error (.misconfigured ("channel '" ++ s.name ++ "': endpoint must be http or https"))

end Relay

end Mailshot
