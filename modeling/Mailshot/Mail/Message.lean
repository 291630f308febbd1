/-!
# Messages and channels

A `Channel` takes a message and says what became of it.  What it does may depend on a state `σ` and
change it; nothing else is known of it.
-/

set_option autoImplicit false

namespace Mailshot

/-- A message to one recipient. -/
structure OutboundEmail where
  /-- The address of the recipient. -/
  recipient : String
  /-- The subject line. -/
  subject : String
  /-- The text. -/
  html : String
  /-- The name that the message comes from. -/
  senderName : Option String
  /-- The address that answers go to. -/
  replyTo : Option String
deriving DecidableEq, Inhabited

/-- What a channel says about a message that it took. -/
structure Receipt where
  /-- The channel. -/
  channel : String
  /-- The identifier that the message got. -/
  messageId : Option String
  /-- Whether the message was only noted and not sent. -/
  mock : Bool
deriving DecidableEq, Inhabited

/-- Why a channel did not take a message. -/
inductive TransportError where
  /-- It could not be reached. -/
  | connection (reason : String)
  /-- It answered with a status that is no success. -/
  | rejected (status : Nat) (body : String)
  /-- Its answer makes no sense. -/
  | invalidResponse (reason : String)
  /-- It cannot be used as it is set up. -/
  | misconfigured (reason : String)
deriving DecidableEq

namespace TransportError

/-- A transport error in words. -/
def message : TransportError → String
  | connection reason => "connection failed: " ++ reason
  | rejected status body =>
    "relay returned non-success status " ++ toString status ++ ": " ++ body
  | invalidResponse reason => "invalid relay response: " ++ reason
  | misconfigured reason => "transport misconfigured: " ++ reason

/-- Whether another channel may be tried: only if this one could not be reached. -/
def isRecoverable : TransportError → Bool
  | connection _ => true
  | _ => false

end TransportError

/-- What became of a message that was handed to a channel. -/
inductive Attempt where
  /-- The channel took it. -/
  | accepted (receipt : Receipt)
  /-- The channel did not take it. -/
  | refused (error : TransportError)
  /-- The channel broke down over it. -/
  | crashed
deriving DecidableEq

/-- A way to send messages. -/
structure Channel (σ : Type) where
  /-- The name of the channel. -/
  name : String
  /-- Hands a message to the channel. -/
  send : OutboundEmail → StateM σ Attempt

/-- The channel that takes every message and sends none. -/
def Channel.console {σ : Type} : Channel σ where
  name := "console"
  send _ := pure (.accepted ⟨"console", none, true⟩)

end Mailshot
