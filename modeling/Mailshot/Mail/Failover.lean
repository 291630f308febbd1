import Mailshot.Mail.Message
import Mailshot.Text.Quoted

/-!
# Channels in order

A `Failover` has one channel or two.  The second is tried only if the first could not be reached;
any other answer is final.
-/

set_option autoImplicit false

namespace Mailshot

/-- How many channels are tried for one message. -/
def maxAttempts : Nat := 2

/-- Channels in the order in which they are tried. -/
structure Failover (σ : Type) where
  /-- The channels. -/
  channels : List (Channel σ)
  /-- There is at least one, and no more than are ever tried. -/
  size_bounds : 0 < channels.length ∧ channels.length ≤ maxAttempts

/-- What became of a message in the end. -/
inductive Delivery where
  /-- A channel took it; so many channels were tried. -/
  | accepted (receipt : Receipt) (attempts : Nat)
  /-- No channel took it; this was the error of the last one that was tried, with its name. -/
  | failed (error : TransportError) (channel : String) (attempts : Nat)
  /-- The last channel that was tried broke down. -/
  | crashed
deriving DecidableEq

namespace Failover

variable {σ : Type}

/-- The channels of a list that are ever tried, of which there is a first one. -/
def ofFirst (channel : Channel σ) (others : List (Channel σ)) : Failover σ where
  channels := (channel :: others).take maxAttempts
  size_bounds := by
    rw [List.length_take, List.length_cons]
    unfold maxAttempts
    omega

/-- The channels of a list that are ever tried.  An empty list is a mistake of whoever set it up. -/
def ofChannels : List (Channel σ) → Except TransportError (Failover σ)
  | [] => .error (.misconfigured "at least one mail channel is required")
  | channel :: others => .ok (ofFirst channel others)

/-- A single channel. -/
def single (channel : Channel σ) : Failover σ := ⟨[channel], by simp [maxAttempts]⟩

/-- The names of the channels. -/
def names (f : Failover σ) : List String := f.channels.map (·.name)

/-- The channels as they are shown in logs. -/
def debugText (f : Failover σ) : String :=
  "FailoverTransport \x7b channels: " ++ quotedList f.names ++ " \x7d"

/-- What the answer of a channel means for the message: the end, or nothing yet if the next channel
is to be tried.  `attempts` counts the channel that answered, and `more` says whether there is a
next one. -/
def conclude (name : String) (attempts : Nat) (more : Bool) : Attempt → Option Delivery
  | .accepted receipt => some (.accepted receipt attempts)
  | .refused error =>
    if error.isRecoverable && more then none else some (.failed error name attempts)
  | .crashed => some .crashed

/-- Hands a message to one channel after the other until there is an end; so many channels were
tried before. -/
def deliverFrom (email : OutboundEmail) (attempts : Nat) :
    List (Channel σ) → StateM σ Delivery
  | [] => pure (.failed (.misconfigured "no mail channel configured") "" attempts)
  | c :: cs => do
    match conclude c.name (attempts + 1) (!cs.isEmpty) (← c.send email) with
    | some d => return d
    | none => deliverFrom email (attempts + 1) cs

/-- Delivers a message. -/
def deliver (f : Failover σ) (email : OutboundEmail) : StateM σ Delivery :=
  deliverFrom email 0 f.channels

end Failover

end Mailshot
