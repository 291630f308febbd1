import Mailshot.Mail.Failover
import Mailshot.Mail.Relay
import Mailshot.Settings.Config
import Mailshot.Settings.Credentials

/-!
# Channels of a configuration

`Config.failover` makes channels of the relays that are configured.  All of them have to be in
order, also those that are never tried, and the first one that is not is the one that is told.
-/

set_option autoImplicit false

namespace Mailshot

/-- What is wrong with a relay. -/
inductive ChannelFault where
  /-- The endpoint is no URL. -/
  | invalidEndpoint
  /-- The variable that should hold the key is not set. -/
  | missingKey (name : String)
  /-- The endpoint is no place on the web. -/
  | notWeb
deriving DecidableEq

/-- Why there are no channels. -/
structure ChannelError where
  /-- The relay that is not in order. -/
  channel : ChannelConfig
  /-- What is wrong with it. -/
  fault : ChannelFault
deriving DecidableEq

/-- The error in words. -/
def ChannelError.message (e : ChannelError) : String :=
  match e.fault with
  | .invalidEndpoint =>
    "invalid endpoint for channel " ++ e.channel.name ++ ": " ++ e.channel.endpoint
  | .missingKey name => "channel " ++ e.channel.name ++ " needs credential " ++ name
  | .notWeb => "failed to build channel " ++ e.channel.name

namespace ChannelConfig

/-- The key of a relay that needs one; the file of keys goes before the environment. -/
def key (c : ChannelConfig) (credentials : Credentials) (environment : Environment) :
    Except ChannelFault (Option String) :=
  match c.keyVariable with
  | none => .ok none
  | some name =>
    match (credentials.find? name).or (environment name) with
    | some key => .ok (some key)
    | none => .error (.missingKey name)

/-- All that is known about a relay. -/
def settings (c : ChannelConfig) (senderAddress : String) (credentials : Credentials)
    (environment : Environment) : Except ChannelFault RelaySettings :=
  match Url.ofText c.endpoint with
  | .error _ => .error .invalidEndpoint
  | .ok endpoint =>
    match c.key credentials environment with
    | .error fault => .error fault
    | .ok apiKey =>
      if endpoint.isWeb then
        .ok { name := c.name, endpoint, apiKey, senderAddress, timeout := 1000 * c.timeout }
      else .error .notWeb

end ChannelConfig

namespace Config

/-- What is known about the relays of a list, if all of them are in order. -/
def relays (c : Config) (credentials : Credentials) (environment : Environment) :
    List ChannelConfig → Except ChannelError (List RelaySettings)
  | [] => .ok []
  | channel :: channels =>
    match channel.settings c.senderAddress credentials environment with
    | .error fault => .error ⟨channel, fault⟩
    | .ok settings => (c.relays credentials environment channels).map (settings :: ·)

/-- The channels of a configuration: its relays, or the console if there is none. -/
def failover {σ : Type} (network : Http.Network σ) (c : Config) (credentials : Credentials)
    (environment : Environment) : Except ChannelError (Failover σ) :=
  match c.relays credentials environment c.channels with
  | .error e => .error e
  | .ok [] => .ok (.single .console)
  | .ok (first :: others) =>
    .ok (.ofFirst (Relay.toChannel network first) (others.map (Relay.toChannel network)))

end Config

end Mailshot
