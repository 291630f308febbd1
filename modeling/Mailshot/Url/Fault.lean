/-!
# Why a text is no URL
-/

set_option autoImplicit false

namespace Mailshot

/-- Why a text is no URL. -/
inductive UrlFault where
  /-- The host is missing. -/
  | emptyHost
  /-- The name of the host cannot be one. -/
  | domainName
  /-- The port is no number, or too large. -/
  | port
  /-- The host looks like an IPv4 address and is none. -/
  | ipv4
  /-- The host stands in brackets and is no IPv6 address. -/
  | ipv6
  /-- A character cannot stand in a host. -/
  | hostCharacter
  /-- There is no scheme, and no base to take one from. -/
  | noBase
  /-- There is no scheme, and nothing can be relative to the base. -/
  | opaqueBase
deriving DecidableEq

/-- A fault in words. -/
def UrlFault.message : UrlFault → String
  | .emptyHost => "empty host"
  | .domainName => "invalid international domain name"
  | .port => "invalid port number"
  | .ipv4 => "invalid IPv4 address"
  | .ipv6 => "invalid IPv6 address"
  | .hostCharacter => "invalid domain character"
  | .noBase => "relative URL without a base"
  | .opaqueBase => "relative URL with a cannot-be-a-base base"

end Mailshot
