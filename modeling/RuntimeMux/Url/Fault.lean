/-!
# Faults of URLs

Why a text is not a URL.
-/

namespace RuntimeMux.Url

/-- Why a text is not a URL. -/
inductive Fault where
  /-- A host is needed and there is none. -/
  | emptyHost
  /-- The port is not a number of sixteen bits. -/
  | badPort
  /-- The host looks like an IPv4 address and is none. -/
  | badIpv4
  /-- The brackets of an IPv6 address do not hold one. -/
  | badIpv6
  /-- The host has a character that no domain has. -/
  | badDomain
  /-- The host of a scheme without domains has a character that no host has. -/
  | badHost
  /-- There is no scheme, and no base to take it from. -/
  | noBase
  /-- The base has no path that something could be relative to. -/
  | opaqueBase
  deriving DecidableEq, Repr

/-- The description of a fault. -/
def Fault.text : Fault → String
  | .emptyHost => "empty host"
  | .badPort => "invalid port number"
  | .badIpv4 => "invalid IPv4 address"
  | .badIpv6 => "invalid IPv6 address"
  | .badDomain => "invalid international domain name"
  | .badHost => "invalid domain character"
  | .noBase => "relative URL without a base"
  | .opaqueBase => "relative URL with a cannot-be-a-base base"

end RuntimeMux.Url
