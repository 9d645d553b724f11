/-!
# Faults of URLs
-/

namespace Waymark

inductive UrlError where
  | emptyHost
  | domain
  | port
  | ipv4
  | ipv6
  | domainCharacter
  /-- There is no scheme, and nothing to resolve the text against. -/
  | relative
  deriving DecidableEq

def UrlError.message : UrlError → String
  | .emptyHost => "empty host"
  | .domain => "invalid international domain name"
  | .port => "invalid port number"
  | .ipv4 => "invalid IPv4 address"
  | .ipv6 => "invalid IPv6 address"
  | .domainCharacter => "invalid domain character"
  | .relative => "relative URL without a base"

end Waymark
