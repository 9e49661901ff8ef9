/-!
# Malformed URLs
-/
namespace Reachability

/-- What can be wrong with a URL. -/
inductive UrlError
  | emptyHost
  | invalidInternationalName
  | invalidPort
  | invalidIpv4
  | invalidIpv6
  | invalidDomainCharacter
  | relativeWithoutBase
deriving DecidableEq, Inhabited

namespace UrlError

def message : UrlError → String
  | .emptyHost => "empty host"
  | .invalidInternationalName => "invalid international domain name"
  | .invalidPort => "invalid port number"
  | .invalidIpv4 => "invalid IPv4 address"
  | .invalidIpv6 => "invalid IPv6 address"
  | .invalidDomainCharacter => "invalid domain character"
  | .relativeWithoutBase => "relative URL without a base"

end UrlError

end Reachability
