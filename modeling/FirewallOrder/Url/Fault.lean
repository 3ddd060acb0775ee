/-!
# What can be wrong with the text of a URL
-/

namespace FirewallOrder

/-- Why a text is no URL. -/
inductive UrlFault
  | noScheme
  | emptyHost
  | badPort
  | badHost
  | badIpv6
  | badIpv4
  | badCharacter
  | tooLong
  deriving DecidableEq, Repr

def UrlFault.message : UrlFault → String
  | .noScheme => "relative URL without a base"
  | .emptyHost => "empty host"
  | .badPort => "invalid port number"
  | .badHost => "invalid international domain name"
  | .badIpv6 => "invalid IPv6 address"
  | .badIpv4 => "invalid IPv4 address"
  | .badCharacter => "invalid domain character"
  | .tooLong => "URLs more than 4 GB are not supported"

end FirewallOrder
