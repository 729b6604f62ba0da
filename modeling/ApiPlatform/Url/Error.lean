/-!
# Unreadable URLs

Why a text is no absolute URL.
-/

namespace ApiPlatform

/-- What is wrong with a text that should be a URL. -/
inductive UrlError where
  | emptyHost
  | internationalDomain
  | port
  | ipv4
  | ipv6
  | domainCharacter
  | relative
  deriving DecidableEq, Repr

/-- What is wrong, in words. -/
def UrlError.message : UrlError → String
  | .emptyHost => "empty host"
  | .internationalDomain => "invalid international domain name"
  | .port => "invalid port number"
  | .ipv4 => "invalid IPv4 address"
  | .ipv6 => "invalid IPv6 address"
  | .domainCharacter => "invalid domain character"
  | .relative => "relative URL without a base"

end ApiPlatform
