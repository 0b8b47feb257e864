/-! # Errors of URLs -/

namespace MeshSync.Url

/-- Why a text is no URL. -/
inductive Error where
  | relativeWithoutBase
  /-- A relative reference to a URL without a hierarchy. -/
  | baseWithoutHierarchy
  | emptyHost
  | invalidPort
  | invalidIpv4
  | invalidIpv6
  | invalidInternationalDomain
  | invalidDomainCharacter
  deriving DecidableEq

/-- The wording of an error. -/
def Error.message : Error → String
  | .relativeWithoutBase => "relative URL without a base"
  | .baseWithoutHierarchy => "relative URL with a cannot-be-a-base base"
  | .emptyHost => "empty host"
  | .invalidPort => "invalid port number"
  | .invalidIpv4 => "invalid IPv4 address"
  | .invalidIpv6 => "invalid IPv6 address"
  | .invalidInternationalDomain => "invalid international domain name"
  | .invalidDomainCharacter => "invalid domain character"

end MeshSync.Url
