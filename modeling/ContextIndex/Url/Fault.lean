/-!
# Faults of addresses

What keeps a text from being an address, and how that is said.
-/

namespace ContextIndex.Url

/-- What keeps a text from being an address. -/
inductive Fault
  /-- It does not start with a scheme. -/
  | relative
  /-- The host is missing. -/
  | emptyHost
  /-- The port is no number or too large. -/
  | badPort
  /-- The host is not the name of a domain. -/
  | badName
  /-- The host holds a character that no host has. -/
  | badCharacter
  /-- The host is not an address of four bytes, although it ends in a number. -/
  | badFourBytes
  /-- The host is not an address of eight groups, although it is in brackets. -/
  | badEightGroups
deriving DecidableEq, Repr

/-- The message of a fault. -/
def Fault.message : Fault → String
  | relative => "relative URL without a base"
  | emptyHost => "empty host"
  | badPort => "invalid port number"
  | badName => "invalid international domain name"
  | badCharacter => "invalid domain character"
  | badFourBytes => "invalid IPv4 address"
  | badEightGroups => "invalid IPv6 address"

end ContextIndex.Url
