namespace NameScout.Url

inductive Fault where
  | emptyHost
  | invalidDomain
  | invalidPort
  | invalidIpv4
  | invalidIpv6
  | invalidHostCharacter
  | noBase
  | flatBase
  deriving DecidableEq, Repr

def Fault.message : Fault → String
  | emptyHost => "empty host"
  | invalidDomain => "invalid international domain name"
  | invalidPort => "invalid port number"
  | invalidIpv4 => "invalid IPv4 address"
  | invalidIpv6 => "invalid IPv6 address"
  | invalidHostCharacter => "invalid domain character"
  | noBase => "relative URL without a base"
  | flatBase => "relative URL with a cannot-be-a-base base"

end NameScout.Url
