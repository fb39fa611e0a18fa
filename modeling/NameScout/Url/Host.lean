import NameScout.Url.Address
import NameScout.Url.Domain

namespace NameScout.Url

inductive Host where
  | name (text : String)
  | ipv4 (address : UInt32)
  | ipv6 (groups : List UInt16)
  deriving DecidableEq, Repr

namespace Host

def text : Host → String
  | name text => text
  | ipv4 address => String.ofList (ipv4Chars address)
  | ipv6 groups => String.ofList ('[' :: ipv6Chars groups ++ [']'])

def bracketed (cs : List Char) : Except Fault Host :=
  match cs.reverse with
  | ']' :: back => match ipv6? back.reverse with
      | some groups => .ok (.ipv6 groups)
      | none => .error .invalidIpv6
  | _ => .error .invalidIpv6

def ofDomain (cs : List Char) : Except Fault Host := do
  let decoded ← match String.fromUTF8? (ByteArray.mk (decode cs).toArray) with
    | some text => .ok text.toList
    | none => .error .invalidDomain
  let domain ← domainChars decoded
  if domain.isEmpty then .error .emptyHost
  else if endsInNumber domain then match ipv4? domain with
    | some address => .ok (.ipv4 address)
    | none => .error .invalidIpv4
  else .ok (.name (String.ofList domain))

def ofText (cs : List Char) : Except Fault Host :=
  if cs.any isForbiddenInHost then .error .invalidHostCharacter
  else .ok (.name (String.ofList (encode controls cs)))

def parse (special : Bool) (cs : List Char) : Except Fault Host :=
  match cs with
  | [] => if special then .error .emptyHost else .ok (.name "")
  | '[' :: rest => bracketed rest
  | cs => if special then ofDomain cs else ofText cs

end Host

end NameScout.Url
