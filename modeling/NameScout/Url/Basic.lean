import NameScout.Url.Host
import NameScout.Url.Path

namespace NameScout

namespace Url

structure Authority where
  user : String
  password : Option String
  host : Host
  port : Option UInt16
  deriving DecidableEq, Repr

end Url

structure Url where
  scheme : String
  authority : Option Url.Authority
  path : Url.Path
  query : Option String
  fragment : Option String
  deriving DecidableEq, Repr

namespace Url

def isSpecial (scheme : String) : Bool :=
  ["http", "https", "ws", "wss", "ftp", "file"].contains scheme

def defaultPort? : String → Option UInt16
  | "http" | "ws" => some 80
  | "https" | "wss" => some 443
  | "ftp" => some 21
  | _ => none

namespace Authority

def ofHost (host : Host) : Authority :=
  { user := "", password := none, host, port := none }

def userChars (a : Authority) : List Char :=
  match a.user, a.password with
  | "", none => []
  | user, none => user.toList ++ ['@']
  | user, some password => user.toList ++ ':' :: password.toList ++ ['@']

def chars (a : Authority) : List Char :=
  a.userChars ++ a.host.text.toList
    ++ match a.port with
      | none => []
      | some port => ':' :: Nat.toDigits 10 port.toNat

end Authority

def host? (u : Url) : Option String :=
  match u.authority with
  | none => none
  | some a => if a.host.text = "" then none else some a.host.text

def connectPort? (u : Url) : Option UInt16 :=
  match u.authority.bind (·.port) with
  | some port => some port
  | none => defaultPort? u.scheme

/-- A path without a host that begins with two slashes has a dot put before it, so that its
first segment is not taken for a host. -/
def pathChars (u : Url) : List Char :=
  match u.authority, u.path with
  | none, .segments ("" :: s :: rest) => '/' :: '.' :: (Path.segments ("" :: s :: rest)).chars
  | _, path => path.chars

def chars (u : Url) : List Char :=
  u.scheme.toList ++ ':'
    :: (match u.authority with
      | none => []
      | some a => '/' :: '/' :: a.chars)
    ++ u.pathChars
    ++ (match u.query with
      | none => []
      | some query => '?' :: query.toList)
    ++ match u.fragment with
      | none => []
      | some fragment => '#' :: fragment.toList

def text (u : Url) : String :=
  String.ofList u.chars

def withoutUser (u : Url) : Url :=
  { u with authority := u.authority.map fun a => { a with user := "", password := none } }

end Url

end NameScout
