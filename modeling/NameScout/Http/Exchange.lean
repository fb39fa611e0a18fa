import NameScout.Failure
import NameScout.Http.Network
import NameScout.Http.Status
import NameScout.Text.Base64
import NameScout.Url.Parser

namespace NameScout.Http

def maxRedirects : Nat := 10

/-- Whether a text may stand in a header: no control but the tab. -/
def isHeaderText (text : String) : Bool :=
  text.toList.all fun c => c == '\t' || (0x20 ≤ c.toNat && c.toNat != 0x7F)

def plainText? (part : String) : Option String :=
  String.fromUTF8? (ByteArray.mk (Url.decode part.toList).toArray)

/-- The user and the password in a URL. A user that is no text hides both. -/
def credentials? (url : Url) : Option (String × Option String) := do
  let a ← url.authority
  let user ← plainText? a.user
  let password := a.password.bind plainText?
  if user = "" ∧ password = none then none else some (user, password)

def basicAuthorization (user : String) (password : Option String) : String :=
  "Basic " ++ String.ofList (Text.base64Chars (user ++ ":" ++ password.getD "").toUTF8.toList)

def isRefusedInRequest (c : Char) : Bool :=
  ['"', '\x60', '\x7b', '\x7d'].contains c

def isRequestHost (host : String) : Bool :=
  host.toList.all (!isRefusedInRequest ·)

def maxLength : Nat := 65534

def isRequestable (url : Url) : Bool :=
  (url.scheme == "http" || url.scheme == "https") && url.host?.any isRequestHost
    && url.text.utf8ByteSize ≤ maxLength

def request (url : Url) (token userAgent : Option String) : Except TransportFault Request :=
  let user := credentials? url
  let bare := if user.isSome then url.withoutUser else url
  if url.host?.isNone then .error (.unusableUrl url.text)
  else if token.any (!isHeaderText ·) then .error .unusableHeader
  else if !isRequestable bare then .error (.unusableUrl bare.text)
  else .ok
    { url := bare
      accept := some "application/json"
      authorization := match user with
        | some (name, password) => some (basicAuthorization name password)
        | none => token.map ("Bearer " ++ ·)
      userAgent }

def redirect? (url : Url) (reply : Reply) : Option Url :=
  if isRedirect reply.status then
    (reply.header? "location").bind fun place => (url.join place).toOption
  else none

def sameServer (u v : Url) : Bool :=
  u.host? == v.host? && u.connectPort? == v.connectPort?

/-- The request at another URL; the authorization stays with the server it was meant for. -/
def Request.redirected (r : Request) (url : Url) : Request :=
  { r with url, authorization := if sameServer r.url url then r.authorization else none }

variable {σ : Type} [Network σ]

def follow : Nat → Request → StateM σ (Except TransportFault Reply)
  | left, r => do
      match ← Network.send r with
      | none => return .error (.sending r.url.text)
      | some reply => match redirect? r.url reply with
          | none => return .ok reply
          | some url => match left with
              | 0 => return .error (.redirecting r.url.text)
              | left + 1 =>
                  if !isRequestable url then return .error (.unusableUrl url.text)
                  else follow left (r.redirected url)

def fetch (r : Request) : StateM σ (Except TransportFault Reply) :=
  follow maxRedirects r

end NameScout.Http
