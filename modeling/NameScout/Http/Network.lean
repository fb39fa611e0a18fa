import NameScout.Text.Lowercase
import NameScout.Url.Basic

namespace NameScout.Http

structure Request where
  url : Url
  accept : Option String
  authorization : Option String
  userAgent : Option String
  deriving DecidableEq, Repr

structure Reply where
  status : UInt16
  headers : List (String × String)
  deriving DecidableEq, Repr

namespace Reply

/-- The first value of a header, whose name may be in any case. -/
def header? (r : Reply) (name : String) : Option String :=
  (r.headers.find? fun (n, _) => Text.lowerAscii n == Text.lowerAscii name).map (·.2)

end Reply

class Network (σ : Type) where
  send : Request → StateM σ (Option Reply)

/-- A network that gives prepared replies in order, `none` for a connection that closes
without one, and keeps what it was asked. -/
structure Wire where
  reachable : Bool
  /-- Whether it takes requests over secure transport. -/
  secure : Bool := false
  replies : List (Option Reply)
  seen : List Request
  deriving DecidableEq

namespace Wire

def unreachable : Wire :=
  { reachable := false, replies := [], seen := [] }

def exhausted : Reply :=
  { status := 500, headers := [] }

def takes (w : Wire) (r : Request) : Bool :=
  w.reachable && (w.secure || r.url.scheme != "https")

def answer (w : Wire) (r : Request) : Option Reply × Wire :=
  if w.takes r then
    match w.replies with
    | [] => (some exhausted, { w with seen := w.seen ++ [r] })
    | reply :: replies => (reply, { w with replies, seen := w.seen ++ [r] })
  else (none, w)

instance : Network Wire where
  send r := modifyGet fun w => w.answer r

end Wire

end NameScout.Http
