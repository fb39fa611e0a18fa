import NameScout.Cache.Results
import NameScout.Decimal.Reading
import NameScout.Http.Exchange
import NameScout.Lookup.Endpoint
import NameScout.NameRule
import NameScout.RateLimit.Limiter
import NameScout.Settings
import NameScout.Time.Clock

namespace NameScout

/-- Looking names of one type up at a provider, one request a name. -/
structure Lookup where
  checkType : CheckType
  template : String
  token : Option String
  userAgent : Option String
  limiter : Option Limiter
  cache : Option TtlSettings

namespace Lookup

def agent : String := "namecheck/0.1.0"

def new (checkType : CheckType) (template : String) : Except Failure Lookup :=
  if Text.contains template placeholder then
    .ok { checkType, template, token := none, userAgent := some agent, limiter := none
          cache := none }
  else .error (.config (.noPlaceholder checkType template))

def ofDefault (checkType : CheckType) : Except Failure Lookup :=
  match checkType.defaultTemplate? with
  | some template => new checkType template
  | none => .error (.config (.noEndpoint checkType))

/-- The lookup with a token; an empty one is none. -/
def withToken (l : Lookup) (token : String) : Lookup :=
  { l with token := if token = "" then none else some token }

def withLimiter (l : Lookup) (limiter : Limiter) : Lookup :=
  { l with limiter := some limiter }

def withCache (l : Lookup) (ttl : TtlSettings) : Lookup :=
  { l with cache := some ttl }

def urlText (l : Lookup) (name : String) : String :=
  Text.replace l.template placeholder name

def url (l : Lookup) (name : String) : Except Failure Url :=
  match Url.parse (l.urlText name) with
  | .ok url => .ok url
  | .error fault => .error (.invalidInput (.badUrl (l.urlText name) fault))

def tldOf (l : Lookup) (name : String) : Option String :=
  match l.checkType with
  | .domain => (Text.splitFirst? (· == '.') name.toList).map fun (_, tld) => String.ofList tld
  | _ => none

def result (l : Lookup) (name : String) (outcome : Availability) (endpoint : String) :
    CheckResult :=
  let r := CheckResult.new name l.checkType outcome
  { r with
    tld := (l.tldOf name).map Text.lowerAscii
    provenance := { r.provenance with source := l.checkType.sourceName, server := endpoint } }

def defaultBackoff : Duration := .ofSeconds 60

def isVisible (text : String) : Bool :=
  text.toList.all fun c => c == '\t' || (0x20 ≤ c.toNat && c.toNat < 0x7F)

/-- The seconds that a header asks to wait, if it holds a positive number of them. -/
def backoffSeconds? (header : String) : Option Int :=
  if isVisible header then
    (Decimal.readInt 9223372036854775807 (Text.trimChars header.toList)).toOption.filter (0 < ·)
  else none

def backoffOf (reply : Http.Reply) : Duration :=
  match ((reply.header? "retry-after").bind backoffSeconds?).bind Duration.ofSeconds? with
  | some d => d
  | none => defaultBackoff

def retryAfterKey : String := "retry_after_secs"

def heldBack (l : Lookup) (name endpoint : String) (wait : Duration) : CheckResult :=
  ((l.result name .rateLimited endpoint).withMessage
    s!"rate limited locally, retry after {wait.wholeSeconds}s").withExtra
      retryAfterKey (.int wait.wholeSeconds)

def answer (l : Lookup) (name endpoint : String) (reply : Http.Reply) : CheckResult :=
  let said :=
    if reply.status = 404 then (l.result name .available endpoint).withMessage "not found"
    else if reply.status = 429 then
      ((l.result name .rateLimited endpoint).withMessage s!"rate limited by {endpoint}").withExtra
        retryAfterKey (.int (backoffOf reply).wholeSeconds)
    else if Http.isSuccess reply.status then
      (l.result name .taken endpoint).withMessage "registered"
    else
      (l.result name .unknown endpoint).withMessage
        s!"unexpected status {Http.statusText reply.status}"
  said.withStatusCode reply.status

section Effects

variable {σ : Type} [Store σ] [Clock σ]

/-- The cached answer for a name. A cache that cannot be read has none. -/
def cached (l : Lookup) (name : String) : Effect σ (Option CheckResult) := do
  match l.cache with
  | none => return none
  | some _ => (Cache.get name l.checkType (l.tldOf name) (Clock.now (← get))).getD none

/-- Keep an answer as long as its outcome says. A cache that cannot be written keeps none. -/
def keep (l : Lookup) (name : String) (r : CheckResult) : Effect σ Unit := do
  match l.cache with
  | none => return ()
  | some ttl => (Cache.set name r (ttl.ttlFor r.available) (Clock.now (← get))).getD ()

/-- Ask the limiter for a request, and count it. Rows that cannot be read or written hold
nothing back. -/
def gate (l : Lookup) (endpoint : String) : Effect σ Admission := do
  match l.limiter with
  | none => return .allowed
  | some limiter =>
      match ← (limiter.allow endpoint (Clock.now (← get))).getD .allowed with
      | .denied wait => return .denied wait
      | .allowed =>
          (limiter.record endpoint (Clock.now (← get))).getD ()
          return .allowed

def heed (l : Lookup) (endpoint : String) (reply : Http.Reply) : Effect σ Unit := do
  if reply.status = 429 ∧ l.limiter.isSome then
    (Limiter.recordRefusal endpoint (backoffOf reply) (Clock.now (← get))).getD ()

variable [Http.Network σ]

def exchange (l : Lookup) (name : String) (url : Url) : Effect σ Http.Reply := do
  let failure (fault : TransportFault) : Failure := .http (.lookup l.checkType name fault)
  match Http.request url l.token l.userAgent with
  | .error fault => throw (failure fault)
  | .ok request => match ← (Http.fetch request : StateM σ _) with
      | .error fault => throw (failure fault)
      | .ok reply => return reply

def ask (l : Lookup) (name : String) : Effect σ CheckResult := do
  let url ← Effect.ofExcept (l.url name)
  let endpoint := url.host?.getD ""
  match ← l.gate endpoint with
  | .denied wait => return l.heldBack name endpoint wait
  | .allowed =>
      let reply ← l.exchange name url
      l.heed endpoint reply
      let r := l.answer name endpoint reply
      l.keep name r
      return r

def check (l : Lookup) (name : String) : Effect σ CheckResult := do
  match ← l.cached name with
  | some hit => return hit
  | none => l.ask name

end Effects

end Lookup

end NameScout
