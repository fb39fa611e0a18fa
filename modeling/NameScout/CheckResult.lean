import NameScout.Availability
import NameScout.CheckType
import NameScout.Json.Basic
import NameScout.Time.Instant

namespace NameScout

structure Provenance where
  requestedAt : Option Instant
  resolvedAt : Option Instant
  fromCache : Bool
  cacheExpiresAt : Option Instant
  source : String
  server : String
  deriving DecidableEq, Repr

def Provenance.empty : Provenance :=
  { requestedAt := none, resolvedAt := none, fromCache := false, cacheExpiresAt := none
    source := "", server := "" }

structure CheckResult where
  name : String
  checkType : CheckType
  tld : Option String
  available : Availability
  statusCode : Option UInt16
  message : String
  /-- Extra members, in increasing order of their names. -/
  extraData : List (String × Json)
  provenance : Provenance
  deriving DecidableEq, Repr

namespace CheckResult

def new (name : String) (checkType : CheckType) (outcome : Availability) : CheckResult :=
  { name, checkType, available := outcome, tld := none, statusCode := none, message := "", extraData := []
    provenance := .empty }

def withTld (r : CheckResult) (tld : String) : CheckResult :=
  { r with tld := some tld }

def withStatusCode (r : CheckResult) (code : UInt16) : CheckResult :=
  { r with statusCode := some code }

def withMessage (r : CheckResult) (message : String) : CheckResult :=
  { r with message }

def withExtra (r : CheckResult) (name : String) (value : Json) : CheckResult :=
  { r with extraData := Json.insertMember name value r.extraData }

end CheckResult

end NameScout
