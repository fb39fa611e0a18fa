import NameScout.CheckResult.Json
import NameScout.Json.Printer
import NameScout.Store.Basic

namespace NameScout.Cache

def source : String := "cache"

def extraData (text : String) : List (String × Json) :=
  (Json.decode? .extraData text).getD []

def key (name : String) (checkType : CheckType) (tld : Option String) : CacheKey :=
  ⟨name, checkType, checkType.normalizeTld tld⟩

def toResult (e : Entry) (now : Instant) : CheckResult :=
  { name := e.name
    checkType := e.checkType
    tld := if e.tld = "" then none else some e.tld
    available := e.available
    statusCode := e.statusCode
    message := e.message
    extraData := extraData e.extraData
    provenance :=
      { requestedAt := some now, resolvedAt := some e.checkedAt, fromCache := true
        cacheExpiresAt := some e.expiresAt, source, server := "" } }

/-- The entry for an answer that expires some time from now, at the latest at the last moment. -/
def toEntry (name : String) (r : CheckResult) (ttl : Duration) (now : Instant) : Entry :=
  { name
    checkType := r.checkType
    tld := r.checkType.normalizeTld r.tld
    available := r.available
    statusCode := r.statusCode
    extraData := Json.compact (.object r.extraData)
    message := r.message
    checkedAt := r.provenance.resolvedAt.getD now
    expiresAt := now.addOrMax ttl }

variable {σ : Type} [Store σ]

def get (name : String) (checkType : CheckType) (tld : Option String) (now : Instant) :
    Effect σ (Option CheckResult) := do
  return (← Store.live? (key name checkType tld) now).map (toResult · now)

def set (name : String) (r : CheckResult) (ttl : Duration) (now : Instant) : Effect σ Unit :=
  if ttl ≤ .zero then pure () else Store.putEntry (toEntry name r ttl now)

def purge (now : Instant) : Effect σ Nat :=
  Store.purge now

end NameScout.Cache
