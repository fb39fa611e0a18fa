import NameScout.Availability
import NameScout.CheckType
import NameScout.Time.Instant

namespace NameScout

/-- What identifies a cached answer. The top-level domain is normalized, and empty for
everything but domains, when the cache writes a key. -/
structure CacheKey where
  name : String
  checkType : CheckType
  tld : String
  deriving DecidableEq, Repr

namespace CacheKey

/-- The order of keys in a state file: by type, then by name, then by top-level domain. -/
def le (a b : CacheKey) : Bool :=
  if a.checkType.rank ≠ b.checkType.rank then a.checkType.rank < b.checkType.rank
  else if a.name ≠ b.name then a.name < b.name
  else !(b.tld < a.tld)

end CacheKey

structure Entry where
  name : String
  checkType : CheckType
  tld : String
  available : Availability
  statusCode : Option UInt16
  /-- The extra members as the text of a JSON object. -/
  extraData : String
  message : String
  checkedAt : Instant
  expiresAt : Instant
  deriving DecidableEq, Repr

namespace Entry

def key (e : Entry) : CacheKey :=
  ⟨e.name, e.checkType, e.tld⟩

def isLive (e : Entry) (now : Instant) : Bool :=
  now < e.expiresAt

def hasKey (e : Entry) (name : String) (checkType : CheckType) (tld : String) : Bool :=
  e.key == ⟨name, checkType, tld⟩

end Entry

end NameScout
