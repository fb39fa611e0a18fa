import NameScout.Time.Instant

namespace NameScout

structure Row where
  endpoint : String
  /-- Requests counted in the current window; the count stops at the largest number. -/
  requestCount : UInt32
  windowStart : Instant
  backoffUntil : Option Instant
  last429At : Option Instant
  deriving DecidableEq, Repr

namespace Row

def new (endpoint : String) (now : Instant) : Row :=
  { endpoint, requestCount := 0, windowStart := now, backoffUntil := none, last429At := none }

def inBackoff (r : Row) (now : Instant) : Bool :=
  match r.backoffUntil with
  | some u => now < u
  | none => false

def maxCount : UInt32 := 4294967295

def countOne (n : UInt32) : UInt32 :=
  if n = maxCount then maxCount else n + 1

end Row

end NameScout
