import NameScout.RateLimit.Row
import NameScout.Time.Json

namespace NameScout.Row

def toJson (r : Row) : Json :=
  .object
    [("endpoint", .string r.endpoint),
      ("request_count", .int r.requestCount.toNat),
      ("window_start", r.windowStart.toJson),
      ("backoff_until", Json.ofOption Instant.toJson r.backoffUntil),
      ("last_429_at", Json.ofOption Instant.toJson r.last429At)]

def fields : List String :=
  ["endpoint", "request_count", "window_start", "backoff_until", "last_429_at"]

def decoder : Json.Decoder Row := fun room tree => do
  let r ← Json.Record.open? fields room tree
  return {
    endpoint := ← r.required "endpoint" .text
    requestCount := ← r.required "request_count" .uint32
    windowStart := ← r.required "window_start" .instant
    backoffUntil := ← r.optional "backoff_until" .instant
    last429At := ← r.optional "last_429_at" .instant }

end NameScout.Row
