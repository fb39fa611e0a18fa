import NameScout.CheckResult.Json

namespace NameScout

structure Report where
  name : String
  results : List CheckResult
  score : UInt64
  /-- How many answers are decided. -/
  total : UInt64
  unknown : UInt64
  completedAt : Instant
  deriving DecidableEq, Repr

namespace Report

def ofResults (name : String) (results : List CheckResult) (completedAt : Instant) : Report :=
  let count (p : Availability → Bool) := UInt64.ofNat (results.countP fun r => p r.available)
  { name, results, completedAt
    score := count (· == .available)
    total := count Availability.decided
    unknown := count Availability.inconclusive }

def toJson (r : Report) : Json :=
  .object
    [("name", .string r.name),
      ("results", .array (r.results.map CheckResult.toJson)),
      ("score", .int r.score.toNat),
      ("total", .int r.total.toNat),
      ("unknown", .int r.unknown.toNat),
      ("completed_at", r.completedAt.toJson)]

def fields : List String :=
  ["name", "results", "score", "total", "unknown", "completed_at"]

def decoder : Json.Decoder Report := fun room tree => do
  let r ← Json.Record.open? fields room tree
  return {
    name := ← r.required "name" .text
    results := ← r.required "results" (.list CheckResult.decoder)
    score := ← r.required "score" .uint64
    total := ← r.required "total" .uint64
    unknown := ← r.required "unknown" .uint64
    completedAt := ← r.required "completed_at" .instant }

end Report

end NameScout
