import NameScout.RateLimit.Row
import NameScout.Store.Basic

namespace NameScout

inductive Admission where
  | allowed
  | denied (retryAfter : Duration)
  deriving DecidableEq, Repr

namespace Admission

def isAllowed : Admission → Bool
  | allowed => true
  | denied _ => false

def retryAfter : Admission → Duration
  | allowed => .zero
  | denied d => d

end Admission

/-- Limits on the requests to each endpoint: so many in a window of time, and none during
a backoff that the provider asked for. -/
structure Limiter where
  window : Duration
  defaultLimit : UInt32
  limits : Table String UInt32
  deriving DecidableEq

namespace Limiter

def new (window : Duration) (defaultLimit : UInt32) : Limiter :=
  { window, defaultLimit := max defaultLimit 1, limits := ∅ }

def limitFor (l : Limiter) (endpoint : String) : UInt32 :=
  (l.limits.get? endpoint).getD l.defaultLimit

def withOverrides (l : Limiter) (overrides : List (String × UInt32)) : Limiter :=
  { l with limits := l.limits.insertAll overrides }

/-- A limit scaled down, rounded down, and at least one. -/
def scaleLimit (factor : Float) (limit : UInt32) : UInt32 :=
  max (limit.toFloat * factor).floor.toUInt32 1

def scaleLimits (factor : Float) (limits : List (String × UInt32)) : List (String × UInt32) :=
  limits.map fun (endpoint, limit) => (endpoint, scaleLimit factor limit)

theorem keys_scaleLimits (factor : Float) (limits : List (String × UInt32)) :
    (scaleLimits factor limits).map Prod.fst = limits.map Prod.fst := by
  simp [scaleLimits]

def checkMargin (factor : Float) : Except Failure Unit :=
  if 0.0 < factor && factor ≤ 1.0 then .ok ()
  else .error (.config (.margin factor.toBits))

/-- The limiter with every override scaled down; the default limit stays as it is. -/
def withMargin (l : Limiter) (factor : Float) : Except Failure Limiter :=
  (checkMargin factor).map fun () =>
    { l with limits :=
        ⟨scaleLimits factor l.limits.toList,
          (keys_scaleLimits factor l.limits.toList).symm ▸ l.limits.keys_nodup⟩ }

/-- The time since the window of a row began; none if it begins in the future. -/
def elapsed (row : Row) (now : Instant) : Duration :=
  (now - row.windowStart).forwards

def decide (l : Limiter) (endpoint : String) (row : Option Row) (now : Instant) : Admission :=
  match row with
  | none => .allowed
  | some row =>
      match row.backoffUntil.filter (now < ·) with
      | some u => .denied (u - now)
      | none =>
          if l.window ≤ elapsed row now then .allowed
          else if l.limitFor endpoint ≤ row.requestCount then
            .denied (l.window - elapsed row now)
          else .allowed

/-- The row after one more request: a new window begins when the last one has passed. -/
def counted (l : Limiter) (endpoint : String) (row : Option Row) (now : Instant) : Row :=
  let row := row.getD (Row.new endpoint now)
  if l.window ≤ elapsed row now then { row with windowStart := now, requestCount := 1 }
  else { row with requestCount := Row.countOne row.requestCount }

/-- The row after a refusal: no requests for a time. A time past the last moment, either
way, blocks until the last moment. -/
def blocked (endpoint : String) (row : Option Row) (now : Instant) (backoff : Duration) : Row :=
  { row.getD (Row.new endpoint now) with
    backoffUntil := some (now.addOrMax backoff), last429At := some now }

section Kept

variable {σ : Type} [Store σ]

def allow (l : Limiter) (endpoint : String) (now : Instant) : Effect σ Admission := do
  return l.decide endpoint (← Store.row? endpoint) now

def record (l : Limiter) (endpoint : String) (now : Instant) : Effect σ Unit := do
  Store.putRow endpoint (l.counted endpoint (← Store.row? endpoint) now)

def recordRefusal (endpoint : String) (backoff : Duration) (now : Instant) : Effect σ Unit := do
  Store.putRow endpoint (blocked endpoint (← Store.row? endpoint) now backoff)

def acquire (l : Limiter) (endpoint : String) (now : Instant) : Effect σ Admission := do
  let admission ← l.allow endpoint now
  if admission.isAllowed then l.record endpoint now
  return admission

def acquireOrFail (l : Limiter) (endpoint : String) (now : Instant) : Effect σ Unit := do
  match ← l.acquire endpoint now with
  | .allowed => return ()
  | .denied time => throw (.rateLimited (.wait endpoint time))

end Kept

end Limiter

namespace RowAdmin

variable {σ : Type} [Store σ]

def list (start : String) : Effect σ (List Row) :=
  Store.listRows start

def count (start : String) : Effect σ Nat := do
  return (← list start).length

def reset (endpoint : String) : Effect σ Bool :=
  Store.eraseRow endpoint

def resetStart (start : String) : Effect σ Nat :=
  Store.eraseRows start

def resetAll : Effect σ Nat :=
  resetStart ""

end RowAdmin

end NameScout
