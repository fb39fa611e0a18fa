import NameScout.Availability
import NameScout.Profile
import NameScout.RateLimit.Limiter

namespace NameScout

structure LimitSettings where
  windowSeconds : UInt64
  defaultLimit : UInt32
  overrides : Table String UInt32
  margin : Float

namespace LimitSettings

def standard : LimitSettings :=
  { windowSeconds := 60, defaultLimit := 1000, overrides := ∅, margin := 0.9 }

def window (s : LimitSettings) : Duration :=
  Duration.ofConfigured s.windowSeconds

def check (s : LimitSettings) : Except Failure Unit := do
  if s.windowSeconds = 0 then throw (.config .zeroWindow)
  if s.defaultLimit = 0 then throw (.config .zeroDefaultLimit)
  match s.overrides.toList.find? (·.2 = 0) with
  | some (endpoint, _) => throw (.config (.zeroOverride endpoint))
  | none => Limiter.checkMargin s.margin

/-- The limiter of some settings: the overrides first, then the margin on each of them. -/
def limiter (s : LimitSettings) : Except Failure Limiter := do
  s.check
  ((Limiter.new s.window s.defaultLimit).withOverrides s.overrides.toList).withMargin s.margin

end LimitSettings

/-- How many seconds each outcome is kept; 0 is not at all. -/
structure TtlSettings where
  available : UInt64
  taken : UInt64
  unknown : UInt64
  error : UInt64
  rateLimited : UInt64
  deriving DecidableEq, Repr

namespace TtlSettings

def standard : TtlSettings :=
  { available := 900, taken := 86400, unknown := 0, error := 0, rateLimited := 0 }

def disabled : TtlSettings :=
  { available := 0, taken := 0, unknown := 0, error := 0, rateLimited := 0 }

def secondsFor (s : TtlSettings) : Availability → UInt64
  | .available => s.available
  | .taken => s.taken
  | .unknown | .unsupported => s.unknown
  | .error => s.error
  | .rateLimited => s.rateLimited

def ttlFor (s : TtlSettings) (outcome : Availability) : Duration :=
  Duration.ofConfigured (s.secondsFor outcome)

end TtlSettings

inductive StoreSettings where
  | file (path : String)
  | memory
  deriving DecidableEq, Repr

namespace StoreSettings

def label : StoreSettings → String
  | file _ => "file"
  | memory => "memory"

def check : StoreSettings → Except Failure Unit
  | file path =>
      if (Text.trimChars path.toList).isEmpty then throw (.config .blankStorePath) else pure ()
  | memory => pure ()

end StoreSettings

structure Settings where
  profile : Profile
  includeUnsupported : Bool
  limits : LimitSettings
  ttl : TtlSettings
  concurrency : UInt64
  store : StoreSettings

namespace Settings

def standard : Settings :=
  { profile := .standard, includeUnsupported := false, limits := .standard, ttl := .standard
    concurrency := 4, store := .memory }

def check (s : Settings) : Except Failure Unit := do
  if s.profile.isEmpty then throw (.config (.emptyProfile s.profile.name))
  s.limits.check
  if s.concurrency = 0 then throw (.config .zeroConcurrency)
  s.store.check

end Settings

end NameScout
