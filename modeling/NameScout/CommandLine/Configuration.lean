import NameScout.CommandLine.RateLimits
import NameScout.Settings

namespace NameScout.CommandLine

abbrev Environment := String → Option String

def variableNames : List String :=
  ["NAMECHECK_PROFILE", "NAMECHECK_TLDS", "NAMECHECK_REGISTRIES", "NAMECHECK_HANDLES",
    "NAMECHECK_CONCURRENCY", "NAMECHECK_INCLUDE_UNSUPPORTED", "NAMECHECK_STORE_TYPE",
    "NAMECHECK_STORE_PATH", "NAMECHECK_RATE_WINDOW_SECS", "NAMECHECK_RATE_LIMITS",
    "NAMECHECK_SAFETY_MARGIN", "NAMECHECK_GITHUB_TOKEN", "NAMECHECK_LOG_LEVEL"]

structure Configuration where
  settings : Settings
  githubToken : Option String
  logLevel : String

def parseList (raw : String) : List String :=
  ((Text.splitOn (· == ',') raw.toList).map Text.trimChars).filterMap fun item =>
    if item.isEmpty then none else some (String.ofList item)

def parseBool (cs : List Char) : Except ValueFault Bool :=
  match String.ofList cs with
  | "true" => .ok true
  | "false" => .ok false
  | _ => .error .bool

def parseUInt64 (cs : List Char) : Except ValueFault UInt64 :=
  match Decimal.readNat 18446744073709551615 cs with
  | .ok n => .ok (UInt64.ofNat n)
  | .error fault => .error (.integer fault)

def parseFloat (cs : List Char) : Except ValueFault Float :=
  match Decimal.readFloat cs with
  | .ok x => .ok x
  | .error fault => .error (.float fault)

namespace Environment

variable {α : Type}

def value (env : Environment) (name : String) (default : α)
    (parse : List Char → Except ValueFault α) : Except Fault α :=
  match env name with
  | none => .ok default
  | some raw => match parse (Text.trimChars raw.toList) with
      | .ok a => .ok a
      | .error fault => .error (.badValue name raw fault)

def list (env : Environment) (name : String) (default : List String) : List String :=
  ((env name).map parseList).getD default

def profile (env : Environment) : Except Fault Profile :=
  let name := (env "NAMECHECK_PROFILE").getD "default"
  match Profile.preset? name with
  | none => .error (.unknownProfile name)
  | some p => .ok
      { p with
        tlds := env.list "NAMECHECK_TLDS" p.tlds
        registries := env.list "NAMECHECK_REGISTRIES" p.registries
        handles := env.list "NAMECHECK_HANDLES" p.handles }

def store (env : Environment) : Except Fault StoreSettings :=
  match (env "NAMECHECK_STORE_TYPE").getD "memory" with
  | "memory" => .ok .memory
  | "file" => match env "NAMECHECK_STORE_PATH" with
      | some path => .ok (.file path)
      | none => .error .noStorePath
  | kind => .error (.unknownStore kind)

def overrides (env : Environment) : Except Fault (Table String UInt32) :=
  match env "NAMECHECK_RATE_LIMITS" with
  | some raw => parseRateLimits raw
  | none => .ok ∅

def configuration (env : Environment) : Except Fault Configuration := do
  let base := Settings.standard
  let profile ← env.profile
  let concurrency ← env.value "NAMECHECK_CONCURRENCY" base.concurrency parseUInt64
  let strict ← env.value "NAMECHECK_INCLUDE_UNSUPPORTED" base.includeUnsupported parseBool
  let store ← env.store
  let window ← env.value "NAMECHECK_RATE_WINDOW_SECS" base.limits.windowSeconds parseUInt64
  let overrides ← env.overrides
  let margin ← env.value "NAMECHECK_SAFETY_MARGIN" base.limits.margin parseFloat
  return {
    settings :=
      { base with
        profile, concurrency, store, includeUnsupported := strict
        limits := { base.limits with windowSeconds := window, overrides, margin } }
    githubToken := (env "NAMECHECK_GITHUB_TOKEN").filter (· ≠ "")
    logLevel := (env "NAMECHECK_LOG_LEVEL").getD "info" }

end Environment

namespace Configuration

def logLevels : List String :=
  ["trace", "debug", "info", "warn", "error"]

def check (c : Configuration) : Except Defect Unit :=
  match c.settings.check with
  | .error failure => .error (.settings failure)
  | .ok () =>
      if logLevels.contains (Text.lowercase c.logLevel) then .ok ()
      else .error (.logLevel c.logLevel)

end Configuration

end NameScout.CommandLine
