import NameScout.Json.Decode
import NameScout.Profile.Json
import NameScout.Settings

namespace NameScout

namespace LimitSettings

def toJson (s : LimitSettings) : Json :=
  .object
    [("window_secs", .int s.windowSeconds.toNat),
      ("default_requests_per_window", .int s.defaultLimit.toNat),
      ("overrides", .object (s.overrides.toList.map fun (endpoint, limit) =>
        (endpoint, .int limit.toNat))),
      ("safety_margin", .float s.margin.toBits)]

def fields : List String :=
  ["window_secs", "default_requests_per_window", "overrides", "safety_margin"]

def decoder : Json.Decoder LimitSettings := fun room tree => do
  let r ← Json.Record.open? fields room tree
  return {
    windowSeconds := ← r.defaulted "window_secs" standard.windowSeconds .uint64
    defaultLimit := ← r.defaulted "default_requests_per_window" standard.defaultLimit .uint32
    overrides := Table.ofList (← r.defaulted "overrides" [] (.pairs .uint32))
    margin := ← r.defaulted "safety_margin" standard.margin .float }

end LimitSettings

namespace TtlSettings

def toJson (s : TtlSettings) : Json :=
  .object
    [("available_secs", .int s.available.toNat),
      ("taken_secs", .int s.taken.toNat),
      ("unknown_secs", .int s.unknown.toNat),
      ("error_secs", .int s.error.toNat),
      ("rate_limited_secs", .int s.rateLimited.toNat)]

def fields : List String :=
  ["available_secs", "taken_secs", "unknown_secs", "error_secs", "rate_limited_secs"]

def decoder : Json.Decoder TtlSettings := fun room tree => do
  let r ← Json.Record.open? fields room tree
  return {
    available := ← r.defaulted "available_secs" standard.available .uint64
    taken := ← r.defaulted "taken_secs" standard.taken .uint64
    unknown := ← r.defaulted "unknown_secs" 0 .uint64
    error := ← r.defaulted "error_secs" 0 .uint64
    rateLimited := ← r.defaulted "rate_limited_secs" 0 .uint64 }

end TtlSettings

namespace StoreSettings

def toJson : StoreSettings → Json
  | file path => .object [("type", .string "file"), ("path", .string path)]
  | memory => .object [("type", .string "memory")]

def ofTag? (path : Option String) : String → Option StoreSettings
  | "file" => path.map .file
  | "memory" => some .memory
  | _ => none

def valuesOf (name : String) (given : List (String × Json.Tree)) : List Json.Tree :=
  (given.filter fun (k, _) => k == name).map fun (_, value) => value

/-- A kind of store with its settings: an object with a `type`, whose other members must be
sound values too, or an array that begins with the type. -/
def decoder : Json.Decoder StoreSettings := fun room tree =>
  match room, tree with
  | room + 1, .object members => do
      let given ← Json.Record.namesOf members
      let others := given.filter fun (name, _) => name != "type"
      let _ ← others.mapM fun (_, value) => Json.ofTree? room value
      match valuesOf "type" given, valuesOf "path" given with
      | [.string (some tag)], [] => ofTag? none tag
      | [.string (some tag)], [.string path] => ofTag? path tag
      | [.string (some "memory")], _ => some .memory
      | _, _ => none
  | _ + 1, .array [.string (some "memory")] => some .memory
  | _ + 1, .array [.string (some "file"), .string path] => path.map .file
  | _, _ => none

end StoreSettings

namespace Settings

def toJson (s : Settings) : Json :=
  .object
    [("profile", s.profile.toJson),
      ("orchestrator", .object [("include_unsupported", .bool s.includeUnsupported)]),
      ("rate_limit", s.limits.toJson),
      ("cache", s.ttl.toJson),
      ("batch", .object [("concurrency", .int s.concurrency.toNat)]),
      ("store", s.store.toJson)]

def policyDecoder : Json.Decoder Bool := fun room tree => do
  let r ← Json.Record.open? ["include_unsupported"] room tree
  r.defaulted "include_unsupported" standard.includeUnsupported .bool

def batchDecoder : Json.Decoder UInt64 := fun room tree => do
  let r ← Json.Record.open? ["concurrency"] room tree
  r.defaulted "concurrency" standard.concurrency .uint64

def fields : List String :=
  ["profile", "orchestrator", "rate_limit", "cache", "batch", "store"]

def decoder : Json.Decoder Settings := fun room tree => do
  let r ← Json.Record.open? fields room tree
  return {
    profile := ← r.defaulted "profile" standard.profile Profile.decoder
    includeUnsupported := ← r.defaulted "orchestrator" standard.includeUnsupported policyDecoder
    limits := ← r.defaulted "rate_limit" standard.limits LimitSettings.decoder
    ttl := ← r.defaulted "cache" standard.ttl TtlSettings.decoder
    concurrency := ← r.defaulted "batch" standard.concurrency batchDecoder
    store := ← r.defaulted "store" standard.store StoreSettings.decoder }

end Settings

end NameScout
