import NameScout.CheckResult
import NameScout.Time.Json

namespace NameScout

def CheckType.toJson (t : CheckType) : Json :=
  .string t.label

def Availability.toJson (a : Availability) : Json :=
  .string a.label

namespace Json.Decoder

def checkType : Decoder CheckType := word CheckType.ofLabel?

def availability : Decoder Availability := word Availability.ofLabel?

def extraData : Decoder (List (String × Json)) := fun room tree =>
  (pairs Json.ofTree? room tree).map Json.ofMembers

end Json.Decoder

namespace Provenance

def toJson (p : Provenance) : Json :=
  .object
    [("requested_at", Json.ofOption Instant.toJson p.requestedAt),
      ("resolved_at", Json.ofOption Instant.toJson p.resolvedAt),
      ("from_cache", .bool p.fromCache),
      ("cache_expires_at", Json.ofOption Instant.toJson p.cacheExpiresAt),
      ("source", .string p.source),
      ("server", .string p.server)]

def fields : List String :=
  ["requested_at", "resolved_at", "from_cache", "cache_expires_at", "source", "server"]

def decoder : Json.Decoder Provenance := fun room tree => do
  let r ← Json.Record.open? fields room tree
  return {
    requestedAt := ← r.optional "requested_at" .instant
    resolvedAt := ← r.optional "resolved_at" .instant
    fromCache := ← r.required "from_cache" .bool
    cacheExpiresAt := ← r.optional "cache_expires_at" .instant
    source := ← r.required "source" .text
    server := ← r.required "server" .text }

end Provenance

namespace CheckResult

def toJson (r : CheckResult) : Json :=
  .object
    [("name", .string r.name),
      ("check_type", r.checkType.toJson),
      ("tld", Json.ofOption .string r.tld),
      ("available", r.available.toJson),
      ("status_code", Json.ofOption (fun n : UInt16 => .int n.toNat) r.statusCode),
      ("message", .string r.message),
      ("extra_data", .object r.extraData),
      ("provenance", r.provenance.toJson)]

def fields : List String :=
  ["name", "check_type", "tld", "available", "status_code", "message", "extra_data",
    "provenance"]

def decoder : Json.Decoder CheckResult := fun room tree => do
  let r ← Json.Record.open? fields room tree
  return {
    name := ← r.required "name" .text
    checkType := ← r.required "check_type" .checkType
    tld := ← r.optional "tld" .text
    available := ← r.required "available" .availability
    statusCode := ← r.optional "status_code" .uint16
    message := ← r.required "message" .text
    extraData := ← r.defaulted "extra_data" [] .extraData
    provenance := ← r.defaulted "provenance" .empty Provenance.decoder }

end CheckResult

end NameScout
