import NameScout.Cache.Entry
import NameScout.CheckResult.Json

namespace NameScout.Entry

def toJson (e : Entry) : Json :=
  .object
    [("name", .string e.name),
      ("check_type", e.checkType.toJson),
      ("tld", .string e.tld),
      ("available", e.available.toJson),
      ("status_code", Json.ofOption (fun n : UInt16 => .int n.toNat) e.statusCode),
      ("extra_data", .string e.extraData),
      ("message", .string e.message),
      ("checked_at", e.checkedAt.toJson),
      ("expires_at", e.expiresAt.toJson)]

def fields : List String :=
  ["name", "check_type", "tld", "available", "status_code", "extra_data", "message",
    "checked_at", "expires_at"]

def decoder : Json.Decoder Entry := fun room tree => do
  let r ← Json.Record.open? fields room tree
  return {
    name := ← r.required "name" .text
    checkType := ← r.required "check_type" .checkType
    tld := ← r.required "tld" .text
    available := ← r.required "available" .availability
    statusCode := ← r.optional "status_code" .uint16
    extraData := ← r.required "extra_data" .text
    message := ← r.required "message" .text
    checkedAt := ← r.required "checked_at" .instant
    expiresAt := ← r.required "expires_at" .instant }

end NameScout.Entry
