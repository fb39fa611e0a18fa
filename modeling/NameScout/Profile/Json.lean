import NameScout.Json.Decode
import NameScout.Profile

namespace NameScout

def Json.ofTexts (texts : List String) : Json :=
  .array (texts.map .string)

namespace Profile

def toJson (p : Profile) : Json :=
  .object
    [("name", .string p.name),
      ("tlds", .ofTexts p.tlds),
      ("registries", .ofTexts p.registries),
      ("handles", .ofTexts p.handles)]

def fields : List String :=
  ["name", "tlds", "registries", "handles"]

def decoder : Json.Decoder Profile := fun room tree => do
  let r ← Json.Record.open? fields room tree
  return {
    name := ← r.required "name" .text
    tlds := ← r.defaulted "tlds" [] (.list .text)
    registries := ← r.defaulted "registries" [] (.list .text)
    handles := ← r.defaulted "handles" [] (.list .text) }

end Profile

end NameScout
