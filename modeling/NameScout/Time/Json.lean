import NameScout.Json.Decode
import NameScout.Time.Stamp

namespace NameScout

def Instant.toJson (t : Instant) : Json :=
  .string t.stamp

def Json.Decoder.instant : Json.Decoder Instant := fun room tree =>
  (Json.Decoder.text room tree).bind Instant.ofStamp?

def Json.ofOption {α : Type} (f : α → Json) : Option α → Json
  | none => .null
  | some a => f a

end NameScout
