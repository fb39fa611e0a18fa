import NameScout.Json.Parser

namespace NameScout.Json

def maxDepth : Nat := 127

mutual

def ofTree? (room : Nat) : Tree → Option Json
  | .null => some .null
  | .bool b => some (.bool b)
  | .number n => n.value?
  | .string s => s.map .string
  | .array items => match room with
      | 0 => none
      | room + 1 => (ofItems? room items).map .array
  | .object members => match room with
      | 0 => none
      | room + 1 => (ofFields? room members).map fun fields => .object (ofMembers fields)

def ofItems? (room : Nat) : List Tree → Option (List Json)
  | [] => some []
  | item :: items => match ofTree? room item, ofItems? room items with
      | some item, some items => some (item :: items)
      | _, _ => none

def ofFields? (room : Nat) : List (Option String × Tree) → Option (List (String × Json))
  | [] => some []
  | (name, value) :: fields => match name, ofTree? room value, ofFields? room fields with
      | some name, some value, some fields => some ((name, value) :: fields)
      | _, _, _ => none

end

def parse? (text : String) : Option Json :=
  (Tree.parse? text).bind (ofTree? maxDepth)

abbrev Decoder (α : Type) := (room : Nat) → Tree → Option α

namespace Decoder

def text : Decoder String
  | _, .string s => s
  | _, _ => none

def bool : Decoder Bool
  | _, .bool b => some b
  | _, _ => none

def natUpTo (limit : Nat) : Decoder Nat
  | _, .number n => match n.int? with
      | some (.ofNat i) => if i ≤ limit then some i else none
      | _ => none
  | _, _ => none

def uint16 : Decoder UInt16 := fun room tree =>
  (natUpTo 65535 room tree).map UInt16.ofNat

def uint32 : Decoder UInt32 := fun room tree =>
  (natUpTo 4294967295 room tree).map UInt32.ofNat

def uint64 : Decoder UInt64 := fun room tree =>
  (natUpTo maxUnsigned room tree).map UInt64.ofNat

def float : Decoder Float
  | _, .number n => match n.int? with
      | some (.ofNat i) => some i.toUInt64.toFloat
      | some (.negSucc i) => some (-(i + 1).toUInt64.toFloat)
      | none => n.float?
  | _, _ => none

def optional {α : Type} (d : Decoder α) : Decoder (Option α)
  | _, .null => some none
  | room, tree => (d room tree).map some

def list {α : Type} (d : Decoder α) : Decoder (List α)
  | room + 1, .array items => items.mapM (d room)
  | _, _ => none

def pairs {α : Type} (d : Decoder α) : Decoder (List (String × α))
  | room + 1, .object members =>
      members.mapM fun (name, value) => do return (← name, ← d room value)
  | _, _ => none

def word {α : Type} (ofLabel? : String → Option α) : Decoder α
  | _, .string (some s) => ofLabel? s
  | _ + 1, .object [(some s, .null)] => ofLabel? s
  | _, _ => none

end Decoder

/-- The values given for the fields of a record: by name, or by place in an array. -/
structure Record where
  room : Nat
  positional : Bool
  given : List (String × Tree)

namespace Record

def namesOf : List (Option String × Tree) → Option (List (String × Tree))
  | [] => some []
  | (name, value) :: members => do return (← name, value) :: (← namesOf members)

/-- The record that a tree gives for some fields. By name, unknown members are passed over
and no known one may come twice; by place, there may be no more values than fields. -/
def open? (fields : List String) : Decoder Record
  | room + 1, .object members => do
      let given := (← namesOf members).filter fun (name, _) => fields.contains name
      if (given.map (·.1)).Nodup then some ⟨room, false, given⟩ else none
  | room + 1, .array items =>
      if items.length ≤ fields.length then some ⟨room, true, fields.zip items⟩ else none
  | _, _ => none

variable {α : Type}

def required (r : Record) (field : String) (d : Decoder α) : Option α :=
  (r.given.lookup field).bind (d r.room)

/-- A field that may be null; it may also be left out, but not from an array. -/
def optional (r : Record) (field : String) (d : Decoder α) : Option (Option α) :=
  match r.given.lookup field with
  | some tree => d.optional r.room tree
  | none => if r.positional then none else some none

def defaulted (r : Record) (field : String) (default : α) (d : Decoder α) : Option α :=
  match r.given.lookup field with
  | some tree => d r.room tree
  | none => some default

end Record

def decode? {α : Type} (d : Decoder α) (text : String) : Option α :=
  (Tree.parse? text).bind (d maxDepth)

end NameScout.Json
