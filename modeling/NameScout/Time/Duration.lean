namespace NameScout

/-- A span of time in nanoseconds, forwards or backwards. -/
structure Duration where
  nanos : Int
  deriving DecidableEq, Repr

namespace Duration

def nanosPerSecond : Int := 1000000000

def max : Duration := ⟨9223372036854775807000000⟩

def min : Duration := ⟨-9223372036854775807000000⟩

def zero : Duration := ⟨0⟩

def ofSeconds (n : Int) : Duration := ⟨n * nanosPerSecond⟩

instance : LT Duration := ⟨fun a b => a.nanos < b.nanos⟩

instance : LE Duration := ⟨fun a b => a.nanos ≤ b.nanos⟩

instance (a b : Duration) : Decidable (a < b) := inferInstanceAs (Decidable (a.nanos < b.nanos))

instance (a b : Duration) : Decidable (a ≤ b) := inferInstanceAs (Decidable (a.nanos ≤ b.nanos))

instance : Sub Duration := ⟨fun a b => ⟨a.nanos - b.nanos⟩⟩

theorem lt_iff {a b : Duration} : a < b ↔ a.nanos < b.nanos := Iff.rfl

theorem le_iff {a b : Duration} : a ≤ b ↔ a.nanos ≤ b.nanos := Iff.rfl

theorem nanos_sub (a b : Duration) : (a - b).nanos = a.nanos - b.nanos := rfl

def forwards (d : Duration) : Duration :=
  if d.nanos < 0 then zero else d

def Representable (d : Duration) : Prop :=
  min ≤ d ∧ d ≤ max

instance (d : Duration) : Decidable d.Representable := inferInstanceAs (Decidable (_ ∧ _))

def ofSeconds? (n : Int) : Option Duration :=
  if (ofSeconds n).Representable then some (ofSeconds n) else none

/-- A whole number of seconds; one too large to represent is the longest span. -/
def ofConfigured (n : UInt64) : Duration :=
  (ofSeconds? n.toNat).getD max

def wholeSeconds (d : Duration) : Int :=
  d.nanos.tdiv nanosPerSecond

def subsecond (d : Duration) : Int :=
  d.nanos.tmod nanosPerSecond

end Duration

end NameScout
