import NameScout.Time.Duration

namespace NameScout

/-- A moment in coordinated universal time: seconds since 1970 and nanoseconds into the
second. In a leap second the nanoseconds go on from one to two thousand million. Only leap seconds
that follow the last second of a minute are moments here; one that is made in another place, by
setting the nanoseconds or by an offset with seconds, has a text that is read back as the second
after it, and is left out. -/
structure Instant where
  second : Int
  nano : Nat
  first_le : -8334601228800 ≤ second := by omega
  le_last : second ≤ 8210266876799 := by omega
  nano_lt : nano < 2000000000 := by omega
  leap_place : nano < 1000000000 ∨ second % 60 = 59 := by omega
  deriving DecidableEq, Repr

namespace Instant

def of? (second : Int) (nano : Nat) : Option Instant :=
  if h : -8334601228800 ≤ second ∧ second ≤ 8210266876799 ∧ nano < 2000000000
      ∧ (nano < 1000000000 ∨ second % 60 = 59) then
    some ⟨second, nano, h.1, h.2.1, h.2.2.1, h.2.2.2⟩
  else none

theorem of?_eq_some {s : Int} {n : Nat} {t : Instant} (h : of? s n = some t) :
    t.second = s ∧ t.nano = n := by
  unfold of? at h
  split at h
  · simp only [Option.some.injEq] at h
    subst h
    exact ⟨rfl, rfl⟩
  · simp at h

theorem of?_self (t : Instant) : of? t.second t.nano = some t := by
  unfold of?
  rw [dif_pos ⟨t.first_le, t.le_last, t.nano_lt, t.leap_place⟩]

/-- The last representable moment outside leap seconds. -/
def max : Instant :=
  { second := 8210266876799, nano := 999999999 }

def epoch : Instant :=
  { second := 0, nano := 0 }

def inLeapSecond (t : Instant) : Bool :=
  1000000000 ≤ t.nano

instance : LT Instant :=
  ⟨fun a b => a.second < b.second ∨ (a.second = b.second ∧ a.nano < b.nano)⟩

instance : LE Instant := ⟨fun a b => ¬ b < a⟩

theorem lt_iff {a b : Instant} :
    a < b ↔ a.second < b.second ∨ (a.second = b.second ∧ a.nano < b.nano) := Iff.rfl

instance (a b : Instant) : Decidable (a < b) :=
  inferInstanceAs (Decidable (_ ∨ _))

instance (a b : Instant) : Decidable (a ≤ b) :=
  inferInstanceAs (Decidable (¬ _))

/-- Nanoseconds since 1970, leap seconds not counted. -/
def ticks (t : Instant) : Int :=
  t.second * 1000000000 + t.nano

theorem lt_iff_ticks {a b : Instant} (ha : a.nano < 1000000000) (hb : b.nano < 1000000000) :
    a < b ↔ a.ticks < b.ticks := by
  simp only [lt_iff, ticks]
  omega

def ofTicks? (n : Int) : Option Instant :=
  of? (n / 1000000000) (n % 1000000000).toNat

/-- The moment some time after another one, if it is representable. Time that stays within
a leap second counts in it; time that leaves it starts from the second before, or, going
back, from the second after. -/
def add? (t : Instant) (d : Duration) : Option Instant :=
  if t.inLeapSecond then
    let whole := d.wholeSeconds
    let part := d.subsecond
    if 0 < whole ∨ (0 < part ∧ 2000000000 ≤ t.nano + part) then
      ofTicks? (t.ticks - 1000000000 + d.nanos)
    else if whole < 0 then ofTicks? (t.ticks + d.nanos)
    else of? t.second (t.nano + part).toNat
  else ofTicks? (t.ticks + d.nanos)

def addOrMax (t : Instant) (d : Duration) : Instant :=
  (t.add? d).getD max

def secondOfDay (t : Instant) : Int :=
  t.second % 86400

/-- The time from one moment to a later or earlier one. A leap second between the two, by
their times of day, is counted. -/
def since (t u : Instant) : Duration :=
  let counted : Int :=
    if u.secondOfDay < t.secondOfDay ∧ u.inLeapSecond then 1
    else if t.secondOfDay < u.secondOfDay ∧ t.inLeapSecond then -1
    else 0
  ⟨t.ticks - u.ticks + counted * 1000000000⟩

instance : HSub Instant Instant Duration := ⟨since⟩

theorem nanos_since {t u : Instant} (ht : t.nano < 1000000000) (hu : u.nano < 1000000000) :
    (t - u).nanos = t.ticks - u.ticks := by
  have h1 : t.inLeapSecond = false := by simp [inLeapSecond]; omega
  have h2 : u.inLeapSecond = false := by simp [inLeapSecond]; omega
  change (since t u).nanos = _
  simp [since, h1, h2]

end Instant

end NameScout
