namespace NameScout.Url.Punycode

def digitChar (n : Nat) : Char :=
  if n < 26 then Char.ofNat (n + 'a'.toNat) else Char.ofNat (n - 26 + '0'.toNat)

def digitValue? (c : Char) : Option Nat :=
  if 'a' ≤ c ∧ c ≤ 'z' then some (c.toNat - 'a'.toNat)
  else if 'A' ≤ c ∧ c ≤ 'Z' then some (c.toNat - 'A'.toNat)
  else if '0' ≤ c ∧ c ≤ '9' then some (c.toNat - '0'.toNat + 26)
  else none

/-- The bound under which a digit at a place is the last one of its number. -/
def threshold (bias place : Nat) : Nat :=
  if place ≤ bias then 1 else min 26 (place - bias)

theorem threshold_pos (bias place : Nat) : 0 < threshold bias place := by
  unfold threshold; split <;> omega

def damp (delta steps : Nat) : Nat :=
  if 455 < delta then damp (delta / 35) (steps + 36) else steps + 36 * delta / (delta + 38)
termination_by delta
decreasing_by exact Nat.div_lt_self (by omega) (by omega)

def adapt (delta count : Nat) (first : Bool) : Nat :=
  let delta := if first then delta / 700 else delta / 2
  damp (delta + delta / count) 0

def digits (bias place n : Nat) : List Char :=
  let t := threshold bias place
  if n < t then [digitChar n]
  else digitChar (t + (n - t) % (36 - t)) :: digits bias (place + 36) ((n - t) / (36 - t))
termination_by n
decreasing_by
  have h := threshold_pos bias place
  exact Nat.lt_of_le_of_lt (Nat.div_le_self _ _) (by omega)

structure Writing where
  out : List Char
  delta : Nat
  bias : Nat
  count : Nat

def Writing.pass (basic point : Nat) (w : Writing) (c : Char) : Writing :=
  if c.toNat < point then { w with delta := w.delta + 1 }
  else if c.toNat = point then
    { out := w.out ++ digits w.bias 36 w.delta, delta := 0, count := w.count + 1
      bias := adapt w.delta (w.count + 1) (w.count = basic) }
  else w

def writePoints (cs : List Char) (basic : Nat) : List Nat → Nat → Writing → Writing
  | [], _, w => w
  | point :: points, least, w =>
      let w := { w with delta := w.delta + (point - least) * (w.count + 1) }
      let w := cs.foldl (Writing.pass basic point) w
      writePoints cs basic points (point + 1) { w with delta := w.delta + 1 }

def isBasic (c : Char) : Bool :=
  c.toNat < 0x80

def encode (cs : List Char) : List Char :=
  let basic := cs.filter isBasic
  let others := (cs.filter (!isBasic ·)).map Char.toNat
  let points := (others.mergeSort (· ≤ ·)).eraseDups
  let start : Writing := { out := [], delta := 0, bias := 72, count := basic.length }
  basic ++ (if basic.isEmpty then [] else ['-'])
    ++ (writePoints cs basic.length points 0x80 start).out

structure Reading where
  out : List Char
  point : Nat
  bias : Nat
  index : Nat
  start : Nat
  weight : Nat
  place : Nat

def isTooLarge (n : Nat) : Bool :=
  0xFFFFFFFF < n

def Reading.take? (r : Reading) (c : Char) : Option Reading := do
  let digit ← digitValue? c
  let index := r.index + digit * r.weight
  if isTooLarge index then none
  let t := threshold r.bias r.place
  if digit < t then
    let count := r.out.length + 1
    let point := r.point + index / count
    if !point.isValidChar then none
    let place := index % count
    return {
      out := r.out.take place ++ Char.ofNat point :: r.out.drop place
      point, index := place + 1, start := place + 1, weight := 1, place := 36
      bias := adapt (index - r.start) count (r.start = 0) }
  else
    let weight := r.weight * (36 - t)
    if isTooLarge weight then none
    return { r with index, weight, place := r.place + 36 }

/-- The text that was coded. A hyphen divides the basic characters from the numbers; there is
none if there are no basic characters. -/
def decode? (cs : List Char) : Option (List Char) := do
  let after := (cs.reverse.takeWhile (· != '-')).reverse
  let before := (cs.reverse.dropWhile (· != '-')).reverse
  let basic := before.dropLast
  if before = ['-'] ∨ !basic.all isBasic then none
  let r ← after.foldlM Reading.take?
    { out := basic, point := 0x80, bias := 72, index := 0, start := 0, weight := 1, place := 36 }
  if r.place = 36 then some r.out else none

end NameScout.Url.Punycode
