namespace NameScout.Decimal

/-- A decimal number `digits * 10 ^ exponent`. -/
structure Scaled where
  digits : Nat
  exponent : Int
  deriving DecidableEq, Repr

/-- A binary number `mantissa * 2 ^ exponent`; `tight` when the number below it is only
half a step away. -/
structure Binary where
  mantissa : Nat
  exponent : Int
  tight : Bool
  deriving DecidableEq, Repr

inductive Shape where
  | nan
  | infinite
  | finite (b : Binary)
  deriving DecidableEq, Repr

def isNegative (bits : UInt64) : Bool :=
  bits.toNat / Nat.pow 2 63 == 1

def shape (bits : UInt64) : Shape :=
  let field : Nat := bits.toNat / Nat.pow 2 52 % 2048
  let fraction : Nat := bits.toNat % Nat.pow 2 52
  if field = 2047 then (if fraction = 0 then .infinite else .nan)
  else if field = 0 then .finite ⟨fraction, -1074, false⟩
  else .finite ⟨Nat.pow 2 52 + fraction, (field : Int) - 1075, fraction == 0 && field != 1⟩

def digitCount (n : Nat) : Nat :=
  (Nat.toDigits 10 n).length

/-- A fraction of natural numbers, the second one positive. -/
structure Ratio where
  num : Nat
  den : Nat

def Ratio.ofPower (n : Nat) (base : Nat) (e : Int) : Ratio :=
  if 0 ≤ e then ⟨n * Nat.pow base e.toNat, 1⟩ else ⟨n, Nat.pow base (-e).toNat⟩

def Ratio.lt (a b : Ratio) : Bool :=
  a.num * b.den < b.num * a.den

def Ratio.le (a b : Ratio) : Bool :=
  a.num * b.den ≤ b.num * a.den

def Ratio.magnitude (r : Ratio) : Int :=
  if r.den ≤ r.num then (digitCount (r.num / r.den) : Int) - 1
  else
    let l := digitCount (r.den / r.num)
    if r.den ≤ r.num * Nat.pow 10 (l - 1) then 1 - (l : Int) else -(l : Int)

/-- The open or closed interval of reals that round to a binary number. -/
structure Rounding where
  low : Ratio
  high : Ratio
  closed : Bool

def Binary.ratio (b : Binary) : Ratio :=
  Ratio.ofPower b.mantissa 2 b.exponent

def Binary.rounding (b : Binary) : Rounding :=
  { low := Ratio.ofPower (4 * b.mantissa - (if b.tight then 1 else 2)) 2 (b.exponent - 2)
    high := Ratio.ofPower (4 * b.mantissa + 2) 2 (b.exponent - 2)
    closed := b.mantissa % 2 == 0 }

def Rounding.contains (i : Rounding) (r : Ratio) : Bool :=
  if i.closed then i.low.le r && r.le i.high else i.low.lt r && r.lt i.high

/-- The decimals with steps of `10 ^ k` next to the number that round to it, nearest first. -/
def Binary.candidate (b : Binary) (k : Int) : Option Nat :=
  let v := b.ratio
  let below :=
    if 0 ≤ k then v.num / (v.den * Nat.pow 10 k.toNat)
    else v.num * Nat.pow 10 (-k).toNat / v.den
  let fits n := b.rounding.contains (Ratio.ofPower n 10 k)
  match fits below, fits (below + 1) with
  | true, true =>
      let middle := Ratio.ofPower (10 * below + 5) 10 (k - 1)
      if v.lt middle then some below
      else if middle.lt v then some (below + 1)
      else some (if below % 2 = 0 then below else below + 1)
  | true, false => some below
  | false, true => some (below + 1)
  | false, false => none

def stripZeros : Nat → Nat → Int → Scaled
  | 0, n, e => ⟨n, e⟩
  | fuel + 1, n, e => if n % 10 = 0 then stripZeros fuel (n / 10) (e + 1) else ⟨n, e⟩

/-- The fewest significant digits, at least `count`, that read back as the same number. -/
def Binary.shortestFrom (b : Binary) : Nat → Nat → Scaled
  | 0, _ => ⟨b.mantissa, 0⟩
  | fuel + 1, count =>
      let k := b.ratio.magnitude + 1 - count
      match b.candidate k with
      | some n => stripZeros 20 n k
      | none => b.shortestFrom fuel (count + 1)

def Binary.shortest (b : Binary) : Scaled :=
  if b.mantissa = 0 then ⟨0, 0⟩ else b.shortestFrom 17 1

def zeros (n : Nat) : List Char :=
  List.replicate n '0'

/-- Positional notation: no exponent, and no point in a whole number. -/
def Scaled.plain (s : Scaled) : List Char :=
  let ds := Nat.toDigits 10 s.digits
  if 0 ≤ s.exponent then (if s.digits = 0 then ds else ds ++ zeros s.exponent.toNat)
  else
    let places := (-s.exponent).toNat
    if places < ds.length then
      ds.take (ds.length - places) ++ '.' :: ds.drop (ds.length - places)
    else '0' :: '.' :: zeros (places - ds.length) ++ ds

/-- Positional notation with a fraction below `10 ^ 16` and from `10 ^ -5` on, else an
exponent with its sign after one leading digit. -/
def Scaled.scientific (s : Scaled) : List Char :=
  let ds := Nat.toDigits 10 s.digits
  let point : Int := ds.length + s.exponent
  if s.digits = 0 then ['0', '.', '0']
  else if 0 ≤ s.exponent ∧ point ≤ 16 then ds ++ zeros s.exponent.toNat ++ ['.', '0']
  else if -5 < point ∧ point ≤ 16 then s.plain
  else
    let e := point - 1
    let mark := 'e' :: (if e < 0 then '-' else '+') :: Nat.toDigits 10 e.natAbs
    match ds with
    | [] => mark
    | [d] => d :: mark
    | d :: rest => d :: '.' :: rest ++ mark

def plainText (x : Float) : String :=
  let bits := x.toBits
  match shape bits with
  | .nan => "NaN"
  | .infinite => if isNegative bits then "-inf" else "inf"
  | .finite b => String.ofList ((if isNegative bits then ['-'] else []) ++ b.shortest.plain)

end NameScout.Decimal
