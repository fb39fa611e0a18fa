import NameScout.Decimal.Reading
import NameScout.Json.Tree

namespace NameScout.Json

def maxUnsigned : Nat := 18446744073709551615

def maxExponent : Nat := 2147483647

/-- The digits read on to a number as long as it fits in 64 bits, and how many were left. -/
def leadingDigits : Nat → List Char → Nat × Nat
  | n, [] => (n, 0)
  | n, c :: cs =>
      let m := 10 * n + (c.toNat - '0'.toNat)
      if maxUnsigned < m then (n, cs.length + 1) else leadingDigits m cs

def tenTo (k : Nat) : Float :=
  Float.ofScientific 1 false k

def infiniteBits : UInt64 := 0x7FF0000000000000

/-- `x * 10 ^ e` by steps of at most `10 ^ 308`, each of them rounded; `none` when too large. -/
def scale : Nat → Float → Int → Option Float
  | 0, x, _ => some x
  | fuel + 1, x, e =>
      if e.natAbs ≤ 308 then
        if 0 ≤ e then
          let y := x * tenTo e.natAbs
          if y.toBits = infiniteBits then none else some y
        else some (x / tenTo e.natAbs)
      else if x.toBits = 0 then some x
      else if 0 ≤ e then none
      else scale fuel (x / tenTo 308) (e + 308)

def Numeral.exponentValue (n : Numeral) : Int :=
  match n.exponent with
  | none => 0
  | some (true, ds) => -(Decimal.digitsValue ds : Int)
  | some (false, ds) => Decimal.digitsValue ds

/-- A number with a point, an exponent or too many digits: its leading digits, rounded, times
the power of ten that belongs to them. -/
def Numeral.float? (n : Numeral) : Option Float :=
  let (whole, skipped) := leadingDigits 0 n.whole
  let (mantissa, dropped) := leadingDigits whole n.fraction
  let point := (skipped : Int) - (n.fraction.length - dropped : Nat)
  let e := n.exponentValue
  let magnitude :=
    if e.natAbs ≤ maxExponent then scale 8 mantissa.toUInt64.toFloat (point + e)
    else if mantissa ≠ 0 ∧ 0 < e then none
    else some 0.0
  magnitude.map fun x => if n.negative then -x else x

/-- The integer a numeral stands for: from `-2 ^ 63` to `2 ^ 64 - 1`, and not minus zero. -/
def Numeral.int? (n : Numeral) : Option Int :=
  let v := Decimal.digitsValue n.whole
  if !n.fraction.isEmpty || n.exponent.isSome then none
  else if n.negative then
    if 0 < v ∧ v ≤ 9223372036854775808 then some (-(v : Int)) else none
  else if v ≤ maxUnsigned then some v else none

def Numeral.value? (n : Numeral) : Option Json :=
  match n.int? with
  | some i => some (.int i)
  | none => n.float?.map fun x => .float x.toBits

end NameScout.Json
