namespace NameScout.Decimal

inductive IntegerFault where
  | empty
  | invalidDigit
  | tooLarge
  | tooSmall
  deriving DecidableEq, Repr

def IntegerFault.message : IntegerFault → String
  | .empty => "cannot parse integer from empty string"
  | .invalidDigit => "invalid digit found in string"
  | .tooLarge => "number too large to fit in target type"
  | .tooSmall => "number too small to fit in target type"

def digitValue? (c : Char) : Option Nat :=
  if '0' ≤ c ∧ c ≤ '9' then some (c.toNat - '0'.toNat) else none

/-- Decimal digits read from left to right; the first digit that is none, or that passes
the limit, decides the fault. -/
def readDigits (limit : Nat) (excess : IntegerFault) : Nat → List Char → Except IntegerFault Nat
  | n, [] => .ok n
  | n, c :: cs =>
      match digitValue? c with
      | none => .error .invalidDigit
      | some d => if limit < 10 * n + d then .error excess else readDigits limit excess (10 * n + d) cs

def readNat (limit : Nat) : List Char → Except IntegerFault Nat
  | [] => .error .empty
  | ['+'] => .error .invalidDigit
  | '+' :: cs => readDigits limit .tooLarge 0 cs
  | cs => readDigits limit .tooLarge 0 cs

/-- A signed decimal number from `-limit - 1` to `limit`. -/
def readInt (limit : Nat) : List Char → Except IntegerFault Int
  | ['-'] => .error .invalidDigit
  | '-' :: cs => (readDigits (limit + 1) .tooSmall 0 cs).map fun n => -(n : Int)
  | cs => (readNat limit cs).map fun n => (n : Int)

inductive FloatFault where
  | empty
  | invalid
  deriving DecidableEq, Repr

def FloatFault.message : FloatFault → String
  | .empty => "cannot parse float from empty string"
  | .invalid => "invalid float literal"

def digitsValue (cs : List Char) : Nat :=
  cs.foldl (fun n c => 10 * n + (c.toNat - '0'.toNat)) 0

def spanDigits (cs : List Char) : List Char × List Char :=
  (cs.takeWhile (digitValue? · |>.isSome), cs.dropWhile (digitValue? · |>.isSome))

/-- The floating-point number nearest to `mantissa * 10 ^ exponent`. -/
def nearest (mantissa : Nat) (exponent : Int) : Float :=
  let size := exponent + (Nat.toDigits 10 mantissa).length
  if mantissa = 0 ∨ size < -400 then 0.0
  else if 400 < size then Float.ofBits 0x7FF0000000000000
  else if 0 ≤ exponent then Float.ofScientific mantissa false exponent.toNat
  else Float.ofScientific mantissa true (-exponent).toNat

def readExponent? : List Char → Option Int
  | [] => some 0
  | c :: cs =>
      if c = 'e' ∨ c = 'E' then
        let (negative, cs) := match cs with
          | '-' :: cs => (true, cs)
          | '+' :: cs => (false, cs)
          | cs => (false, cs)
        match spanDigits cs with
        | ([], _) => none
        | (ds, []) => some (if negative then -(digitsValue ds : Int) else digitsValue ds)
        | _ => none
      else none

def readUnsigned? (cs : List Char) : Option Float :=
  match String.ofList (cs.map Char.toLower) with
  | "inf" | "infinity" => some (Float.ofBits 0x7FF0000000000000)
  | "nan" => some (Float.ofBits 0x7FF8000000000000)
  | _ =>
      let (whole, rest) := spanDigits cs
      let (fraction, rest) := match rest with
        | '.' :: rest => spanDigits rest
        | rest => ([], rest)
      if whole.isEmpty ∧ fraction.isEmpty then none
      else (readExponent? rest).map fun e =>
        nearest (digitsValue (whole ++ fraction)) (e - fraction.length)

def readFloat (cs : List Char) : Except FloatFault Float :=
  match cs with
  | [] => .error .empty
  | '-' :: cs => match readUnsigned? cs with
    | some x => .ok (-x)
    | none => .error .invalid
  | cs =>
    let cs := match cs with
      | '+' :: cs => cs
      | cs => cs
    match readUnsigned? cs with
    | some x => .ok x
    | none => .error .invalid

end NameScout.Decimal
