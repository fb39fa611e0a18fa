import NameScout.Text.Blank
import NameScout.Url.Percent

namespace NameScout.Url

def digitsIn? (base : Nat) (cs : List Char) : Option Nat :=
  cs.foldlM (fun n c => (hexValue? c).bind fun d => if d < base then some (n * base + d) else none) 0

/-- A number of a dotted address: hexadecimal after `0x`, octal after `0`, decimal otherwise. -/
def addressNumber? : List Char → Option Nat
  | [] => none
  | ['0'] => some 0
  | '0' :: 'x' :: cs | '0' :: 'X' :: cs => digitsIn? 16 cs
  | '0' :: cs => digitsIn? 8 cs
  | cs => digitsIn? 10 cs

def dottedParts (cs : List Char) : List (List Char) :=
  let parts := Text.splitOn (· == '.') cs
  if parts.getLast? = some [] then parts.dropLast else parts

/-- Whether a host name must be a dotted address: its last part is a number. -/
def endsInNumber (cs : List Char) : Bool :=
  match (dottedParts cs).getLast? with
  | some part => (!part.isEmpty && part.all Char.isDigit) || (addressNumber? part).isSome
  | none => false

/-- A dotted address of one to four numbers; the last one fills the bytes that are left. -/
def ipv4? (cs : List Char) : Option UInt32 := do
  let numbers ← (dottedParts cs).mapM addressNumber?
  let last ← numbers.getLast?
  let first := numbers.dropLast
  if 3 < first.length ∨ first.any (255 < ·) ∨ Nat.pow 256 (4 - first.length) ≤ last then none
  return UInt32.ofNat
    (first.foldl (fun n b => n * 256 + b) 0 * Nat.pow 256 (4 - first.length) + last)

def ipv4Chars (address : UInt32) : List Char :=
  let n := address.toNat
  let part (k : Nat) := Nat.toDigits 10 (n / Nat.pow 256 k % 256)
  part 3 ++ '.' :: part 2 ++ '.' :: part 1 ++ '.' :: part 0

def hexGroup? (cs : List Char) : Option UInt16 :=
  if cs.isEmpty || 4 < cs.length then none else (digitsIn? 16 cs).map UInt16.ofNat

def byte? (cs : List Char) : Option Nat :=
  match cs with
  | [] => none
  | ['0'] => some 0
  | '0' :: _ => none
  | cs => (digitsIn? 10 cs).filter (· ≤ 255)

/-- A dotted address at the end of a long one, as its last two groups. -/
def dottedGroups? (cs : List Char) : Option (List UInt16) := do
  match ← (Text.splitOn (· == '.') cs).mapM byte? with
  | [a, b, c, d] => some [UInt16.ofNat (a * 256 + b), UInt16.ofNat (c * 256 + d)]
  | _ => none

def groups? : List (List Char) → Option (List UInt16)
  | [] => some []
  | [last] => if last.contains '.' then dottedGroups? last else (hexGroup? last).map ([·])
  | group :: groups => do return (← hexGroup? group) :: (← groups? groups)

def splitGap? : List Char → Option (List Char × List Char)
  | [] => none
  | ':' :: ':' :: cs => some ([], cs)
  | c :: cs => (splitGap? cs).map fun (before, after) => (c :: before, after)

def colonParts (cs : List Char) : List (List Char) :=
  if cs.isEmpty then [] else Text.splitOn (· == ':') cs

/-- A long address: eight groups, or fewer with a gap that stands for zeros. -/
def ipv6? (cs : List Char) : Option (List UInt16) := do
  match splitGap? cs with
  | none =>
      let groups ← groups? (colonParts cs)
      if groups.length = 8 then some groups else none
  | some (before, after) =>
      let left ← (colonParts before).mapM hexGroup?
      let right ← groups? (colonParts after)
      let count := left.length + right.length
      if 7 < count then none
      return left ++ List.replicate (8 - count) 0 ++ right

def zerosAt (groups : List UInt16) (place : Nat) : Nat :=
  ((groups.drop place).takeWhile (· == 0)).length

def longestZeros (groups : List UInt16) : Nat :=
  (List.range groups.length).foldl
    (fun best place => if zerosAt groups best < zerosAt groups place then place else best) 0

def groupChars (groups : List UInt16) : List Char :=
  (List.intersperse [':'] (groups.map fun g => Nat.toDigits 16 g.toNat)).flatten

def ipv6Chars (groups : List UInt16) : List Char :=
  let start := longestZeros groups
  let count := zerosAt groups start
  if count < 2 then groupChars groups
  else groupChars (groups.take start) ++ ':' :: ':' :: groupChars (groups.drop (start + count))

end NameScout.Url
