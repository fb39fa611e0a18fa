namespace NameScout.Text

structure Unfinished where
  /-- How many bytes are still to come, less one. -/
  more : Nat
  low : UInt8
  high : UInt8
  bits : Nat

namespace Unfinished

def ofLead (more : Nat) (low high : UInt8) (bits : Nat) : Unfinished :=
  ⟨more, low, high, bits⟩

def takes (u : Unfinished) (b : UInt8) : Bool :=
  u.low ≤ b && b ≤ u.high

def push (u : Unfinished) (b : UInt8) : Nat :=
  u.bits * 64 + b.toNat % 64

end Unfinished

def lead? (b : UInt8) : Option Unfinished :=
  if 0xC2 ≤ b && b ≤ 0xDF then some (.ofLead 0 0x80 0xBF (b.toNat % 32))
  else if b == 0xE0 then some (.ofLead 1 0xA0 0xBF 0)
  else if b == 0xED then some (.ofLead 1 0x80 0x9F 13)
  else if 0xE1 ≤ b && b ≤ 0xEF then some (.ofLead 1 0x80 0xBF (b.toNat % 16))
  else if b == 0xF0 then some (.ofLead 2 0x90 0xBF 0)
  else if 0xF1 ≤ b && b ≤ 0xF3 then some (.ofLead 2 0x80 0xBF (b.toNat % 8))
  else if b == 0xF4 then some (.ofLead 2 0x80 0x8F 4)
  else none

def replacement : Char := '\uFFFD'

def startChar (b : UInt8) : List Char × Option Unfinished :=
  if b < 0x80 then ([Char.ofNat b.toNat], none)
  else match lead? b with
    | some u => ([], some u)
    | none => ([replacement], none)

def nextChar (u : Unfinished) (b : UInt8) : List Char × Option Unfinished :=
  if u.takes b then
    match u.more with
    | 0 => ([Char.ofNat (u.push b)], none)
    | more + 1 => ([], some ⟨more, 0x80, 0xBF, u.push b⟩)
  else
    let (cs, next) := startChar b
    (replacement :: cs, next)

def lossyFrom : Option Unfinished → List UInt8 → List Char
  | none, [] => []
  | some _, [] => [replacement]
  | none, b :: bs => let (cs, next) := startChar b; cs ++ lossyFrom next bs
  | some u, b :: bs => let (cs, next) := nextChar u b; cs ++ lossyFrom next bs

/-- The text that some bytes hold in UTF-8, with a replacement character for each longest
beginning of a character that is not finished, and for each byte that begins none. -/
def lossy (bytes : List UInt8) : String :=
  String.ofList (lossyFrom none bytes)

end NameScout.Text
