import NameScout.Text.CompositionTable
import NameScout.Text.Ranges

namespace NameScout.Text

/-- Marks of one class keep their order; a starter has class zero. -/
def combiningClass (c : Char) : Nat :=
  if c.toNat < 0x300 then 0
  else match combiningClasses.find? fun (first, last, _) => first ≤ c.toNat && c.toNat ≤ last with
    | some (_, _, k) => k
    | none => 0

/-! Korean syllables are made of two or three letters by their numbers. -/

def syllableLetters? (n : Nat) : Option (List Nat) :=
  if 0xAC00 ≤ n ∧ n < 0xD7A4 then
    let i := n - 0xAC00
    let letters := [0x1100 + i / 588, 0x1161 + i % 588 / 28]
    some (if i % 28 = 0 then letters else letters ++ [0x11A7 + i % 28])
  else none

def syllable? (a b : Nat) : Option Nat :=
  if 0x1100 ≤ a ∧ a < 0x1113 ∧ 0x1161 ≤ b ∧ b < 0x1176 then
    some (0xAC00 + ((a - 0x1100) * 21 + (b - 0x1161)) * 28)
  else if 0xAC00 ≤ a ∧ a < 0xD7A4 ∧ (a - 0xAC00) % 28 = 0 ∧ 0x11A8 ≤ b ∧ b < 0x11C3 then
    some (a + (b - 0x11A7))
  else none

def takenApart : List (Nat × Nat × Nat) → Nat → List Nat
  | [], n => [n]
  | (whole, first, second) :: pairs, n =>
      if n = whole then takenApart pairs first ++ [second] else takenApart pairs n

def decomposedChar (c : Char) : List Char :=
  if c.toNat < 0x80 then [c]
  else match letterAt? singletons c, textAt? exclusions c, syllableLetters? c.toNat with
    | some d, _, _ => (takenApart composites d.toNat).map Char.ofNat
    | none, some cs, _ => cs
    | none, none, some letters => letters.map Char.ofNat
    | none, none, none => (takenApart composites c.toNat).map Char.ofNat

def putInOrder (c : Char) : List Char → List Char
  | [] => [c]
  | d :: ds =>
      if combiningClass d ≠ 0 ∧ combiningClass d < combiningClass c then d :: putInOrder c ds
      else c :: d :: ds

def decomposed (cs : List Char) : List Char :=
  (cs.flatMap decomposedChar).foldr putInOrder []

def pair? (a b : Char) : Option Char :=
  if b.toNat < 0x300 then none
  else match syllable? a.toNat b.toNat with
    | some n => some (Char.ofNat n)
    | none => (composites.find? fun (_, first, second) => a.toNat = first ∧ b.toNat = second).map
        fun (whole, _, _) => Char.ofNat whole

/-- A text on the way to being composed: the last starter, the marks after it that it did not
take, and what stands before it, both with the last one first. -/
structure Composing where
  before : List Char
  starter : Option Char
  marks : List Char

namespace Composing

def empty : Composing := ⟨[], none, []⟩

def back (t : Composing) : List Char :=
  t.marks ++ t.starter.toList ++ t.before

/-- A mark is out of reach of the starter behind a mark that is not of a lower class. -/
def reaches (t : Composing) (c : Char) : Bool :=
  match t.marks with
  | [] => true
  | d :: _ => combiningClass d < combiningClass c

def taken? (t : Composing) (c : Char) : Option Char :=
  t.starter.bind fun s => if t.reaches c then pair? s c else none

def push (t : Composing) (c : Char) : Composing :=
  match t.taken? c with
  | some whole => { t with starter := some whole }
  | none => if combiningClass c = 0 then ⟨t.back, some c, []⟩ else { t with marks := c :: t.marks }

end Composing

def composed (cs : List Char) : List Char :=
  ((decomposed cs).foldl Composing.push .empty).back.reverse

end NameScout.Text
