namespace NameScout.Text

def inRanges (ranges : List (Nat × Nat)) (n : Nat) : Bool :=
  ranges.any fun (first, last) => first ≤ n && n ≤ last

/-- A run of characters: `first`, `first + step`, …, `last`, each `shift` away from its image. -/
structure Run where
  first : Nat
  last : Nat
  step : Nat
  shift : Int
  deriving DecidableEq, Repr

namespace Run

def contains (run : Run) (n : Nat) : Bool :=
  run.first ≤ n && n ≤ run.last && (n - run.first) % run.step == 0

def image? (runs : List Run) (c : Char) : Option Char :=
  match runs.find? (·.contains c.toNat) with
  | some run => some (Char.ofNat (c.toNat + run.shift).toNat)
  | none => none

end Run

def letterAt? (texts : List (Nat × String)) (c : Char) : Option Char :=
  texts.findSome? fun (first, images) =>
    if first ≤ c.toNat then images.toList[c.toNat - first]? else none

def textAt? (lists : List (Nat × List String)) (c : Char) : Option (List Char) :=
  lists.findSome? fun (first, images) =>
    if first ≤ c.toNat then images[c.toNat - first]?.map String.toList else none

end NameScout.Text
