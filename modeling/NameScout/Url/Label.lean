import NameScout.Text.Composition
import NameScout.Text.Direction
import NameScout.Text.Joining

namespace NameScout.Url

abbrev Label := List Char

namespace Label

def startsWithMark : Label → Bool
  | c :: _ => 0x300 ≤ c.toNat
      && (Text.inRanges Text.nonspacingRanges c.toNat || Text.inRanges Text.spacingRanges c.toNat)
  | [] => false

def nonJoiner : Char := '\u200C'

def joiner : Char := '\u200D'

def isVirama (c : Char) : Bool :=
  Text.combiningClass c == 9

def meetsJoining (joins : Char → Bool) (cs : List Char) : Bool :=
  match cs.dropWhile Text.isTransparent with
  | c :: _ => joins c
  | [] => false

/-- A joiner and a non-joiner may stand after a virama, and a non-joiner between two letters
that it keeps apart. `before` holds the characters already passed, last one first. -/
def joinersFit (before : List Char) : Label → Bool
  | [] => true
  | c :: cs =>
      ((c != joiner && c != nonJoiner) || before.head?.any isVirama
        || (c == nonJoiner && meetsJoining Text.joinsNext before
          && meetsJoining Text.joinsPrevious cs))
      && joinersFit (c :: before) cs

def isWellFormed (label : Label) : Bool :=
  !label.startsWithMark && label.joinersFit []

def runsRightToLeft (label : Label) : Bool :=
  label.any fun c => [.rightToLeft, .arabicNumber].contains (Text.direction c)

def lastDirection? (label : Label) : Option Text.Direction :=
  ((label.map Text.direction).reverse.dropWhile (· == .nonspacing)).head?

/-- Whether a label can be told from its neighbours although some label of the domain runs
from right to left: it begins with a letter, keeps to the direction of that letter, and ends
with a letter or a digit of it. -/
def hasOneDirection (label : Label) : Bool :=
  let directions := label.map Text.direction
  match directions with
  | [] => true
  | .leftToRight :: _ =>
      !directions.contains .rightToLeft && !directions.contains .arabicNumber
        && label.lastDirection?.any [.leftToRight, .europeanNumber].contains
  | .rightToLeft :: _ =>
      !directions.contains .leftToRight
        && !(directions.contains .europeanNumber && directions.contains .arabicNumber)
        && label.lastDirection?.any [.rightToLeft, .europeanNumber, .arabicNumber].contains
  | _ => false

end Label

end NameScout.Url
