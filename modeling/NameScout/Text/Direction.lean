import NameScout.Text.CategoryTable
import NameScout.Text.DirectionTable
import NameScout.Text.Ranges

namespace NameScout.Text

inductive Direction where
  | leftToRight
  | rightToLeft
  | arabicNumber
  | europeanNumber
  | nonspacing
  | neutral
  deriving DecidableEq, Repr

def direction (c : Char) : Direction :=
  let n := c.toNat
  if n < 0x80 then
    if c.isAlpha then .leftToRight else if c.isDigit then .europeanNumber else .neutral
  else if inRanges rightToLeftRanges n then .rightToLeft
  else if inRanges arabicNumberRanges n then .arabicNumber
  else if inRanges europeanNumberRanges n then .europeanNumber
  else if inRanges neutralRanges n then .neutral
  else if inRanges nonspacingRanges n && !inRanges leftToRightMarkRanges n then .nonspacing
  else .leftToRight

end NameScout.Text
