import NameScout.Text.CategoryTable
import NameScout.Text.JoiningTable
import NameScout.Text.Ranges

namespace NameScout.Text

def isTransparent (c : Char) : Bool :=
  inRanges nonspacingRanges c.toNat || c.toNat == 0x1E94B

def joinsNext (c : Char) : Bool :=
  inRanges dualJoiningRanges c.toNat || inRanges leftJoiningRanges c.toNat

def joinsPrevious (c : Char) : Bool :=
  inRanges dualJoiningRanges c.toNat || inRanges rightJoiningRanges c.toNat

end NameScout.Text
