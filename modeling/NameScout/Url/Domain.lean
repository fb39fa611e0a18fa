import NameScout.Text.Blank
import NameScout.Text.CategoryTable
import NameScout.Url.DomainTable
import NameScout.Url.Fault
import NameScout.Url.Label
import NameScout.Url.Punycode

namespace NameScout.Url

def isForbiddenInHost (c : Char) : Bool :=
  ['\x00', '\t', '\n', '\r', ' ', '#', '/', ':', '<', '>', '?', '@', '[', '\\', ']', '^', '|'].contains c

def isForbiddenInDomain (c : Char) : Bool :=
  isForbiddenInHost c || c.toNat < 0x20 || c == '%' || c.toNat == 0x7F

def isAscii (cs : List Char) : Bool :=
  cs.all Punycode.isBasic

def foldedChar? (c : Char) : Option (List Char) :=
  let n := c.toNat
  if n < 0x80 then some [c.toLower]
  else if Text.inRanges refusedRanges n || Text.inRanges Text.unassignedRanges n then none
  else if Text.inRanges ignoredRanges n then some []
  else match Text.Run.image? foldedRuns c, Text.letterAt? foldedLetters c with
    | some d, _ | none, some d => some [d]
    | none, none => some ((Text.textAt? foldedTexts c).getD [c])

def folded? (cs : List Char) : Option (List Char) := do
  let folded := Text.composed (← cs.mapM foldedChar?).flatten
  if folded.any isForbiddenInDomain then none
  return folded

def codedStart : List Char := ['x', 'n', '-', '-']

/-- The label that a label in its written form stands for. A coded one must be the code of a
label that is in the form for comparison and needs a code. -/
def readLabel? (written : List Char) : Option Label :=
  match Text.dropStart? codedStart written with
  | none => some written
  | some code => do
      if 2000 < code.length then none
      let label ← Punycode.decode? code
      if isAscii label ∨ folded? label ≠ some label then none
      return label

def writeLabel? (label : List Char) : Option (List Char) :=
  if isAscii label then some label
  else if 1000 < label.length then none
  else some (codedStart ++ Punycode.encode label)

def domain? (cs : List Char) : Option (List Char) := do
  let parts := Text.splitOn (· == '.') (← folded? cs)
  let labels ← parts.mapM readLabel?
  if !labels.all Label.isWellFormed then none
  if labels.any Label.runsRightToLeft ∧ !labels.all Label.hasOneDirection then none
  return (List.intersperse ['.'] (← parts.mapM writeLabel?)).flatten

def domainChars (cs : List Char) : Except Fault (List Char) :=
  match domain? cs with
  | some domain => .ok domain
  | none => .error .invalidDomain

end NameScout.Url
