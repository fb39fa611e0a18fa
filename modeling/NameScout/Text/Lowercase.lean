import NameScout.Text.CaseTable
import NameScout.Text.CategoryTable
import NameScout.Text.Ranges

namespace NameScout.Text

def isCased (c : Char) : Bool :=
  inRanges casedRanges c.toNat

def isCaseIgnorable (c : Char) : Bool :=
  inRanges ignorableRanges c.toNat || inRanges nonspacingRanges c.toNat

def capitalSigma : Char := 'Σ'

def lowerChar (c : Char) : List Char :=
  if c.toNat < 0x80 then [c.toLower]
  else if c = 'İ' then ['i', '\u0307']
  else [(Run.image? lowerRuns c).getD c]

def meetsCased (cs : List Char) : Bool :=
  match cs.dropWhile isCaseIgnorable with
  | c :: _ => isCased c
  | [] => false

/-- Lower case in context: a capital sigma that ends a word becomes a final sigma.
`before` holds the characters already passed, last one first. -/
def lowerFrom (before : List Char) : List Char → List Char
  | [] => []
  | c :: cs =>
      (if c = capitalSigma then
        [if meetsCased before && !meetsCased cs then 'ς' else 'σ']
      else lowerChar c) ++ lowerFrom (c :: before) cs

def lowerChars (cs : List Char) : List Char :=
  lowerFrom [] cs

def lowercase (s : String) : String :=
  String.ofList (lowerChars s.toList)

def lowerAscii (s : String) : String :=
  String.ofList (s.toList.map Char.toLower)

end NameScout.Text
