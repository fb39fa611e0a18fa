import NameScout.CheckType
import NameScout.Text.Blank

namespace NameScout.NameRule

def isLetter (c : Char) : Bool :=
  c.isAlpha

def isDigit (c : Char) : Bool :=
  c.isDigit

def isAlphanumeric (c : Char) : Bool :=
  isLetter c || isDigit c

def bytes : List Char → Nat
  | [] => 0
  | c :: cs => c.utf8Size + bytes cs

def sized (least most : Nat) (cs : List Char) : Bool :=
  least ≤ bytes cs && bytes cs ≤ most

def headIs (p : Char → Bool) (cs : List Char) : Bool :=
  cs.head?.any p

def lastIs (p : Char → Bool) (cs : List Char) : Bool :=
  cs.getLast?.any p

/-- One label of a domain: letters, digits and inner hyphens, 63 at most. -/
def label (cs : List Char) : Bool :=
  sized 1 63 cs && !headIs (· == '-') cs && !lastIs (· == '-') cs
    && cs.all fun c => isAlphanumeric c || c == '-'

/-- A domain: two or more labels, 253 bytes at most. -/
def domain (cs : List Char) : Bool :=
  let labels := Text.splitOn (· == '.') cs
  bytes cs ≤ 253 && 2 ≤ labels.length && labels.all label

def npm (cs : List Char) : Bool :=
  sized 1 214 cs && !headIs (fun c => c == '.' || c == '_') cs
    && cs.all fun c => c.isLower || isDigit c || c == '-' || c == '.' || c == '_' || c == '~'

def pypi (cs : List Char) : Bool :=
  headIs isAlphanumeric cs && lastIs isAlphanumeric cs
    && cs.all fun c => isAlphanumeric c || c == '-' || c == '.' || c == '_'

def cargo (cs : List Char) : Bool :=
  sized 1 64 cs && headIs isLetter cs
    && cs.all fun c => isAlphanumeric c || c == '-' || c == '_'

/-- A login: letters, digits and single inner hyphens, 39 at most. -/
def github (cs : List Char) : Bool :=
  sized 1 39 cs && !headIs (· == '-') cs && !lastIs (· == '-') cs
    && !Text.containsChars ['-', '-'] cs && cs.all fun c => isAlphanumeric c || c == '-'

def handle (cs : List Char) : Bool :=
  sized 1 64 cs && cs.all fun c => isAlphanumeric c || c == '-' || c == '_' || c == '.'

end NameRule

/-- Whether a name can exist in a namespace at all. -/
def CheckType.supports (t : CheckType) (name : String) : Bool :=
  let cs := name.toList
  match t with
  | domain => NameRule.domain cs
  | npm => NameRule.npm cs
  | pypi => NameRule.pypi cs
  | cargo => NameRule.cargo cs
  | github => NameRule.github cs
  | gem | gitlab | twitter | reddit => NameRule.handle cs

end NameScout
