import NameScout.Text.Blank
import NameScout.Url.Percent

namespace NameScout.Url

/-- The path of a URL: a sequence of segments, or one text that has none. -/
inductive Path where
  | flat (text : String)
  | segments (list : List String)
  deriving DecidableEq, Repr

namespace Path

def chars : Path → List Char
  | flat text => text.toList
  | segments list => list.flatMap fun s => '/' :: s.toList

def isHere (segment : List Char) : Bool :=
  ["." , "%2e"].contains (String.ofList (segment.map Char.toLower))

def isAbove (segment : List Char) : Bool :=
  ["..", ".%2e", "%2e.", "%2e%2e"].contains (String.ofList (segment.map Char.toLower))

def isDrive : List Char → Bool
  | [letter, mark] => letter.isAlpha && (mark == ':' || mark == '|')
  | _ => false

/-- The segments without the last one. A drive is not left. -/
def parent (segments : List String) : List String :=
  if segments.getLast?.any (isDrive ·.toList) then segments else segments.dropLast

def beginsWithDrive (segments : List String) : Bool :=
  segments.head?.any (isDrive ·.toList)

/-- A piece of text as the segment after others. A drive at the beginning of the path of a file
is written with a colon. -/
def segment (file : Bool) (done : List String) (piece : List Char) : String :=
  match piece with
  | [letter, mark] =>
      if file ∧ done.isEmpty ∧ isDrive [letter, mark] then String.ofList [letter, ':']
      else String.ofList (encode pathSet [letter, mark])
  | piece => String.ofList (encode pathSet piece)

/-- The segments after some pieces of text, dot segments resolved. A dot segment at the end
leaves an empty segment. -/
def resolve (file : Bool) : List String → List (List Char) → List String
  | done, [] => done
  | done, piece :: pieces =>
      let last (segments : List String) := if pieces.isEmpty then segments ++ [""] else segments
      if isAbove piece then resolve file (last (parent done)) pieces
      else if isHere piece then resolve file (last done) pieces
      else resolve file (done ++ [segment file done piece]) pieces

def isSlash (special : Bool) (c : Char) : Bool :=
  c == '/' || (special && c == '\\')

def pieces (special : Bool) (cs : List Char) : List (List Char) :=
  Text.splitOn (isSlash special) cs

def afterHost (special : Bool) (cs : List Char) : Path :=
  match cs with
  | [] => segments (if special then [""] else [])
  | c :: rest =>
      segments (resolve false [] (pieces special (if isSlash special c then rest else c :: rest)))

end Path

end NameScout.Url
