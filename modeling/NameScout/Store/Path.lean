import NameScout.Text.Blank

namespace NameScout.Path

def stripEnd : List Char → List Char
  | '/' :: cs => stripEnd cs
  | '.' :: '/' :: cs => stripEnd ('/' :: cs)
  | cs => cs

def split (path : String) : List Char × List Char :=
  let back := stripEnd path.toList.reverse
  ((back.dropWhile (· != '/')).reverse, (back.takeWhile (· != '/')).reverse)

def parent? (path : String) : Option String :=
  let (before, last) := split path
  if last.isEmpty then none
  else
    let kept := (stripEnd before.reverse).reverse
    some (String.ofList (if kept.isEmpty then before.take 1 else kept))

/-- A file name without its extension; a dot at the beginning starts none. -/
def stem (name : List Char) : List Char :=
  match (name.reverse.dropWhile (· != '.')) with
  | _ :: c :: cs => (c :: cs).reverse
  | _ => name

def withExtension (path ext : String) : String :=
  let (before, last) := split path
  if last.isEmpty || last == ['.'] || last == ['.', '.'] then path
  else String.ofList (before ++ stem last ++ '.' :: ext.toList)

def steps (path : String) : List String :=
  (Text.splitOn (· == '/') path.toList).filterMap fun piece =>
    if piece.isEmpty || piece == ['.'] then none else some (String.ofList piece)

def endsInDot (path : String) : Bool :=
  match path.toList.reverse.dropWhile (· == '/') with
  | ['.'] | '.' :: '/' :: _ => true
  | _ => false

def wantsDirectory (path : String) : Bool :=
  endsInDot path || path.toList.getLast? == some '/'

end NameScout.Path
