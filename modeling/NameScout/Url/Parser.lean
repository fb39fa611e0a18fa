import NameScout.Url.Basic

namespace NameScout.Url

/-- The text without controls and spaces at its ends and without tabs and line breaks. -/
def cleaned (cs : List Char) : List Char :=
  let edge (c : Char) := c.toNat ≤ 0x20
  (((cs.dropWhile edge).reverse.dropWhile edge).reverse).filter
    fun c => c != '\t' && c != '\n' && c != '\r'

def isSchemeChar (c : Char) : Bool :=
  c.isAlphanum || c == '+' || c == '-' || c == '.'

def splitScheme? (cs : List Char) : Option (String × List Char) :=
  match cs, cs.span isSchemeChar with
  | c :: _, (scheme, ':' :: rest) =>
      if c.isAlpha then some (String.ofList (scheme.map Char.toLower), rest) else none
  | _, _ => none

structure Parts where
  body : List Char
  query : Option (List Char)
  fragment : Option (List Char)

def Parts.of (cs : List Char) : Parts :=
  let (before, fragment) := match Text.splitFirst? (· == '#') cs with
    | some (before, after) => (before, some after)
    | none => (cs, none)
  match Text.splitFirst? (· == '?') before with
  | some (body, query) => ⟨body, some query, fragment⟩
  | none => ⟨before, none, fragment⟩

def Parts.isWhole (p : Parts) : Bool :=
  p.query.isNone && p.fragment.isNone

def Parts.queryText (p : Parts) (special : Bool) : Option String :=
  p.query.map fun cs =>
    String.ofList (encode (if special then specialQuerySet else querySet) cs)

def Parts.fragmentText (p : Parts) : Option String :=
  p.fragment.map fun cs => String.ofList (encode fragmentSet cs)

def splitUser? (cs : List Char) : Option (List Char × List Char) :=
  (Text.splitFirst? (· == '@') cs.reverse).map fun (after, before) =>
    (before.reverse, after.reverse)

/-- The text of a host and what follows it: a colon outside of brackets ends it. -/
def splitHost (inside : Bool) : List Char → List Char × List Char
  | [] => ([], [])
  | c :: cs =>
      if c = ':' ∧ inside = false then ([], c :: cs)
      else
        let (host, rest) := splitHost (c == '[' || (inside && c != ']')) cs
        (c :: host, rest)

/-- A port number, unless it is the usual one of the scheme, and what follows it. A backslash
ends it, as it would end a host. -/
def readPort (scheme : String) (cs : List Char) :
    Except Fault (Option UInt16 × List Char) :=
  let (ds, rest) := cs.span Char.isDigit
  let n := (digitsIn? 10 ds).getD 0
  if 65535 < n then .error .invalidPort
  else match rest with
    | [] | '\\' :: _ =>
        let port := if ds.isEmpty then none else some (UInt16.ofNat n)
        .ok (if port = defaultPort? scheme then none else port, rest)
    | _ => .error .invalidPort

def userAndPassword (cs : List Char) : String × Option String :=
  let text (cs : List Char) := String.ofList (encode userSet cs)
  match Text.splitFirst? (· == ':') cs with
  | none => (text cs, none)
  | some (user, []) => (text user, none)
  | some (user, password) => (text user, some (text password))

def readAuthority (scheme : String) (last : Bool) (cs : List Char) :
    Except Fault (Authority × List Char) := do
  let special := isSpecial scheme
  let ((user, password), rest) := match splitUser? cs with
    | none => (("", none), cs)
    | some (info, rest) => (userAndPassword info, rest)
  if rest.isEmpty ∧ (special ∨ user ≠ "" ∨ password.isSome) then throw .emptyHost
  if cs = ['@'] ∧ !last then throw .emptyHost
  let (hostText, rest) := splitHost false rest
  let host ← Host.parse special hostText
  match rest with
  | [] =>
      if host = .name "" ∧ (user ≠ "" ∨ password.isSome) then throw .emptyHost
      return ({ user, password, host, port := none }, [])
  | _ :: portText =>
      if host = .name "" then throw .emptyHost
      let (port, rest) ← readPort scheme portText
      return ({ user, password, host, port }, rest)

def readHierarchy (scheme : String) (whole : Bool) (cs : List Char) :
    Except Fault (Authority × Path) := do
  let (text, path) := cs.span fun c => !Path.isSlash (isSpecial scheme) c
  let (authority, rest) ← readAuthority scheme (whole && path.isEmpty) text
  return (authority, .afterHost (isSpecial scheme) (rest ++ path))

def fileSegments (cs : List Char) : List String :=
  Path.resolve true [] (Path.pieces true cs)

/-- The path of a file: empty segments at its beginning are dropped. -/
def filePath (segments : List String) : Path :=
  let kept := segments.dropWhile (· = "")
  .segments (if kept.isEmpty then [""] else kept)

def localFile (cs : List Char) : Authority × Path :=
  (.ofHost (.name ""), filePath (fileSegments cs))

/-- The host and the path of a file. A drive is not taken for a host, and a path that begins
with one has no host. -/
def readFile (cs : List Char) : Except Fault (Authority × Path) := do
  match cs.span (Path.isSlash true) with
  | ([], rest) => return localFile rest
  | ([_], rest) => return localFile rest
  | (_ :: _ :: more, rest) =>
      let (hostText, path) := (more ++ rest).span fun c => !Path.isSlash true c
      if Path.isDrive hostText then return localFile (more ++ rest)
      if hostText.isEmpty then return localFile path
      let host ← Host.parse true hostText
      if host = .name "localhost" then return localFile path
      let segments := fileSegments (path.drop 1)
      let authority := Authority.ofHost (if Path.beginsWithDrive segments then .name "" else host)
      return (authority, filePath segments)

def readAbsolute (scheme : String) (p : Parts) : Except Fault Url := do
  let special := isSpecial scheme
  let (authority, path) ←
    if scheme = "file" then
      let (authority, path) ← readFile p.body
      pure (some authority, path)
    else if special then
      let (authority, path) ← readHierarchy scheme p.isWhole (p.body.dropWhile (Path.isSlash true))
      pure (some authority, path)
    else match p.body with
      | '/' :: '/' :: rest =>
          let (authority, path) ← readHierarchy scheme p.isWhole rest
          pure (some authority, path)
      | '/' :: rest => pure (none, Path.afterHost false ('/' :: rest))
      | body => pure (none, .flat (String.ofList (encode controls body)))
  return { scheme, authority, path, query := p.queryText special, fragment := p.fragmentText }

def readRelative (base : Url) (p : Parts) : Except Fault Url := do
  let special := isSpecial base.scheme
  let there (path : Path) : Url :=
    { base with path, query := p.queryText special, fragment := p.fragmentText }
  let folder := match base.path with
    | .segments list => list.dropLast
    | .flat _ => []
  match p.body.span (Path.isSlash special) with
  | ([], []) =>
      return { base with
        query := if p.query.isSome then p.queryText special else base.query
        fragment := p.fragmentText }
  | ([], body) => return there (.segments (Path.resolve false folder (Path.pieces special body)))
  | ([_], body) => return there (.afterHost special ('/' :: body))
  | (a :: b :: slashes, body) =>
      let after := if a = '/' ∧ b = '/' then slashes ++ body else body
      let (authority, path) ← readHierarchy base.scheme p.isWhole after
      return { there path with authority := some authority }

def parse (text : String) : Except Fault Url :=
  let cs := cleaned text.toList
  match splitScheme? cs with
  | none => .error .noBase
  | some (scheme, rest) => readAbsolute scheme (.of rest)

def join (base : Url) (text : String) : Except Fault Url :=
  let cs := cleaned text.toList
  match splitScheme? cs with
  | some (scheme, rest) =>
      let near := ((Parts.of rest).body.takeWhile (Path.isSlash true)).length < 2
      if near ∧ isSpecial scheme ∧ scheme = base.scheme then readRelative base (.of rest)
      else readAbsolute scheme (.of rest)
  | none => match base.path, cs with
      | .flat _, '#' :: _ => readRelative base (.of cs)
      | .flat _, _ => .error .flatBase
      | _, _ => readRelative base (.of cs)

end NameScout.Url
