import NameScout.CheckType

namespace NameScout

def placeholder : String := "\x7bname\x7d"

namespace CheckType

def defaultTemplate? : CheckType → Option String
  | domain => some ("https://rdap.org/domain/" ++ placeholder)
  | npm => some ("https://registry.npmjs.org/" ++ placeholder)
  | pypi => some ("https://pypi.org/pypi/" ++ placeholder ++ "/json")
  | cargo => some ("https://crates.io/api/v1/crates/" ++ placeholder)
  | github => some ("https://api.github.com/users/" ++ placeholder)
  | _ => none

def looked : List CheckType :=
  [domain, npm, pypi, cargo, github]

theorem mem_looked_iff (t : CheckType) : t ∈ looked ↔ t.defaultTemplate?.isSome := by
  cases t <;> decide

def sourceName : CheckType → String
  | domain => "rdap"
  | cargo => "crates.io"
  | t => t.label

end CheckType

end NameScout
