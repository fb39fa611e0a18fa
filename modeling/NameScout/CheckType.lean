import NameScout.Text.Key

namespace NameScout

inductive CheckType where
  | domain
  | npm
  | pypi
  | cargo
  | gem
  | github
  | gitlab
  | twitter
  | reddit
  deriving DecidableEq, Repr

namespace CheckType

def all : List CheckType :=
  [domain, npm, pypi, cargo, gem, github, gitlab, twitter, reddit]

def label : CheckType → String
  | domain => "domain"
  | npm => "npm"
  | pypi => "pypi"
  | cargo => "cargo"
  | gem => "gem"
  | github => "github"
  | gitlab => "gitlab"
  | twitter => "twitter"
  | reddit => "reddit"

def title : CheckType → String
  | domain => "Domain"
  | npm => "Npm"
  | pypi => "Pypi"
  | cargo => "Cargo"
  | gem => "Gem"
  | github => "Github"
  | gitlab => "Gitlab"
  | twitter => "Twitter"
  | reddit => "Reddit"

def rank : CheckType → Nat
  | domain => 0
  | npm => 1
  | pypi => 2
  | cargo => 3
  | gem => 4
  | github => 5
  | gitlab => 6
  | twitter => 7
  | reddit => 8

def ofLabel? (s : String) : Option CheckType :=
  all.find? (·.label == s)

theorem ofLabel?_label (t : CheckType) : ofLabel? t.label = some t := by
  cases t <;> decide

def sort (types : List CheckType) : List CheckType :=
  types.mergeSort (fun a b => a.rank ≤ b.rank)

/-- The registry and handle keys a profile may name. Domains come from the list of
top-level domains, so they have no key. -/
def keyTable : List (String × CheckType) :=
  [("npm", npm), ("pypi", pypi), ("cargo", cargo), ("crates", cargo), ("crates.io", cargo),
    ("gem", gem), ("rubygems", gem), ("github", github), ("gitlab", gitlab),
    ("twitter", twitter), ("x", twitter), ("reddit", reddit)]

def ofKey? (key : String) : Option CheckType :=
  (keyTable.find? (·.1 == Text.normalizeKey key)).map (·.2)

/-- The top-level domain as part of a cache key: normalized for domains, empty otherwise. -/
def normalizeTld (t : CheckType) (tld : Option String) : String :=
  match t, tld with
  | domain, some tld => Text.normalizeKey tld
  | _, _ => ""

end CheckType

end NameScout
