import NameScout.Text.Key

namespace NameScout

/-- What to check for one name: top-level domains, registries and handles, in this order. -/
structure Profile where
  name : String
  tlds : List String
  registries : List String
  handles : List String
  deriving DecidableEq, Repr

namespace Profile

def new (name : String) : Profile :=
  { name, tlds := [], registries := [], handles := [] }

def isEmpty (p : Profile) : Bool :=
  p.tlds.isEmpty && p.registries.isEmpty && p.handles.isEmpty

def standard : Profile :=
  { name := "default", tlds := ["com", "io", "dev"], registries := ["npm", "cargo"]
    handles := ["github"] }

def presets : List Profile :=
  [standard,
    { name := "dev", tlds := ["dev", "io"], registries := ["npm", "pypi", "cargo"]
      handles := ["github", "gitlab"] },
    { name := "startup", tlds := ["com", "io", "co", "ai", "app"], registries := ["npm"]
      handles := ["github", "twitter"] },
    { name := "minimal", tlds := ["com"], registries := [], handles := [] }]

def preset? (name : String) : Option Profile :=
  presets.find? (·.name == Text.normalizeKey name)

end Profile

end NameScout
