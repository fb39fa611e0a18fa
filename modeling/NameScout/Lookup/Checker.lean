import NameScout.Checker.Panel
import NameScout.Lookup.Basic

namespace NameScout.Lookup

variable {σ : Type} [Store σ] [Clock σ] [Http.Network σ]

def checker (l : Lookup) : Checker σ :=
  { checkType := l.checkType
    supportsName := l.checkType.supports
    check := fun name => .ofEffect (l.check name) }

structure Options where
  limiter : Option Limiter
  cache : Option TtlSettings
  githubToken : Option String

def Options.apply (o : Options) (l : Lookup) : Lookup :=
  { l with
    limiter := o.limiter
    cache := o.cache
    token := if l.checkType = .github then (l.withToken (o.githubToken.getD "")).token else none }

def defaults (o : Options) : Except Failure (List Lookup) :=
  CheckType.looked.mapM fun t => (ofDefault t).map o.apply

def registerDefaults (o : Options) (p : Panel σ) : Except Failure (Panel σ) :=
  (defaults o).map fun lookups => lookups.foldl (fun p l => p.register l.checker) p

end NameScout.Lookup
