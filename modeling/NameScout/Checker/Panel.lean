import NameScout.Checker.Basic
import NameScout.Store.Table

namespace NameScout

/-- The checkers at hand, at most one for each type. -/
structure Panel (σ : Type) where
  checkers : Table CheckType (Checker σ)

namespace Panel

variable {σ : Type}

def empty : Panel σ := ⟨∅⟩

def get? (p : Panel σ) (t : CheckType) : Option (Checker σ) :=
  p.checkers.get? t

def has (p : Panel σ) (t : CheckType) : Bool :=
  (p.get? t).isSome

def register (p : Panel σ) (c : Checker σ) : Panel σ :=
  ⟨p.checkers.insert c.checkType c⟩

def unregister (p : Panel σ) (t : CheckType) : Panel σ :=
  ⟨p.checkers.erase t⟩

def types (p : Panel σ) : List CheckType :=
  CheckType.sort p.checkers.keys

theorem get?_register (p : Panel σ) (c : Checker σ) (t : CheckType) :
    (p.register c).get? t = if t = c.checkType then some c else p.get? t :=
  Table.get?_insert ..

end Panel

end NameScout
