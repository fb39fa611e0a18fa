import NameScout.Failure

namespace NameScout

/-- A computation that changes a state and may stop with a failure. What it changed before
it stopped stays changed. -/
abbrev Effect (σ : Type) := ExceptT Failure (StateM σ)

namespace Effect

variable {σ α β : Type}

theorem run_bind (e : Effect σ α) (f : α → Effect σ β) (s : σ) :
    (e >>= f).run s = match e.run s with
      | (.ok a, s) => (f a).run s
      | (.error x, s) => (.error x, s) := by
  change (ExceptT.bindCont f (e.run s).1 : StateM σ _) (e.run s).2 = _
  rcases e.run s with ⟨_ | _, _⟩ <;> rfl

def getD (e : Effect σ α) (default : α) : Effect σ α :=
  ExceptT.mk do
    match ← e.run with
    | .ok a => return .ok a
    | .error _ => return .ok default

def ofExcept (e : Except Failure α) : Effect σ α :=
  ExceptT.mk (pure e)

end Effect

end NameScout
