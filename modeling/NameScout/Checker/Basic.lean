import NameScout.CheckResult
import NameScout.Effect

namespace NameScout

inductive Halt where
  | failed (failure : Failure)
  | crashed (text : String)
  deriving DecidableEq, Repr

/-- A check: it changes a state, and answers or halts. -/
abbrev Probe (σ : Type) := ExceptT Halt (StateM σ)

namespace Probe

variable {σ α : Type}

def ofEffect (e : Effect σ α) : Probe σ α :=
  ExceptT.mk do
    match ← e.run with
    | .ok a => return .ok a
    | .error failure => return .error (.failed failure)

def attempt (p : Probe σ α) : Probe σ (Except Failure α) :=
  ExceptT.mk do
    match ← p.run with
    | .ok a => return .ok (.ok a)
    | .error (.failed failure) => return .ok (.error failure)
    | .error (.crashed text) => return .error (.crashed text)

end Probe

structure Checker (σ : Type) where
  checkType : CheckType
  supportsName : String → Bool
  check : String → Probe σ CheckResult

end NameScout
