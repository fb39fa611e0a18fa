import NameScout.Checker.Basic
import NameScout.NameRule
import NameScout.Store.Table
import NameScout.Time.Duration

namespace NameScout

/-- A state on which scripted checks are played. -/
class Stage (σ : Type) where
  enter : CheckType → String → σ → σ
  wait : Nat → σ → σ
  /-- The clock is moved on; `none` if it cannot show the time. -/
  advance? : Duration → σ → Option σ
  leave : σ → σ

inductive Ending where
  | crash (text : String)
  | fail (failure : Failure)
  | give (result : CheckResult)
  | answer (outcome : Availability)

structure Line where
  delay : Nat
  advance : Option Duration
  ending : Ending

structure Script where
  checkType : CheckType
  rejects : List String
  rules : Bool
  answers : Table String Line
  default : Line

namespace Script

def line (s : Script) (name : String) : Line :=
  (s.answers.get? name).getD s.default

def supports (s : Script) (name : String) : Bool :=
  !s.rejects.contains name && (!s.rules || s.checkType.supports name)

def ending (s : Script) (name : String) : Except Halt CheckResult :=
  match (s.line name).ending with
  | .crash text => .error (.crashed text)
  | .fail failure => .error (.failed failure)
  | .give result => .ok result
  | .answer outcome => .ok (.new name s.checkType outcome)

def overrun : String := "\x60DateTime + TimeDelta\x60 overflowed"

variable {σ : Type} [Stage σ]

def play (s : Script) (name : String) (state : σ) : Except Halt CheckResult × σ :=
  let l := s.line name
  let waited := Stage.wait l.delay (Stage.enter s.checkType name state)
  match l.advance with
  | none => (s.ending name, Stage.leave waited)
  | some d => match Stage.advance? d waited with
      | some moved => (s.ending name, Stage.leave moved)
      | none => (.error (.crashed overrun), Stage.leave waited)

def checker (s : Script) : Checker σ :=
  { checkType := s.checkType
    supportsName := s.supports
    check := fun name => ExceptT.mk (s.play name) }

end Script

end NameScout
