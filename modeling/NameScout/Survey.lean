import NameScout.Checker.Panel
import NameScout.Profile
import NameScout.Time.Clock

namespace NameScout

structure Target where
  /-- The name that the checker is given; with the top-level domain for a domain. -/
  name : String
  checkType : CheckType
  tld : Option String
  deriving DecidableEq, Repr

namespace Target

def ofTld? (name tld : String) : Option Target :=
  let tld := Text.normalizeKey tld
  if tld = "" then none
  else some { name := name ++ "." ++ tld, checkType := .domain, tld := some tld }

def ofKey? (name key : String) : Option Target :=
  (CheckType.ofKey? key).map fun t => { name, checkType := t, tld := none }

/-- The targets of a profile: domains, then registries, then handles, in its order. Blank
entries and keys that stand for nothing are left out. -/
def plan (name : String) (p : Profile) : List Target :=
  p.tlds.filterMap (ofTld? name) ++ (p.registries ++ p.handles).filterMap (ofKey? name)

end Target

/-- Checking one name against a profile. A strict survey reports targets that cannot be
checked and stops at the first failure; a lenient one leaves such targets out and reports
failures as answers. -/
structure Survey (σ : Type) where
  panel : Panel σ
  strict : Bool

namespace Survey

variable {σ : Type}

def usable? (s : Survey σ) (t : Target) : Option (Checker σ) :=
  (s.panel.get? t.checkType).filter (·.supportsName t.name)

def source : String := "orchestrator"

def synthetic (t : Target) (outcome : Availability) (message : String)
    (requestedAt resolvedAt : Instant) : CheckResult :=
  { name := t.name
    checkType := t.checkType
    tld := t.tld
    available := outcome
    statusCode := none
    message
    extraData := []
    provenance :=
      { Provenance.empty with
        requestedAt := some requestedAt, resolvedAt := some resolvedAt, source } }

def unsupportedMessage (s : Survey σ) (t : Target) : String :=
  if s.panel.has t.checkType then s!"{t.checkType.label} checker does not support this name"
  else s!"no {t.checkType.label} checker configured"

/-- A checker's answer with the times it left out, and under the target's own top-level
domain. -/
def completed (t : Target) (r : CheckResult) (requestedAt resolvedAt : Instant) : CheckResult :=
  { r with
    tld := if t.checkType = .domain then t.tld else r.tld
    provenance :=
      { r.provenance with
        requestedAt := some (r.provenance.requestedAt.getD requestedAt)
        resolvedAt := some (r.provenance.resolvedAt.getD resolvedAt) } }

variable [Clock σ]

def now : Probe σ Instant := do
  return Clock.now (← get)

def call (s : Survey σ) (t : Target) (c : Checker σ) : Probe σ CheckResult := do
  let requestedAt ← now
  match ← (c.check t.name).attempt with
  | .ok r => return completed t r requestedAt (← now)
  | .error failure =>
      if s.strict then throw (.failed failure)
      else return synthetic t .error failure.message requestedAt (← now)

def visit (s : Survey σ) (t : Target) : Probe σ (Option CheckResult) := do
  match s.usable? t with
  | some c => return some (← s.call t c)
  | none =>
      if s.strict then
        let time ← now
        return some (synthetic t .unsupported (s.unsupportedMessage t) time time)
      else return none

def visitAll (s : Survey σ) : List Target → Probe σ (List CheckResult)
  | [] => return []
  | t :: ts => do
      let first ← s.visit t
      let rest ← s.visitAll ts
      return first.toList ++ rest

def check (s : Survey σ) (name : String) (p : Profile) : Probe σ (List CheckResult) :=
  let trimmed := Text.trim name
  if trimmed = "" then throw (.failed (.config .blankName))
  else if p.isEmpty then throw (.failed (.config (.nothingToCheck p.name)))
  else s.visitAll (Target.plan trimmed p)

end Survey

end NameScout
