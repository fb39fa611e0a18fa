import NameScout.Batch.OneByOne
import NameScout.CommandLine.Command
import NameScout.CommandLine.Configuration
import NameScout.Lookup.Checker
import NameScout.World

namespace NameScout.CommandLine

inductive Exit where
  | success
  | badSettings
  | failed
  deriving DecidableEq, Repr

def Exit.code : Exit → UInt32
  | success => 0
  | badSettings => 1
  | failed => 2

def Exit.ofFailure (failure : Failure) : Exit :=
  if failure.isConfig then .badSettings else .failed

/-- What a run writes, besides what it leaves in its store: its output, a complaint about
the way it was called, or the failure that it met. -/
structure Answer where
  exit : Exit
  output : String
  complaint : Option String
  failure : Option Failure
  deriving DecidableEq, Repr

namespace Answer

def success (output : String) : Answer :=
  { exit := .success, output, complaint := none, failure := none }

def refused (complaint : String) : Answer :=
  { exit := .badSettings, output := "", complaint := some complaint, failure := none }

def failed (failure : Failure) : Answer :=
  { exit := .ofFailure failure, output := "", complaint := none, failure := some failure }

end Answer

def removedText (n : Nat) : String :=
  Json.compact (.object [("removed", .int n)]) ++ "\n"

def lookupOptions (c : Configuration) (limiter : Limiter) : Lookup.Options :=
  { limiter := some limiter, cache := some c.settings.ttl, githubToken := c.githubToken }

def checkNames (c : Configuration) (names : List String) : Effect World String := do
  let limiter ← Effect.ofExcept c.settings.limits.limiter
  let panel ← Effect.ofExcept (Lookup.registerDefaults (lookupOptions c limiter) Panel.empty)
  let survey : Survey World := { panel, strict := c.settings.includeUnsupported }
  let outcome ← (Batch.oneByOne survey c.settings.profile names : StateM World _)
  (Store.flush : Effect World Unit).getD ()
  let reports ← Effect.ofExcept outcome.whole
  return Json.pretty (.array (reports.map Report.toJson)) ++ "\n"

def execute (c : Configuration) (command : Command) : Effect World String := do
  World.openStore c.settings.store
  match command with
  | .listLimits start =>
      let rows ← (RowAdmin.list start : Effect World _)
      return Json.pretty (.array (rows.map Row.toJson)) ++ "\n"
  | .resetLimits start =>
      let removed ← (RowAdmin.resetStart start : Effect World _)
      (Store.flush : Effect World Unit)
      return removedText removed
  | .purgeCache =>
      let removed ← (Cache.purge (Clock.now (← get)) : Effect World _)
      (Store.flush : Effect World Unit)
      return removedText removed
  | .check names => checkNames c names

def run (args : List String) (env : Environment) : StateM World Answer := do
  match Command.ofArgs? args with
  | none => return .refused Command.usage
  | some command => match env.configuration with
      | .error fault => return .refused ("Configuration error: " ++ fault.message)
      | .ok c => match c.check with
          | .error defect =>
              return .refused ("Configuration validation error: " ++ defect.message)
          | .ok () => match ← (execute c command).run with
              | .ok output => return .success output
              | .error failure => return .failed failure

end NameScout.CommandLine
