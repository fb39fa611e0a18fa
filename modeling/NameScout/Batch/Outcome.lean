import NameScout.Failure
import NameScout.Report

namespace NameScout.Batch

/-- What a batch leaves behind: a place for each name, filled if its checks were completed,
and the failure that stopped the batch. -/
structure Outcome where
  results : List (Option Report)
  error : Option Failure
  deriving DecidableEq, Repr

namespace Outcome

def empty : Outcome :=
  { results := [], error := none }

def isComplete (o : Outcome) : Bool :=
  o.error.isNone && o.results.all Option.isSome

def completed (o : Outcome) : List Report :=
  o.results.filterMap id

/-- All results or none: a failure discards them. -/
def whole (o : Outcome) : Except Failure (List Report) :=
  match o.error with
  | some failure => .error failure
  | none => match o.results.mapM id with
      | some reports => .ok reports
      | none => .error .cancelled

end Outcome

end NameScout.Batch
