import NameScout.Batch.Outcome
import NameScout.Checker.Basic

namespace NameScout.Batch

inductive Feeder where
  | feeding (next : Nat)
  | closed
  deriving DecidableEq, Repr

inductive Activity where
  | waiting
  /-- At the head of the queue, where only one worker may be. -/
  | receiving
  | checking (place : Nat)
  | ended (error : Option Failure)
  | crashed (text : String)
  deriving DecidableEq, Repr

namespace Activity

def isOver : Activity → Bool
  | ended _ | crashed _ => true
  | _ => false

end Activity

/-- A worker and the reports it has made, which are handed over when it ends. -/
structure Worker where
  activity : Activity
  done : List (Nat × Report)
  deriving DecidableEq, Repr

def Worker.fresh : Worker :=
  { activity := .waiting, done := [] }

structure State where
  feeder : Feeder
  queue : List Nat
  workers : List Worker
  callerCancelled : Bool
  cancelled : Bool
  /-- Whether a failure has been chosen as the one that stops the batch. -/
  guarded : Bool
  joined : Nat
  results : List (Option Report)
  error : Option Failure
  deriving DecidableEq, Repr

inductive Event where
  | feed
  | stopFeeding
  | approach (worker : Nat)
  /-- A worker takes a name, or ends because none will come. -/
  | take (worker : Nat)
  /-- A worker ends, with what it was doing, because the batch is cancelled. -/
  | leave (worker : Nat)
  | finish (worker : Nat) (outcome : Except Halt (List CheckResult)) (time : Instant)
  | cancel
  | join

def workerCount (concurrency names : Nat) : Nat :=
  min (max concurrency 1) names

namespace State

def start (concurrency : Nat) (names : List String) : State :=
  { feeder := .feeding 0
    queue := []
    workers := List.replicate (workerCount concurrency names.length) .fresh
    callerCancelled := false
    cancelled := false
    guarded := false
    joined := 0
    results := names.map fun _ => none
    error := none }

def activity? (s : State) (w : Nat) : Option Activity :=
  (s.workers[w]?).map (·.activity)

def become (s : State) (w : Nat) (a : Activity) : State :=
  { s with workers := s.workers.modify w fun worker => { worker with activity := a } }

section Become

variable (s : State) (w : Nat) (a : Activity)

@[simp] theorem feeder_become : (s.become w a).feeder = s.feeder := rfl

@[simp] theorem queue_become : (s.become w a).queue = s.queue := rfl

@[simp] theorem callerCancelled_become : (s.become w a).callerCancelled = s.callerCancelled := rfl

@[simp] theorem cancelled_become : (s.become w a).cancelled = s.cancelled := rfl

@[simp] theorem guarded_become : (s.become w a).guarded = s.guarded := rfl

@[simp] theorem joined_become : (s.become w a).joined = s.joined := rfl

@[simp] theorem results_become : (s.become w a).results = s.results := rfl

@[simp] theorem error_become : (s.become w a).error = s.error := rfl

end Become

def headIsFree (s : State) : Bool :=
  s.workers.all (·.activity ≠ .receiving)

def allOver (s : State) : Bool :=
  s.workers.all (·.activity.isOver)

/-- The queue holds as many names as there are workers. -/
def hasRoom (s : State) : Bool :=
  s.queue.length < s.workers.length

def feed? (names : List String) (s : State) : Option State :=
  match s.feeder with
  | .closed => none
  | .feeding next =>
      if names.length ≤ next ∨ s.allOver then some { s with feeder := .closed }
      else if s.hasRoom then
        some { s with feeder := .feeding (next + 1), queue := s.queue ++ [next] }
      else none

def take? (s : State) (w : Nat) : Option State :=
  match s.activity? w, s.queue with
  | some .receiving, place :: queue => some ({ s with queue }.become w (.checking place))
  | some .receiving, [] =>
      if s.feeder = .closed then some (s.become w (.ended none)) else none
  | _, _ => none

def leave? (s : State) (w : Nat) : Option State :=
  match s.cancelled, s.activity? w with
  | true, some .receiving | true, some (.checking _) => some (s.become w (.ended none))
  | _, _ => none

/-- The state after the checks of a name: a report is kept by the worker; the first failure
stops the batch and any later one only its worker; a breakdown ends the worker at once. -/
def afterChecks (names : List String) (s : State) (w place : Nat)
    (outcome : Except Halt (List CheckResult)) (time : Instant) : State :=
  match outcome with
  | .ok results =>
      let report := Report.ofResults (names[place]?.getD "") results time
      { s with workers := s.workers.modify w fun worker =>
          { activity := .waiting, done := worker.done ++ [(place, report)] } }
  | .error (.failed failure) =>
      if s.guarded then s.become w (.ended none)
      else { s with guarded := true, cancelled := true }.become w (.ended (some failure))
  | .error (.crashed text) => s.become w (.crashed text)

def finish? (names : List String) (s : State) (w : Nat)
    (outcome : Except Halt (List CheckResult)) (time : Instant) : Option State :=
  match s.activity? w with
  | some (.checking place) => some (s.afterChecks names w place outcome time)
  | _ => none

def handOver (results : List (Option Report)) (done : List (Nat × Report)) :
    List (Option Report) :=
  done.foldl (fun results (place, report) => results.set place (some report)) results

/-- The reports of a worker that broke down are lost. -/
def join? (s : State) : Option State :=
  match s.workers[s.joined]? with
  | some { activity := .ended error, done } =>
      some { s with
        joined := s.joined + 1
        results := handOver s.results done
        error := if error.isSome then error else s.error }
  | some { activity := .crashed text, .. } =>
      some { s with
        joined := s.joined + 1
        cancelled := true
        guarded := true
        error := if s.guarded then s.error else some (.other (.workerAborted text)) }
  | _ => none

def step? (names : List String) (s : State) : Event → Option State
  | .feed => s.feed? names
  | .stopFeeding => if s.cancelled ∧ s.feeder ≠ .closed then some { s with feeder := .closed } else none
  | .approach w =>
      if s.activity? w = some .waiting ∧ s.headIsFree then some (s.become w .receiving) else none
  | .take w => s.take? w
  | .leave w => s.leave? w
  | .finish w outcome time => s.finish? names w outcome time
  | .cancel =>
      if s.callerCancelled then none
      else some { s with callerCancelled := true, cancelled := true }
  | .join => s.join?

def run? (names : List String) (s : State) (events : List Event) : Option State :=
  events.foldlM (step? names) s

def isFinished (s : State) : Bool :=
  s.joined == s.workers.length && s.feeder = .closed

/-- What the batch returns. A name without a report and without a failure was cancelled. -/
def outcome (s : State) : Outcome :=
  { results := s.results
    error := if s.error.isNone ∧ s.results.any Option.isNone then some .cancelled else s.error }

end State

end NameScout.Batch
