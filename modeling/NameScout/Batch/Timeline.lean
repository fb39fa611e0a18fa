import NameScout.Batch.Rehearsal
import NameScout.Batch.System

namespace NameScout.Batch

/-- A batch over scripted checkers, to be played in virtual time. -/
structure Scene where
  survey : Survey Rehearsal
  profile : Profile
  names : List String
  concurrency : Nat
  start : Instant
  /-- When the caller cancels the batch, in milliseconds. -/
  cancelAt : Option Nat

/-- A batch in play: its state, the clock that all checks share, and the trials that the
workers are in. -/
structure Play where
  state : State
  clock : Instant
  trials : List (Option Trial)
  calls : List (CheckType × String)
  most : Nat

inductive Awaited where
  | cancel
  | wake (worker : Nat)

namespace Play

/-- A batch that the caller cancels at once is cancelled before anything else happens. -/
def start (scene : Scene) : Play :=
  let state := State.start scene.concurrency scene.names
  let state := if scene.cancelAt = some 0 then (state.step? scene.names .cancel).getD state else state
  { state, clock := scene.start, trials := state.workers.map fun _ => none, calls := []
    most := 0 }

def trial? (p : Play) (w : Nat) : Option Trial :=
  (p.trials[w]?).join

def withTrial (p : Play) (w : Nat) (t : Option Trial) : Play :=
  { p with trials := p.trials.set w t }

def running (p : Play) : Nat :=
  p.trials.countP fun t => t.any (·.asleep.isSome)

def goOn (p : Play) (w : Nat) (known : List (CheckType × String)) (t : Trial) : Play :=
  let others := (p.withTrial w none).running
  { p.withTrial w (some t) with
    clock := t.clock
    calls := p.calls ++ t.calls.drop known.length
    most := if t.calls.isEmpty then p.most else max p.most (others + 1) }

def event? (scene : Scene) (p : Play) (e : Event) : Option Play :=
  (p.state.step? scene.names e).map fun state => { p with state }

def workerStep? (scene : Scene) (p : Play) (w : Nat) : Option Play :=
  match p.state.activity? w with
  | some .waiting => p.event? scene (.approach w)
  | some .receiving =>
      if p.state.cancelled then p.event? scene (.leave w)
      else match p.state.queue with
        | place :: _ =>
            let name := scene.names[place]?.getD ""
            (p.event? scene (.take w)).map fun p =>
              p.goOn w [] (.play scene.survey scene.profile name p.clock [])
        | [] => p.event? scene (.take w)
  | some (.checking _) =>
      if p.state.cancelled then (p.event? scene (.leave w)).map (·.withTrial w none)
      else match p.trial? w with
        | none => none
        | some t =>
            if t.asleep.isSome then none
            else (p.event? scene (.finish w t.outcome t.clock)).map (·.withTrial w none)
  | _ => none

def agenda (scene : Scene) (p : Play) : List (Instant × Awaited) :=
  let cancel := scene.cancelAt.map fun n =>
    (scene.start.addOrMax (Rehearsal.milliseconds n), Awaited.cancel)
  let wakes := (List.range p.trials.length).filterMap fun w =>
    (p.trial? w).bind fun t => t.asleep.map fun time => (time, Awaited.wake w)
  (if p.state.callerCancelled then [] else cancel.toList) ++ wakes

def earliest? : List (Instant × Awaited) → Option (Instant × Awaited)
  | [] => none
  | a :: rest => match earliest? rest with
      | some b => some (if b.1 < a.1 then b else a)
      | none => some a

def await? (scene : Scene) (p : Play) : Option Play := do
  let (time, awaited) ← earliest? (p.agenda scene)
  let p := if p.clock < time then { p with clock := time } else p
  match awaited with
  | .cancel => p.event? scene .cancel
  | .wake w =>
      let t ← p.trial? w
      return p.goOn w t.calls (t.wake scene.survey scene.profile p.clock)

/-- The next step: the feeder goes on, then the first worker that can, then the workers that
are over are waited for; after that time passes. -/
def step? (scene : Scene) (p : Play) : Option Play :=
  if p.state.isFinished then none
  else
    let feed := if p.state.cancelled then p.event? scene .stopFeeding else p.event? scene .feed
    let work := (List.range p.state.workers.length).findSome? (p.workerStep? scene)
    feed <|> work <|> p.event? scene .join <|> p.await? scene

def run (scene : Scene) : Nat → Play → Play
  | 0, p => p
  | fuel + 1, p => match p.step? scene with
      | none => p
      | some p => run scene fuel p

end Play

namespace Scene

/-- More steps than a play can take: each worker goes through a few for each name and the
waits of its checks. -/
def steps (scene : Scene) : Nat :=
  let checks := (Target.plan "" scene.profile).length + scene.profile.tlds.length
  (scene.names.length + 2) * (16 + 6 * checks) + 8 * workerCount scene.concurrency scene.names.length

def play (scene : Scene) : Play :=
  Play.run scene scene.steps (.start scene)

end Scene

end NameScout.Batch
