import NameScout.Checker.Scripted
import NameScout.Survey

namespace NameScout.Batch

/-- The state of one name's checks while they are played as far as is known. Between two waits
nothing comes between; when a wait is over is not for the checks to say. -/
structure Rehearsal where
  clock : Instant
  /-- What the clock shows after the waits that come next and are known to be over. -/
  wakes : List Instant
  calls : List (CheckType × String)
  /-- The end of the first wait that is not known to be over. Nothing after it counts. -/
  asleep : Option Instant

namespace Rehearsal

instance : Clock Rehearsal where
  now r := r.clock

def milliseconds (n : Nat) : Duration :=
  ⟨n * 1000000⟩

def awake (f : Rehearsal → Rehearsal) (r : Rehearsal) : Rehearsal :=
  if r.asleep.isSome then r else f r

def advanced? (d : Duration) (r : Rehearsal) : Option Rehearsal :=
  if r.asleep.isSome then some r else (r.clock.add? d).map fun clock => { r with clock }

def waiting (n : Nat) (r : Rehearsal) : Rehearsal :=
  if n = 0 then r
  else match r.wakes with
    | clock :: wakes => { r with clock, wakes }
    | [] => { r with asleep := some (r.clock.addOrMax (milliseconds n)) }

instance : Stage Rehearsal where
  enter t name := awake fun r => { r with calls := r.calls ++ [(t, name)] }
  wait n := awake (waiting n)
  advance? := advanced?
  leave := id

end Rehearsal

structure Trial where
  name : String
  start : Instant
  wakes : List Instant
  calls : List (CheckType × String)
  clock : Instant
  asleep : Option Instant
  outcome : Except Halt (List CheckResult)

namespace Trial

def play (survey : Survey Rehearsal) (profile : Profile) (name : String) (start : Instant)
    (wakes : List Instant) : Trial :=
  let (outcome, r) :=
    (survey.check name profile).run { clock := start, wakes, calls := [], asleep := none }
  { name, start, wakes, calls := r.calls, clock := r.clock, asleep := r.asleep, outcome }

def wake (survey : Survey Rehearsal) (profile : Profile) (t : Trial) (clock : Instant) : Trial :=
  play survey profile t.name t.start (t.wakes ++ [clock])

end Trial

end NameScout.Batch
