import NameScout.Store.File

namespace NameScout.Sharing

inductive Job where
  | change (change : Tables → Tables)
  | flush

inductive Activity where
  | beginning (job : Job)
  | waiting
  /-- It is the task's turn, and these steps of saving are left. -/
  | saving (left : List FileStore.SaveStep)
  | ended (outcome : Except Failure Unit)
  | dropped

namespace Activity

def isOver : Activity → Bool
  | ended _ | dropped => true
  | _ => false

def isSaving : Activity → Bool
  | saving _ => true
  | _ => false

end Activity

structure State where
  disk : Disk
  store : FileStore
  tasks : List Activity

inductive Event where
  | submit (job : Job)
  /-- A task changes the tables, or sees whether there is anything to flush. -/
  | begin (task : Nat)
  /-- It becomes a task's turn, and the tables are written out as they are now. -/
  | turn (task : Nat)
  /-- A task takes the next step of saving, or is through with it. -/
  | save (task : Nat) (mishap : Option Disk.Mishap)
  /-- A task is given up between two of its steps. A step that it has begun is over by then. -/
  | drop (task : Nat)

namespace State

def start (disk : Disk) (store : FileStore) : State :=
  { disk, store, tasks := [] }

def become (s : State) (task : Nat) (a : Activity) : State :=
  { s with tasks := s.tasks.set task a }

def isIdle (s : State) : Bool :=
  s.tasks.all (·.isOver)

def turnIsFree (s : State) : Bool :=
  s.tasks.all (!·.isSaving)

def begin? (s : State) (task : Nat) : Option State :=
  match s.tasks[task]? with
  | some (.beginning (.change f)) =>
      some ({ s with store := { s.store with tables := f s.store.tables, dirty := true } }.become
        task .waiting)
  | some (.beginning .flush) =>
      some (s.become task (if s.store.dirty then .waiting else .ended (.ok ())))
  | _ => none

def turn? (s : State) (task : Nat) : Option State :=
  match s.tasks[task]? with
  | some .waiting =>
      if s.turnIsFree then
        some (s.become task
          (.saving (FileStore.saveSteps s.store.path (FileStore.content s.store.tables))))
      else none
  | _ => none

def save? (s : State) (task : Nat) (mishap : Option Disk.Mishap) : Option State :=
  match s.tasks[task]? with
  | some (.saving []) =>
      some ({ s with store := { s.store with dirty := false } }.become task (.ended (.ok ())))
  | some (.saving (step :: left)) => match step.run s.disk mishap with
      | (.ok (), disk) => some ({ s with disk }.become task (.saving left))
      | (.error e, disk) => some ({ s with disk }.become task (.ended (.error e)))
  | _ => none

def drop? (s : State) (task : Nat) : Option State :=
  match s.tasks[task]? with
  | some a => if a.isOver then none else some (s.become task .dropped)
  | none => none

def step? (s : State) : Event → Option State
  | .submit job => some { s with tasks := s.tasks ++ [.beginning job] }
  | .begin task => s.begin? task
  | .turn task => s.turn? task
  | .save task mishap => s.save? task mishap
  | .drop task => s.drop? task

def run? (s : State) (events : List Event) : Option State :=
  events.foldlM step? s

end State

end NameScout.Sharing
