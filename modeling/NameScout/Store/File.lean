import NameScout.Store.Basic
import NameScout.Store.Disk
import NameScout.Store.Snapshot

namespace NameScout

/-- A store kept in one file: the tables as they are in memory, and whether a change of
them may be missing from the file. -/
structure FileStore where
  path : String
  tables : Tables
  dirty : Bool
  deriving DecidableEq

namespace FileStore

def temporary (path : String) : String :=
  Path.withExtension path "tmp"

def backup (path : String) : String :=
  Path.withExtension path "backup"

def diskFailure {α : Type} (act : FileAct) (path : String) : Except DiskError α → Except Failure α
  | .ok a => .ok a
  | .error e => .error (.store (.disk act path e))

/-- What a state file holds: nothing if it is missing, `none` if it does not decode. -/
def readTables (d : Disk) (path : String) : Except Failure (Option Tables) :=
  if d.exists? path then
    (diskFailure .read path (d.readText path)).map Snapshot.parse?
  else .ok (some .empty)

/-- One step of saving: a change of the disk, and what its failure means. A tolerated
failure is passed over. -/
structure SaveStep where
  step : Disk.Step
  failure : Option (FileAct × String)

namespace SaveStep

def outcome (s : SaveStep) (e : DiskError) : Except Failure Unit :=
  match s.failure with
  | some (act, path) => .error (.store (.disk act path e))
  | none => .ok ()

/-- Whether nobody notices a mishap: a write is over for the one who asked for it when the last
part of the text has been handed over, and nothing asks what has become of that part. -/
def misses (s : SaveStep) (m : Disk.Mishap) : Bool :=
  match s.step with
  | .write .. => m.late
  | _ => false

def run (s : SaveStep) (d : Disk) (mishap : Option Disk.Mishap) : Except Failure Unit × Disk :=
  match mishap with
  | some m => (if s.misses m then .ok () else s.outcome m.error, d.spoil s.step m)
  | none => match d.perform s.step with
      | .ok d => (.ok (), d)
      | .error e => (s.outcome e, d)

end SaveStep

/-- The tables from the backup, put back in place of the file, or none at all. -/
def recover (d : Disk) (path : String) (mishap : Option Disk.Mishap) : Tables × Disk :=
  if d.exists? (backup path) then
    match readTables d (backup path) with
    | .ok (some tables) =>
        let putBack : SaveStep := ⟨.backUp (backup path) path, none⟩
        (tables, (putBack.run d mishap).2)
    | _ => (.empty, d)
  else (.empty, d)

def openTables (d : Disk) (path : String) (mishap : Option Disk.Mishap) :
    Except Failure Tables × Disk :=
  match readTables d path with
  | .error e => (.error e, d)
  | .ok (some tables) => (.ok tables, d)
  | .ok none =>
      let (tables, d) := recover d path mishap
      (.ok tables, d)

def prepareDirectory (d : Disk) (path : String) : Except Failure Disk :=
  match Path.parent? path with
  | none => .ok d
  | some dir =>
      if dir = "" ∨ d.exists? dir then .ok d
      else match d.makeDirectories (dir.length + 1) dir with
        | .ok d => .ok d
        | .error e => .error (.config (.directory dir e))

/-- Open the store at a path; putting a backup back may meet with a mishap. -/
def loadWith (d : Disk) (path : String) (mishap : Option Disk.Mishap) :
    Except Failure FileStore × Disk :=
  match prepareDirectory d path with
  | .error e => (.error e, d)
  | .ok d =>
      let (tables, d) := openTables d path mishap
      (tables.map fun tables => { path, tables, dirty := false }, d)

def load (d : Disk) (path : String) : Except Failure FileStore × Disk :=
  loadWith d path none

def saveSteps (path : String) (content : ByteArray) : List SaveStep :=
  let tmp := temporary path
  [⟨.create tmp, some (.create, tmp)⟩,
    ⟨.write tmp content, some (.write, tmp)⟩,
    ⟨.sync tmp, some (.sync, tmp)⟩,
    ⟨.backUp path (backup path), none⟩,
    ⟨.rename tmp path, some (.replace, tmp)⟩]

/-- Take steps in their order until one fails. The steps meet with the mishaps in order; those
after the last mishap meet with none. -/
def runSteps (d : Disk) : List SaveStep → List (Option Disk.Mishap) → Except Failure Unit × Disk
  | [], _ => (.ok (), d)
  | s :: rest, mishaps => match s.run d (mishaps.headD none) with
      | (.ok (), d) => runSteps d rest mishaps.tail
      | (.error e, d) => (.error e, d)

def content (t : Tables) : ByteArray :=
  (Snapshot.render t).toUTF8

end FileStore

structure Mounted where
  disk : Disk
  store : FileStore

namespace Mounted

def answer {α : Type} (f : Tables → α) : Effect Mounted α :=
  return f (← get).store.tables

section Mishaps

variable (mishaps : List (Option Disk.Mishap))

def save : Effect Mounted Unit :=
  ExceptT.mk fun m =>
    let steps := FileStore.saveSteps m.store.path (FileStore.content m.store.tables)
    match FileStore.runSteps m.disk steps mishaps with
    | (.ok (), disk) => (.ok (), ⟨disk, { m.store with dirty := false }⟩)
    | (.error e, disk) => (.error e, { m with disk })

/-- Change the tables, then save them. The change stays in memory when saving fails. -/
def change {α : Type} (c : Tables.Change α) : Effect Mounted α := do
  let a ← modifyGet fun m =>
    let (a, tables) := c m.store.tables
    (a, { m with store := { m.store with tables, dirty := true } })
  save mishaps
  return a

def flush : Effect Mounted Unit := do
  if (← get).store.dirty then save mishaps

abbrev storeWith : Store Mounted where
  row? endpoint := answer (·.row? endpoint)
  putRow endpoint row := change mishaps (Tables.Change.putRow endpoint row)
  listRows start := answer (·.listRows start)
  eraseRow endpoint := change mishaps (Tables.Change.eraseRow endpoint)
  eraseRows start := change mishaps (Tables.Change.eraseRows start)
  live? key now := answer (·.live? key now)
  putEntry e := change mishaps (Tables.Change.putEntry e)
  purge now := change mishaps (Tables.Change.purge now)
  flush := flush mishaps

end Mishaps

instance : Store Mounted := storeWith []

end Mounted

end NameScout
