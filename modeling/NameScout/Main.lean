import NameScout.CommandLine.Run
import Std.Time.DateTime.Timestamp

/-!
The program. It reads the variables, the clock and the files of the store, runs, and writes
the files that have changed.
-/

namespace NameScout.Main

def environment : IO (List (String × String)) :=
  CommandLine.variableNames.filterMapM fun name => do
    return (← IO.getEnv name).map fun value => (name, value)

def clock : IO Instant := do
  let time ← Std.Time.Timestamp.now
  return (Instant.ofTicks? time.toNanosecondsSinceUnixEpoch.val).getD .max

def node? (path : String) : IO (Option Node) := do
  try
    return some (.file (← IO.FS.readBinFile path))
  catch
    | .inappropriateType .. => return some .directory
    | _ => return none

def ancestors (path : String) : List String :=
  let start := if path.startsWith "/" then "/" else ""
  let steps := Path.steps path
  (List.range steps.length).map fun n => start ++ "/".intercalate (steps.take (n + 1))

def loadPath (d : Disk) (path : String) : IO Disk := do
  match d.locate path, ← node? path with
  | .ok place, some node => return d.put place node
  | _, _ => return d

def filesOf (path : String) : List String :=
  [FileStore.temporary path, FileStore.backup path, path]

def storePath? (env : List (String × String)) : Option String :=
  env.lookup "NAMECHECK_STORE_PATH"

def loadDisk (env : List (String × String)) : IO Disk :=
  match storePath? env with
  | none => return .empty
  | some path => (ancestors path ++ filesOf path).foldlM loadPath .empty

def savePath (before after : Disk) (path : String) : IO Unit := do
  let content (d : Disk) := (d.read path).toOption
  match content before, content after with
  | some _, none => IO.FS.removeFile path
  | old, some new =>
      if old.map (·.data) ≠ some new.data then
        match Path.parent? path with
        | some dir => if dir ≠ "" then IO.FS.createDirAll dir
        | none => pure ()
        IO.FS.writeBinFile path new
  | none, none => return ()

def saveDisk (env : List (String × String)) (before after : Disk) : IO Unit :=
  match storePath? env with
  | none => return ()
  | some path => (filesOf path).forM (savePath before after)

def report (a : CommandLine.Answer) : IO Unit := do
  IO.print a.output
  match a.complaint with
  | some complaint => IO.eprintln complaint
  | none => pure ()
  match a.failure with
  | some failure => IO.eprintln ("ERROR " ++ failure.message)
  | none => pure ()

def run (args : List String) : IO UInt32 := do
  let env ← environment
  let before ← loadDisk env
  let world := World.new (← clock) before
  let (a, after) := (CommandLine.run args fun name => env.lookup name).run world
  saveDisk env before after.disk
  report a
  return a.exit.code

end NameScout.Main

def main (args : List String) : IO UInt32 :=
  NameScout.Main.run args
