import NameScout.Checker.Scripted
import NameScout.Http.Network
import NameScout.Settings
import NameScout.Store.File
import NameScout.Time.Clock

namespace NameScout

inductive Backend where
  | memory (tables : Tables)
  | file (store : FileStore)

namespace Backend

def mount (settings : StoreSettings) (d : Disk) : Except Failure Backend × Disk :=
  match settings with
  | .memory => (.ok (.memory .empty), d)
  | .file path => match settings.check with
      | .error e => (.error e, d)
      | .ok () =>
          let (opened, d) := FileStore.load d path
          (opened.map .file, d)

end Backend

/-- All that checks read and change: the clock, the filesystem and the store on it, the
network, and the scripted checks that were begun. -/
structure World where
  clock : Instant
  disk : Disk
  backend : Backend
  wire : Http.Wire
  calls : List (CheckType × String)

namespace World

def new (clock : Instant) (disk : Disk) : World :=
  { clock, disk, backend := .memory .empty, wire := .unreachable, calls := [] }

instance : Clock World where
  now w := w.clock

instance : Http.Network World where
  send r := modifyGet fun w =>
    let (reply, wire) := w.wire.answer r
    (reply, { w with wire })

def onStore {α : Type} (e : (σ : Type) → [Store σ] → Effect σ α) : Effect World α :=
  ExceptT.mk fun w => match w.backend with
    | .memory tables =>
        let (outcome, tables) := (e Tables).run tables
        (outcome, { w with backend := .memory tables })
    | .file store =>
        let (outcome, m) := (e Mounted).run ⟨w.disk, store⟩
        (outcome, { w with disk := m.disk, backend := .file m.store })

instance : Store World where
  row? endpoint := onStore fun _ => Store.row? endpoint
  putRow endpoint row := onStore fun _ => Store.putRow endpoint row
  listRows start := onStore fun _ => Store.listRows start
  eraseRow endpoint := onStore fun _ => Store.eraseRow endpoint
  eraseRows start := onStore fun _ => Store.eraseRows start
  live? key now := onStore fun _ => Store.live? key now
  putEntry e := onStore fun _ => Store.putEntry e
  purge now := onStore fun _ => Store.purge now
  flush := onStore fun _ => Store.flush

instance : Stage World where
  enter t name w := { w with calls := w.calls ++ [(t, name)] }
  wait _ w := w
  advance? d w := (w.clock.add? d).map fun clock => { w with clock }
  leave w := w

def openStore (settings : StoreSettings) : Effect World Unit :=
  ExceptT.mk fun w =>
    let (opened, disk) := Backend.mount settings w.disk
    match opened with
    | .ok backend => (.ok (), { w with disk, backend })
    | .error e => (.error e, { w with disk })

end World

end NameScout
