import NameScout.Proofs.Store.Keyed
import NameScout.Store.File

namespace NameScout

inductive Request where
  | row? (endpoint : String)
  | putRow (endpoint : String) (row : Row)
  | listRows (start : String)
  | eraseRow (endpoint : String)
  | eraseRows (start : String)
  | live? (key : CacheKey) (now : Instant)
  | putEntry (e : Entry)
  | purge (now : Instant)
  | flush

inductive Reply where
  | row (row : Option Row)
  | rows (rows : List Row)
  | entry (e : Option Entry)
  | erased (found : Bool)
  | count (n : Nat)
  | done
  deriving DecidableEq, Repr

namespace Request

section Perform

variable {σ : Type} [Store σ]

def perform : Request → Effect σ Reply
  | row? endpoint => return .row (← Store.row? endpoint)
  | putRow endpoint row => do
      Store.putRow endpoint row
      return .done
  | listRows start => return .rows (← Store.listRows start)
  | eraseRow endpoint => return .erased (← Store.eraseRow endpoint)
  | eraseRows start => return .count (← Store.eraseRows start)
  | live? key now => return .entry (← Store.live? key now)
  | putEntry e => do
      Store.putEntry e
      return .done
  | purge now => return .count (← Store.purge now)
  | flush => do
      Store.flush
      return .done

end Perform

def applied (r : Request) (t : Tables) : Tables :=
  ((perform r : Effect Tables Reply).run t).2

def isChange : Request → Bool
  | putRow .. | eraseRow _ | eraseRows _ | putEntry _ | purge _ => true
  | _ => false

def saves (r : Request) (dirty : Bool) : Bool :=
  match r with
  | flush => dirty
  | r => r.isChange

theorem applied_of_not_saves {r : Request} {dirty : Bool} (h : r.saves dirty = false)
    (t : Tables) : r.applied t = t := by
  cases r <;> first | rfl | cases h

theorem saves_of_isChange {r : Request} (h : r.isChange = true) (dirty : Bool) :
    r.saves dirty = true := by
  cases r <;> first | rfl | cases h

theorem keyed_applied (r : Request) {t : Tables} (h : t.Keyed) : (r.applied t).Keyed := by
  cases r with
  | putEntry e => exact h.putEntry e
  | purge now => exact h.purge now
  | _ => exact h

end Request

namespace Mounted

def request (r : Request) (mishaps : List (Option Disk.Mishap)) : Effect Mounted Reply :=
  @Request.perform Mounted (storeWith mishaps) r

def saved (m : Mounted) (t : Tables) (mishaps : List (Option Disk.Mishap)) :
    Except Failure Unit × Mounted :=
  let steps := FileStore.saveSteps m.store.path (FileStore.content t)
  let (outcome, disk) := FileStore.runSteps m.disk steps mishaps
  (outcome, ⟨disk, { path := m.store.path, tables := t, dirty := !outcome.isOk }⟩)

theorem runSteps_saved (m : Mounted) (t : Tables) (mishaps : List (Option Disk.Mishap)) :
    FileStore.runSteps m.disk (FileStore.saveSteps m.store.path (FileStore.content t)) mishaps =
      ((m.saved t mishaps).1, (m.saved t mishaps).2.disk) :=
  rfl

theorem outcome_saved (m : Mounted) (t : Tables) (mishaps : List (Option Disk.Mishap)) :
    (FileStore.runSteps m.disk (FileStore.saveSteps m.store.path (FileStore.content t)) mishaps).1 =
      (m.saved t mishaps).1 :=
  rfl

theorem dirty_saved (m : Mounted) (t : Tables) (mishaps : List (Option Disk.Mishap)) :
    (m.saved t mishaps).2.store.dirty = !(m.saved t mishaps).1.isOk :=
  rfl

theorem tables_saved (m : Mounted) (t : Tables) (mishaps : List (Option Disk.Mishap)) :
    (m.saved t mishaps).2.store.tables = t :=
  rfl

theorem run_save {m : Mounted} (mishaps : List (Option Disk.Mishap))
    (h : m.store.dirty = true) : (save mishaps).run m = m.saved m.store.tables mishaps := by
  obtain ⟨disk, path, tables, dirty⟩ := m
  change dirty = true at h
  subst h
  rw [save, saved, ExceptT.run_mk]
  dsimp only
  rcases FileStore.runSteps disk (FileStore.saveSteps path (FileStore.content tables)) mishaps
    with ⟨_ | _, _⟩ <;> rfl

theorem run_change {α : Type} (c : Tables.Change α) (mishaps : List (Option Disk.Mishap))
    (m : Mounted) : (change mishaps c).run m =
      ((m.saved (c m.store.tables).2 mishaps).1.map fun _ => (c m.store.tables).1,
        (m.saved (c m.store.tables).2 mishaps).2) := by
  let m' : Mounted := ⟨m.disk, { m.store with tables := (c m.store.tables).2, dirty := true }⟩
  have hchange : (change mishaps c).run m =
      (save mishaps >>= fun _ => pure (c m.store.tables).1 : Effect Mounted α).run m' := rfl
  have hsave : (save mishaps).run m' = m.saved (c m.store.tables).2 mishaps := run_save mishaps rfl
  rw [hchange, Effect.run_bind, hsave]
  rcases m.saved (c m.store.tables).2 mishaps with ⟨_ | _, _⟩ <;> rfl

theorem run_flush (mishaps : List (Option Disk.Mishap)) (m : Mounted) :
    (flush mishaps).run m =
      if m.store.dirty then m.saved m.store.tables mishaps else (.ok (), m) := by
  have hflush : (flush mishaps).run m =
      (if m.store.dirty then save mishaps else pure () : Effect Mounted Unit).run m := rfl
  rw [hflush]
  by_cases h : m.store.dirty = true
  · rw [if_pos h, if_pos h, run_save mishaps h]
  · rw [if_neg h, if_neg h]
    rfl

theorem run_request_of_change {α : Type} (c : Tables.Change α) (mishaps : List (Option Disk.Mishap))
    (f : α → Reply) (m : Mounted) :
    (change mishaps c >>= fun a => pure (f a) : Effect Mounted Reply).run m =
      ((m.saved (c m.store.tables).2 mishaps).1.bind fun _ => .ok (f (c m.store.tables).1),
        (m.saved (c m.store.tables).2 mishaps).2) := by
  rw [Effect.run_bind, run_change]
  rcases m.saved (c m.store.tables).2 mishaps with ⟨_ | _, _⟩ <;> rfl

/-- A request to a file store is answered like one to the tables in memory, unless it has the
tables saved and that fails. -/
theorem run_request (r : Request) (mishaps : List (Option Disk.Mishap)) (m : Mounted) :
    (request r mishaps).run m =
      if r.saves m.store.dirty then
        ((m.saved (r.applied m.store.tables) mishaps).1.bind fun _ =>
          ((r.perform : Effect Tables Reply).run m.store.tables).1,
          (m.saved (r.applied m.store.tables) mishaps).2)
      else (((r.perform : Effect Tables Reply).run m.store.tables).1, m) := by
  cases r with
  | row? | listRows | live? => rfl
  | putRow endpoint row =>
      exact run_request_of_change (Tables.Change.putRow endpoint row) mishaps (fun _ => .done) m
  | putEntry e =>
      exact run_request_of_change (Tables.Change.putEntry e) mishaps (fun _ => .done) m
  | eraseRow endpoint =>
      exact run_request_of_change (Tables.Change.eraseRow endpoint) mishaps .erased m
  | eraseRows start =>
      exact run_request_of_change (Tables.Change.eraseRows start) mishaps .count m
  | purge now =>
      exact run_request_of_change (Tables.Change.purge now) mishaps .count m
  | flush =>
      have hflush : (request .flush mishaps).run m =
          (Mounted.flush mishaps >>= fun _ => pure .done : Effect Mounted Reply).run m := rfl
      rw [hflush, Effect.run_bind, run_flush]
      change _ = if m.store.dirty = true then _ else _
      by_cases h : m.store.dirty = true
      · rw [if_pos h, if_pos h]
        change _ = ((m.saved m.store.tables mishaps).1.bind _, (m.saved m.store.tables mishaps).2)
        rcases m.saved m.store.tables mishaps with ⟨_ | _, _⟩ <;> rfl
      · rw [if_neg h, if_neg h]
        rfl

end Mounted

end NameScout
