import Mathlib.Data.List.Forall2
import NameScout.Proofs.Store.Answers
import NameScout.Proofs.Store.Crash

namespace NameScout

inductive Action where
  | call (r : Request)
  | reopen

namespace Action

def performAll {σ : Type} [Store σ] (reopen : Effect σ Unit) : List Action → Effect σ (List Reply)
  | [] => return []
  | .call r :: actions => do
      let reply ← r.perform
      let replies ← performAll reopen actions
      return reply :: replies
  | .reopen :: actions => do
      reopen
      performAll reopen actions

variable {σ : Type} [Store σ] {reopen : Effect σ Unit} {s s' s'' : σ}

theorem run_performAll_call {r : Request} {actions : List Action} {reply : Reply}
    {replies : List Reply} (hcall : (r.perform : Effect σ Reply).run s = (.ok reply, s'))
    (hrest : (performAll reopen actions).run s' = (.ok replies, s'')) :
    (performAll reopen (.call r :: actions)).run s = (.ok (reply :: replies), s'') := by
  rw [performAll, Effect.run_bind, hcall]
  simp only
  rw [Effect.run_bind, hrest]
  rfl

theorem run_performAll_reopen {actions : List Action} {replies : List Reply}
    (hreopen : reopen.run s = (.ok (), s'))
    (hrest : (performAll reopen actions).run s' = (.ok replies, s'')) :
    (performAll reopen (.reopen :: actions)).run s = (.ok replies, s'') := by
  rw [performAll, Effect.run_bind, hreopen]
  exact hrest

end Action

theorem Tables.Agrees.keyed {t u : Tables} (h : t.Agrees u) (hu : u.Keyed) : t.Keyed :=
  fun k e he => hu k e (h.entries_perm.mem_iff.mp he)

namespace Mounted

open FileStore

def reopen : Effect Mounted Unit :=
  ExceptT.mk fun m => match FileStore.load m.disk m.store.path with
    | (.ok store, disk) => (.ok (), ⟨disk, store⟩)
    | (.error e, disk) => (.error e, { m with disk })

/-- No step of saving fails in some actions. -/
def Smooth : Mounted → List Action → Prop
  | _, [] => True
  | m, .call r :: actions =>
      (runSteps m.disk (m.steps r) []).1 = .ok () ∧ Smooth (m.after ⟨r, []⟩) actions
  | m, .reopen :: actions => Smooth (reopen.run m).2 actions

/-- Opening the file of a store again would find what the store has in memory. -/
structure Faithful (path : String) (m : Mounted) : Prop where
  path_eq : m.store.path = path
  clean : m.store.dirty = false
  keyed : m.store.tables.Keyed
  prepared : Prepared m.disk path
  loads : ∃ u, FileStore.load m.disk path = (.ok { path, tables := u, dirty := false }, m.disk) ∧
    u.Agrees m.store.tables

variable {m : Mounted} {path : String} {t : Tables}

theorem run_perform (r : Request) (m : Mounted) :
    (r.perform : Effect Mounted Reply).run m = (request r []).run m :=
  rfl

theorem Faithful.of_saved (h : Faithful path m) (htmp : Path.extension? path ≠ some "tmp")
    (hbackup : Path.extension? path ≠ some "backup") {t : Tables} (ht : t.Keyed)
    {mishaps : List (Option Disk.Mishap)} (hsave : (m.saved t mishaps).1 = .ok ())
    (hwhole : misses (saveSteps path (content t)) mishaps = false) :
    Faithful path (m.saved t mishaps).2 := by
  obtain ⟨hprepared, hloads⟩ :=
    loads_of_saved htmp hbackup h.path_eq h.prepared ht hsave hwhole
  refine ⟨h.path_eq, ?_, ht, hprepared, hloads⟩
  rw [dirty_saved, hsave]
  rfl

theorem Faithful.call (h : Faithful path m) (htmp : Path.extension? path ≠ some "tmp")
    (hbackup : Path.extension? path ≠ some "backup") (hagrees : m.store.tables.Agrees t)
    {r : Request} (hsteps : (runSteps m.disk (m.steps r) []).1 = .ok ()) :
    Faithful path (m.after ⟨r, []⟩) ∧ (m.after ⟨r, []⟩).store.tables.Agrees (r.applied t) ∧
      ∃ reply reply', (r.perform : Effect Mounted Reply).run m = (.ok reply, m.after ⟨r, []⟩) ∧
        (r.perform : Effect Tables Reply).run t = (.ok reply', r.applied t) ∧
        reply.Alike reply' := by
  obtain ⟨reply, reply', hrun, hrun', halike, hafter⟩ := Request.alike hagrees r
  rw [tables_after]
  cases hs : r.saves m.store.dirty with
  | false =>
      have hstay := after_of_not_saves (c := ⟨r, []⟩) hs
      rw [hstay]
      refine ⟨h, hafter, reply, reply', ?_, hrun', halike⟩
      rw [run_perform, run_request, if_neg (by simp [hs]), hrun]
  | true =>
      have hsaved := after_of_saves (c := ⟨r, []⟩) hs
      rw [steps, if_pos hs, outcome_saved] at hsteps
      rw [hsaved]
      have hkeyed := Request.keyed_applied r h.keyed
      refine ⟨h.of_saved htmp hbackup hkeyed hsteps (misses_nil _), hafter, reply, reply', ?_,
        hrun', halike⟩
      rw [run_perform, run_request, if_pos hs, hsteps, hrun]
      rfl

theorem Faithful.reopen (h : Faithful path m) (hagrees : m.store.tables.Agrees t) :
    ∃ m', Mounted.reopen.run m = (.ok (), m') ∧ Faithful path m' ∧ m'.store.tables.Agrees t := by
  obtain ⟨u, hload, hu⟩ := h.loads
  refine ⟨⟨m.disk, { path, tables := u, dirty := false }⟩, ?_,
    ⟨rfl, rfl, hu.keyed h.keyed, h.prepared, u, hload, .refl u⟩, hu.trans hagrees⟩
  rw [Mounted.reopen, ExceptT.run_mk, h.path_eq, hload]

theorem Faithful.performAll (h : Faithful path m) (htmp : Path.extension? path ≠ some "tmp")
    (hbackup : Path.extension? path ≠ some "backup") (hagrees : m.store.tables.Agrees t)
    {actions : List Action} (hsmooth : m.Smooth actions) :
    ∃ replies replies' m' t', (Action.performAll Mounted.reopen actions).run m = (.ok replies, m') ∧
      (Action.performAll (pure ()) actions).run t = (.ok replies', t') ∧
      List.Forall₂ Reply.Alike replies replies' ∧ m'.store.tables.Agrees t' := by
  induction actions generalizing m t with
  | nil => exact ⟨[], [], m, t, rfl, rfl, .nil, hagrees⟩
  | cons action actions ih =>
      cases action with
      | call r =>
          obtain ⟨hsteps, hsmooth⟩ := hsmooth
          obtain ⟨hnext, hnextAgrees, reply, reply', hrun, hrun', halike⟩ :=
            h.call htmp hbackup hagrees hsteps
          obtain ⟨replies, replies', m', t', hrest, hrest', hall, hend⟩ :=
            ih hnext hnextAgrees hsmooth
          exact ⟨reply :: replies, reply' :: replies', m', t',
            Action.run_performAll_call hrun hrest, Action.run_performAll_call hrun' hrest', .cons halike hall, hend⟩
      | reopen =>
          obtain ⟨m₁, hreopen, hnext, hnextAgrees⟩ := h.reopen hagrees
          have hsmooth : m₁.Smooth actions := by
            rw [Smooth, hreopen] at hsmooth
            exact hsmooth
          obtain ⟨replies, replies', m', t', hrest, hrest', hall, hend⟩ :=
            ih hnext hnextAgrees hsmooth
          exact ⟨replies, replies', m', t', Action.run_performAll_reopen hreopen hrest,
            Action.run_performAll_reopen rfl hrest', hall, hend⟩

theorem faithful_of_load {d : Disk} (hload : FileStore.load d path = (.ok m.store, m.disk))
    (hkeyed : m.store.tables.Keyed) : Faithful path m := by
  obtain ⟨hprepared, hagain⟩ := load_again hload
  obtain ⟨d₁, t, -, -, hstore⟩ := of_load hload
  rw [hstore] at hkeyed hagain
  refine ⟨?_, ?_, ?_, hprepared, t, hagain, ?_⟩ <;> rw [hstore]
  · exact hkeyed
  · exact .refl t

/-- A store in memory and one in a file that both begin empty give the same answers, wherever the
one in the file is closed and opened again. -/
theorem answers_like_memory {d : Disk} {path : String} {m : Mounted} {actions : List Action}
    (htmp : Path.extension? path ≠ some "tmp") (hbackup : Path.extension? path ≠ some "backup")
    (hload : FileStore.load d path = (.ok m.store, m.disk)) (hempty : m.store.tables = .empty)
    (hsmooth : m.Smooth actions) :
    ∃ replies replies' m' t', (Action.performAll reopen actions).run m = (.ok replies, m') ∧
      (Action.performAll (pure ()) actions).run Tables.empty = (.ok replies', t') ∧
      List.Forall₂ Reply.Alike replies replies' ∧ m'.store.tables.Agrees t' := by
  have hkeyed : m.store.tables.Keyed := hempty ▸ Tables.keyed_empty
  exact (faithful_of_load hload hkeyed).performAll htmp hbackup (hempty ▸ .refl _) hsmooth

def twoRows : List Action :=
  [.call (.putRow "pypi.org" (.new "pypi.org" .epoch)),
    .call (.putRow "crates.io" (.new "crates.io" .epoch)), .reopen, .call (.row? "crates.io"),
    .call (.listRows "pypi")]

theorem answers_like_memory_twoRows :
    ∃ replies m', (Action.performAll reopen twoRows).run
        ⟨.empty, { path := "state.json", tables := .empty, dirty := false }⟩ = (.ok replies, m') ∧
      List.Forall₂ Reply.Alike replies [.done, .done,
        .row (some (.new "crates.io" .epoch)), .rows [.new "pypi.org" .epoch]] := by
  have hsmooth : Smooth ⟨.empty, { path := "state.json", tables := .empty, dirty := false }⟩
      twoRows := ⟨rfl, rfl, rfl, rfl, trivial⟩
  have htmp : Path.extension? "state.json" ≠ some "tmp" := by decide
  have hbackup : Path.extension? "state.json" ≠ some "backup" := by decide
  obtain ⟨replies, replies', m', t', hrun, hrun', halike, -⟩ := answers_like_memory (d := .empty)
    (m := ⟨.empty, { path := "state.json", tables := .empty, dirty := false }⟩) htmp hbackup rfl rfl
    hsmooth
  have hmemory : replies' = [.done, .done, .row (some (.new "crates.io" .epoch)),
      .rows [.new "pypi.org" .epoch]] := by
    have hlisted : ((Action.performAll (pure ()) twoRows).run Tables.empty).1 = .ok [.done, .done,
        .row (some (.new "crates.io" .epoch)), .rows [.new "pypi.org" .epoch]] := by decide +kernel
    rw [hrun'] at hlisted
    exact Except.ok.inj hlisted
  exact ⟨replies, m', hrun, hmemory ▸ halike⟩

end Mounted

end NameScout
