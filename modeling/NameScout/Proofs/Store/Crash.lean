import NameScout.Proofs.Store.Recovery
import NameScout.Proofs.Store.Request

namespace NameScout

theorem Tables.Agrees.trans {t u v : Tables} (h : t.Agrees u) (h' : u.Agrees v) : t.Agrees v :=
  ⟨fun e => (h.row? e).trans (h'.row? e), fun k => (h.entry? k).trans (h'.entry? k)⟩

namespace Mounted

open FileStore

structure Call where
  request : Request
  mishaps : List (Option Disk.Mishap)

variable (m : Mounted)

def after (c : Call) : Mounted :=
  ((request c.request c.mishaps).run m).2

def afterAll (calls : List Call) : Mounted :=
  calls.foldl after m

def steps (r : Request) : List SaveStep :=
  if r.saves m.store.dirty then saveSteps m.store.path (content (r.applied m.store.tables)) else []

/-- The disk when everything stops before a step of a call, or after the last one. To stop in the
middle of a step is to stop after it when it has met with a mishap. -/
def crashed (c : Call) (k : Nat) : Disk :=
  (runSteps m.disk ((m.steps c.request).take k) c.mishaps).2

/-- The tables of the last saving whose renaming took place, if a call is cut short before a
step; the ones given if it has not come to that. -/
def persistedBy (t : Tables) (c : Call) (k : Nat) : Tables :=
  if renames m.disk ((m.steps c.request).take k) c.mishaps then c.request.applied m.store.tables
  else t

/-- The tables of the last saving whose renaming took place in some calls. -/
def persisted : Mounted → Tables → List Call → Tables
  | _, t, [] => t
  | m, t, c :: calls =>
      persisted (m.after c) (m.persistedBy t c (m.steps c.request).length) calls

/-- Whether something went wrong unnoticed in the last saving whose renaming took place, if a call
is cut short before a step; what is given if it has not come to that. -/
def tornBy (torn : Bool) (c : Call) (k : Nat) : Bool :=
  if renames m.disk ((m.steps c.request).take k) c.mishaps then
    misses ((m.steps c.request).take k) c.mishaps
  else torn

def torn : Mounted → Bool → List Call → Bool
  | _, b, [] => b
  | m, b, c :: calls => torn (m.after c) (m.tornBy b c (m.steps c.request).length) calls

theorem torn_concat (m : Mounted) (b : Bool) (calls : List Call) (c : Call) :
    m.torn b (calls ++ [c]) = (m.afterAll calls).tornBy (m.torn b calls) c
      ((m.afterAll calls).steps c.request).length := by
  induction calls generalizing m b with
  | nil => rfl
  | cons first calls ih => exact ih (m.after first) _

theorem exists_late_of_tornBy {b : Bool} {c : Call} {k : Nat} (h : m.tornBy b c k = true) :
    b = true ∨ ∃ mishap, some mishap ∈ c.mishaps ∧ mishap.late = true := by
  rw [tornBy] at h
  split at h
  · exact .inr (exists_late_of_misses h)
  · exact .inl h

theorem exists_late_of_torn {b : Bool} {calls : List Call} (h : m.torn b calls = true) :
    b = true ∨ ∃ c ∈ calls, ∃ mishap, some mishap ∈ c.mishaps ∧ mishap.late = true := by
  induction calls generalizing m b with
  | nil => exact .inl h
  | cons c calls ih =>
      rcases ih (m.after c) h with h | ⟨c', hc', hlate⟩
      · exact (m.exists_late_of_tornBy h).imp_right fun hlate => ⟨c, List.mem_cons_self, hlate⟩
      · exact .inr ⟨c', List.mem_cons_of_mem c hc', hlate⟩

/-- What the file of a store holds are the given tables, unless the file is torn; they are those in
memory if nothing was changed since they were saved. -/
structure Intact (path : String) (m : Mounted) (t : Tables) (torn : Bool) : Prop where
  path_eq : m.store.path = path
  prepared : Prepared m.disk path
  reads : torn = false → ∃ u, readTables m.disk path = .ok (some u) ∧ u.Agrees t
  keyed : m.store.tables.Keyed
  clean : m.store.dirty = false → t.Agrees m.store.tables

variable {m} {path : String} {t : Tables} {b : Bool}

theorem Intact.crashed (h : Intact path m t b) (htmp : Path.extension? path ≠ some "tmp")
    (hbackup : Path.extension? path ≠ some "backup") (c : Call) (k : Nat) :
    Prepared (m.crashed c k) path ∧ (m.tornBy b c k = false →
      ∃ u, readTables (m.crashed c k) path = .ok (some u) ∧ u.Agrees (m.persistedBy t c k)) := by
  unfold Mounted.crashed persistedBy tornBy steps
  split
  · rw [h.path_eq]
    obtain ⟨hprepared, hkept, hsaved⟩ := reads_after_steps htmp hbackup h.prepared
      (c.request.applied m.store.tables) k c.mishaps
    refine ⟨hprepared, fun hwhole => ?_⟩
    split at hwhole
    · rename_i hrenames
      rw [if_pos hrenames]
      exact ⟨_, hsaved hrenames hwhole, Snapshot.agrees_reread (Request.keyed_applied _ h.keyed)⟩
    · rename_i hrenames
      rw [if_neg hrenames, hkept (Bool.eq_false_iff.mpr hrenames)]
      exact h.reads hwhole
  · rw [List.take_nil]
    exact ⟨h.prepared, h.reads⟩

theorem after_of_saves {c : Call} (h : c.request.saves m.store.dirty = true) :
    m.after c = (m.saved (c.request.applied m.store.tables) c.mishaps).2 := by
  rw [after, run_request, if_pos h]

theorem after_of_not_saves {c : Call} (h : c.request.saves m.store.dirty = false) :
    m.after c = m := by
  rw [after, run_request, if_neg (by simp [h])]

theorem disk_after (c : Call) : (m.after c).disk = m.crashed c (m.steps c.request).length := by
  rw [Mounted.crashed, List.take_length, steps]
  cases h : c.request.saves m.store.dirty with
  | false =>
      rw [after_of_not_saves h]
      rfl
  | true =>
      rw [after_of_saves h]
      rfl

theorem tables_after (c : Call) : (m.after c).store.tables = c.request.applied m.store.tables := by
  cases h : c.request.saves m.store.dirty with
  | false => rw [after_of_not_saves h, Request.applied_of_not_saves h]
  | true =>
      rw [after_of_saves h]
      rfl

theorem tables_afterAll (m : Mounted) (calls : List Call) :
    (m.afterAll calls).store.tables =
      calls.foldl (fun t c => c.request.applied t) m.store.tables := by
  induction calls generalizing m with
  | nil => rfl
  | cons c calls ih =>
      rw [List.foldl_cons, ← tables_after]
      exact ih (m.after c)

theorem path_after (c : Call) : (m.after c).store.path = m.store.path := by
  cases h : c.request.saves m.store.dirty with
  | false => rw [after_of_not_saves h]
  | true =>
      rw [after_of_saves h]
      rfl

theorem clean_after {c : Call} (h : (m.after c).store.dirty = false) :
    m.store.dirty = false ∧ m.after c = m ∧ m.steps c.request = [] ∨
      renames m.disk (m.steps c.request) c.mishaps = true := by
  cases hs : c.request.saves m.store.dirty with
  | false =>
      have hafter := after_of_not_saves hs
      refine .inl ⟨hafter ▸ h, hafter, ?_⟩
      rw [steps, if_neg (by simp [hs])]
  | true =>
      rw [after_of_saves hs] at h
      refine .inr ?_
      rw [steps, if_pos hs, renames_saveSteps]
      have hok : (!(runSteps m.disk (saveSteps m.store.path
          (content (c.request.applied m.store.tables))) c.mishaps).1.isOk) = false := h
      simpa using hok

theorem Intact.after (h : Intact path m t b) (htmp : Path.extension? path ≠ some "tmp")
    (hbackup : Path.extension? path ≠ some "backup") (c : Call) :
    Intact path (m.after c) (m.persistedBy t c (m.steps c.request).length)
      (m.tornBy b c (m.steps c.request).length) := by
  obtain ⟨hprepared, hreads⟩ := h.crashed htmp hbackup c (m.steps c.request).length
  rw [← disk_after] at hprepared hreads
  refine ⟨(path_after c).trans h.path_eq, hprepared, hreads, ?_, fun hclean => ?_⟩
  · rw [tables_after]
    exact Request.keyed_applied _ h.keyed
  · rw [persistedBy, List.take_length]
    rcases clean_after hclean with ⟨hdirty, hafter, hsteps⟩ | hrenames
    · rw [hsteps, hafter]
      exact h.clean hdirty
    · rw [if_pos hrenames, tables_after]
      exact .refl _

theorem Intact.afterAll (h : Intact path m t b) (htmp : Path.extension? path ≠ some "tmp")
    (hbackup : Path.extension? path ≠ some "backup") (calls : List Call) :
    Intact path (m.afterAll calls) (persisted m t calls) (m.torn b calls) := by
  induction calls generalizing m t b with
  | nil => exact h
  | cons c calls ih => exact ih (h.after htmp hbackup c)

theorem clean_of_ok {c : Call} {reply : Reply} {m' : Mounted}
    (hr : c.request.isChange = true ∨ c.request = .flush)
    (h : (request c.request c.mishaps).run m = (.ok reply, m')) :
    m' = m.after c ∧ m'.store.dirty = false := by
  have hafter : m' = m.after c := (congrArg Prod.snd h).symm
  refine ⟨hafter, ?_⟩
  rw [run_request] at h
  split at h
  · rw [Prod.mk.injEq] at h
    obtain ⟨hreply, rfl⟩ := h
    cases hsaved : (m.saved (c.request.applied m.store.tables) c.mishaps).1 with
    | error e =>
        rw [hsaved] at hreply
        cases hreply
    | ok _ =>
        have hdirty : (m.saved (c.request.applied m.store.tables) c.mishaps).2.store.dirty =
            !(m.saved (c.request.applied m.store.tables) c.mishaps).1.isOk := rfl
        rw [hdirty, hsaved]
        rfl
  · rename_i hsaves
    obtain rfl : m = m' := congrArg Prod.snd h
    rcases hr with hr | hr
    · exact absurd (Request.saves_of_isChange hr _) hsaves
    · rw [hr] at hsaves
      exact Bool.eq_false_iff.mpr hsaves

theorem keyed_of_readTables {d : Disk} {t : Tables} (h : readTables d path = .ok (some t)) :
    t.Keyed := by
  unfold readTables at h
  split at h
  · cases htext : d.readText path with
    | error e =>
        rw [htext] at h
        cases h
    | ok text =>
        rw [htext] at h
        exact Snapshot.keyed_of_parse? (Except.ok.inj h)
  · cases h
    exact Tables.keyed_empty

theorem Intact.load {d : Disk} (hprepared : Prepared d path)
    (hreads : ∃ u, readTables d path = .ok (some u) ∧ u.Agrees t) :
    ∃ u, FileStore.load d path = (.ok { path, tables := u, dirty := false }, d) ∧ u.Agrees t := by
  obtain ⟨u, hread, hagrees⟩ := hreads
  exact ⟨u, load_eq hprepared hread, hagrees⟩

theorem loads_of_saved (htmp : Path.extension? path ≠ some "tmp")
    (hbackup : Path.extension? path ≠ some "backup") (hpath : m.store.path = path)
    (hprepared : Prepared m.disk path) (ht : t.Keyed) {mishaps : List (Option Disk.Mishap)}
    (hsave : (m.saved t mishaps).1 = .ok ())
    (hwhole : misses (saveSteps path (content t)) mishaps = false) :
    Prepared (m.saved t mishaps).2.disk path ∧
      ∃ u, FileStore.load (m.saved t mishaps).2.disk path =
          (.ok { path, tables := u, dirty := false }, (m.saved t mishaps).2.disk) ∧
        u.Agrees t := by
  have hsteps := m.runSteps_saved t mishaps
  rw [hpath, hsave] at hsteps
  obtain ⟨hprepared', hread⟩ := reads_of_saved htmp hbackup hprepared hsteps
  exact ⟨hprepared', _, load_eq hprepared' (hread hwhole), Snapshot.agrees_reread ht⟩

/-- However steps of saving fail and wherever a call is cut short, opening the file again gives
the tables of the last saving whose renaming took place. After a change or a flush that succeeded
they are the tables in memory, and those follow every request whether it was saved or not. All this
holds unless something went wrong unnoticed in that last saving, at the end of its write. -/
theorem survives_crash_unless_torn {d d₁ : Disk} {path : String} {t : Tables}
    (htmp : Path.extension? path ≠ some "tmp") (hbackup : Path.extension? path ≠ some "backup")
    (hdirectory : prepareDirectory d path = .ok d₁) (hread : readTables d₁ path = .ok (some t))
    (calls : List Call) :
    ∃ m : Mounted, FileStore.load d path = (.ok m.store, m.disk) ∧ m.store.tables = t ∧
      (m.afterAll calls).store.tables = calls.foldl (fun t c => c.request.applied t) t ∧
      ∀ c : Call,
        (∀ k, (m.afterAll calls).tornBy (m.torn false calls) c k = false →
          ∃ u, FileStore.load ((m.afterAll calls).crashed c k) path =
              (.ok { path, tables := u, dirty := false }, (m.afterAll calls).crashed c k) ∧
            u.Agrees ((m.afterAll calls).persistedBy (persisted m t calls) c k)) ∧
        (∀ (reply : Reply) (m' : Mounted), c.request.isChange = true ∨ c.request = .flush →
          (request c.request c.mishaps).run (m.afterAll calls) = (.ok reply, m') →
            m.torn false (calls ++ [c]) = false → ∃ u, FileStore.load m'.disk path =
                (.ok { path, tables := u, dirty := false }, m'.disk) ∧
              u.Agrees m'.store.tables) ∧
        ∀ k, (m.afterAll calls).tornBy (m.torn false calls) c k = true →
          ∃ c' ∈ calls ++ [c], ∃ mishap, some mishap ∈ c'.mishaps ∧ mishap.late = true := by
  have hprepared := prepared_of_prepareDirectory hdirectory
  let m : Mounted := ⟨d₁, { path, tables := t, dirty := false }⟩
  have hintact : Intact path m t false :=
    ⟨rfl, hprepared, fun _ => ⟨t, hread, .refl t⟩, keyed_of_readTables hread, fun _ => .refl t⟩
  have hafter := hintact.afterAll htmp hbackup calls
  refine ⟨m, ?_, rfl, tables_afterAll m calls, fun c => ⟨fun k hwhole => ?_,
    fun reply m' hr hrun hwhole => ?_, fun k htorn => ?_⟩⟩
  · have hload := load_eq hprepared hread
    rw [FileStore.load, loadWith, prepareDirectory_eq hprepared] at hload
    rw [FileStore.load, loadWith, hdirectory]
    exact hload
  · obtain ⟨hprepared', hreads⟩ := hafter.crashed htmp hbackup c k
    exact Intact.load hprepared' (hreads hwhole)
  · obtain ⟨rfl, hclean⟩ := clean_of_ok hr hrun
    have hlast := hafter.after htmp hbackup c
    rw [← torn_concat] at hlast
    obtain ⟨u, hread', hagrees⟩ := hlast.reads hwhole
    exact ⟨u, load_eq hlast.prepared hread', hagrees.trans (hlast.clean hclean)⟩
  · rcases exists_late_of_tornBy _ htorn with hbefore | hlate
    · obtain ⟨c', hc', hlate⟩ := (exists_late_of_torn _ hbefore).resolve_left Bool.false_ne_true
      exact ⟨c', List.mem_append_left _ hc', hlate⟩
    · exact ⟨c, List.mem_append_right _ List.mem_cons_self, hlate⟩

def fullDisk : List Call :=
  [⟨.putRow "pypi.org" (.new "pypi.org" .epoch), []⟩,
    ⟨.putRow "crates.io" (.new "crates.io" .epoch),
      [none, some ⟨.noSpace, some "\x7b".toUTF8, false⟩]⟩]

theorem survives_crash_unless_torn_fullDisk :
    ∃ m : Mounted, FileStore.load .empty "state.json" = (.ok m.store, m.disk) ∧
      (m.afterAll fullDisk).store.tables =
        (Tables.empty.putRow "pypi.org" (.new "pypi.org" .epoch)).putRow "crates.io"
          (.new "crates.io" .epoch) ∧
      ∀ k, ∃ u, FileStore.load ((m.afterAll fullDisk).crashed ⟨.flush, []⟩ k) "state.json" =
          (.ok { path := "state.json", tables := u, dirty := false },
            (m.afterAll fullDisk).crashed ⟨.flush, []⟩ k) ∧
        u.Agrees ((m.afterAll fullDisk).persistedBy (persisted m .empty fullDisk)
          ⟨.flush, []⟩ k) := by
  have hdirectory : prepareDirectory .empty "state.json" = .ok .empty := rfl
  have hread : readTables .empty "state.json" = .ok (some .empty) := rfl
  obtain ⟨m, hload, -, htables, hcalls⟩ :=
    survives_crash_unless_torn (by decide) (by decide) hdirectory hread fullDisk
  obtain ⟨hcrashed, -, hlate⟩ := hcalls ⟨.flush, []⟩
  refine ⟨m, hload, htables, fun k => hcrashed k ?_⟩
  by_contra htorn
  obtain ⟨c, hc, mishap, hmishap, hlate⟩ := hlate k (by simpa using htorn)
  simp only [fullDisk, List.cons_append, List.nil_append, List.mem_cons, List.not_mem_nil,
    or_false] at hc
  rcases hc with rfl | rfl | rfl <;> simp at hmishap
  subst hmishap
  cases hlate

/-- The disk is full when the last part of the temporary file is written. -/
def unnoticed : Call :=
  ⟨.putRow "pypi.org" (.new "pypi.org" .epoch), [none, some ⟨.noSpace, some "\x7b".toUTF8, true⟩]⟩

theorem load_of_unnoticed (c : ByteArray) :
    (FileStore.load (runSteps .empty (saveSteps "state.json" c) unnoticed.mishaps).2
      "state.json").1 = .ok (served "state.json" .empty) := by
  generalize hd : (runSteps .empty (saveSteps "state.json" c) unnoticed.mishaps).2 = d
  have hread : d.read "state.json" = .ok "\x7b".toUTF8 := hd ▸ rfl
  have hbackup : held? d (backup "state.json") = none := held?_of_missing (hd ▸ rfl)
  rw [load_of_corrupt (prepared_of_bare rfl) (readTables_of_read hread (fromUTF8?_toUTF8 "\x7b")),
    hbackup]
  rfl

theorem outcome_of_unnoticed (c : ByteArray) :
    (runSteps .empty (saveSteps "state.json" c) unnoticed.mishaps).1 = .ok () :=
  rfl

/-- A change is said to be saved, and is not there when the file is opened again. -/
theorem saved_change_is_lost :
    ∃ m m' : Mounted, FileStore.load .empty "state.json" = (.ok m.store, m.disk) ∧
      (request unnoticed.request unnoticed.mishaps).run m = (.ok .done, m') ∧
      m'.store.tables = Tables.empty.putRow "pypi.org" (.new "pypi.org" .epoch) ∧
      m'.store.dirty = false ∧
      (FileStore.load m'.disk "state.json").1 = .ok (served "state.json" .empty) := by
  have happlied : unnoticed.request.applied .empty = onePackage := rfl
  have hdone : ((unnoticed.request.perform : Effect Tables Reply).run .empty).1 = .ok .done := rfl
  let m : Mounted := ⟨.empty, served "state.json" .empty⟩
  have hrun := run_request unnoticed.request unnoticed.mishaps m
  have hsteps := m.runSteps_saved onePackage unnoticed.mishaps
  have htables := m.tables_saved onePackage unnoticed.mishaps
  have hdirty := m.dirty_saved onePackage unnoticed.mishaps
  rw [if_pos (Request.saves_of_isChange rfl _), show m.store.tables = .empty from rfl, happlied,
    hdone] at hrun
  generalize m.saved onePackage unnoticed.mishaps = s at hrun hsteps htables hdirty
  obtain ⟨outcome, m'⟩ := s
  have hsaved := outcome_of_unnoticed (content onePackage)
  have hlost := load_of_unnoticed (content onePackage)
  replace hsteps : runSteps .empty (saveSteps "state.json" (content onePackage))
    unnoticed.mishaps = (outcome, m'.disk) := hsteps
  rw [hsteps] at hsaved hlost
  cases hsaved
  exact ⟨m, m', load_eq (prepared_of_bare rfl) rfl, hrun, htables, hdirty, hlost⟩

end Mounted

end NameScout
