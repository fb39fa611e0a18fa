import NameScout.Proofs.Store.Crash
import NameScout.Proofs.Store.Neighbours
import NameScout.Proofs.Store.Recovery

namespace NameScout

namespace FileStore

open Disk

variable {d d' d₁ d₂ : Disk} {path : String} {c : ByteArray} {t : Tables}

section BackingUp

def SaveStep.isBackUp (s : SaveStep) : Bool :=
  match s.step with
  | .backUp .. => true
  | _ => false

def backsUp (d : Disk) : List SaveStep → List (Option Mishap) → Bool
  | [], _ => false
  | s :: rest, mishaps => s.isBackUp || match s.run d (mishaps.headD none) with
      | (.ok (), d) => backsUp d rest mishaps.tail
      | (.error _, _) => false

theorem runSteps_of_not_backsUp {steps : List SaveStep} {mishaps : List (Option Mishap)}
    (h : backsUp d steps mishaps = false) : (runSteps d steps mishaps).2 =
      (runSteps d (steps.takeWhile fun s => !s.isBackUp) mishaps).2 := by
  induction steps generalizing d mishaps with
  | nil => rfl
  | cons s steps ih =>
      rw [backsUp, Bool.or_eq_false_iff] at h
      obtain ⟨hs, hrest⟩ := h
      rw [List.takeWhile_cons_of_pos (by rw [hs]; rfl), runSteps, runSteps]
      rcases hrun : s.run d (mishaps.headD none) with ⟨_ | _, d₁⟩
      · rfl
      · rw [hrun] at hrest
        exact ih hrest

theorem mem_before_backUp {k : Nat} {s : SaveStep}
    (h : s ∈ ((saveSteps path c).take k).takeWhile fun s => !s.isBackUp) :
    (∀ source target, s.step ≠ .rename source target) ∧
      ∀ q, s.step.written? = some q → q = temporary path := by
  have hdraft : s ∈ (saveSteps path c).take 3 := by
    rcases k with _ | _ | _ | _ | k
    · cases h
    · exact List.mem_of_mem_take (i := 1) h
    · exact List.mem_of_mem_take (i := 2) h
    · exact h
    · exact h
  simp only [saveSteps, List.take_succ_cons, List.take_zero, List.mem_cons, List.not_mem_nil,
    or_false] at hdraft
  rcases hdraft with rfl | rfl | rfl <;> simp [Step.written?, eq_comm]

def Guarded (d : Disk) (path : String) (place : List String) : Prop :=
  d.locate path = .ok place ∨ d.locate (backup path) = .ok place

theorem spares_before_backUp (hapart : Apart d path) {k : Nat} {mishaps : List (Option Mishap)}
    (h : backsUp d ((saveSteps path c).take k) mishaps = false) :
    Spares d (runSteps d ((saveSteps path c).take k) mishaps).2 (Guarded d path) := by
  rw [runSteps_of_not_backsUp h]
  refine runSteps_spares (fun s hs => ?_) mishaps
  obtain ⟨hrename, hwritten⟩ := mem_before_backUp hs
  refine ⟨hrename, fun q hq p hp hplace => ?_⟩
  obtain rfl := hwritten q hq
  rcases hplace with hplace | hplace
  · exact hapart.temporary p p hp hplace List.prefix_rfl
  · exact hapart.between p p hplace hp rfl

theorem Spares.guarded (h : Spares d d' (Guarded d path)) {d'' : Disk}
    (h' : Spares d' d'' (Guarded d' path)) : Spares d d'' (Guarded d path) := by
  refine h.trans ⟨h'.directories, fun place hplace => h'.node? place ?_⟩
  exact hplace.imp h.directories.grows.locate h.directories.grows.locate

end BackingUp

section Opening

theorem held?_congr (hsame : SameDirectories d d')
    (hnode : ∀ place, d.locate path = .ok place → d'.node? place = d.node? place) :
    held? d' path = held? d path := by
  cases h : d.locate path with
  | error e =>
      cases h' : d'.locate path with
      | error e' => rw [held?, held?, Disk.read, Disk.read, h, h']; rfl
      | ok place =>
          rw [hsame.symm.grows.locate h'] at h
          cases h
  | ok place =>
      rw [held?, held?, read_of_locate (hsame.grows.locate h), read_of_locate h, hnode place h]

theorem readTables_of_held? (h : held? d path = some t) : readTables d path = .ok (some t) := by
  rw [held?] at h
  cases hread : d.read path with
  | error e =>
      rw [hread] at h
      cases h
  | ok c =>
      rw [hread] at h
      have hdecoded : decoded? c = some t := h
      obtain ⟨text, htext, hparse⟩ := Option.bind_eq_some_iff.mp hdecoded
      rw [readTables_of_read hread htext, hparse]

theorem exists_read_of_held? (h : held? d path = some t) : ∃ c, d.read path = .ok c := by
  cases hread : d.read path with
  | error e =>
      rw [held?, hread] at h
      cases h
  | ok c => exact ⟨c, rfl⟩

theorem exists_read_of_corrupt (h : readTables d path = .ok none) : ∃ c, d.read path = .ok c := by
  cases hexists : d.exists? path with
  | false =>
      rw [readTables_of_missing hexists] at h
      cases h
  | true =>
      obtain ⟨c, -, hread, -⟩ := read_of_readTables hexists h
      exact ⟨c, hread⟩

theorem exists_copy {source target : String} {c' : ByteArray} (hsource : d.read source = .ok c)
    (htarget : d.read target = .ok c') : ∃ d', d.copy source target = .ok d' := by
  obtain ⟨origin, horigin, -⟩ := read_eq_ok_iff.mp hsource
  obtain ⟨place, hplace, hnode, hwants⟩ := read_eq_ok_iff.mp htarget
  have hfree : d.node? place ≠ some .directory := by simp [hnode]
  rw [copy, hsource, horigin, hplace]
  exact ⟨_, write_eq_ok_iff.mpr ⟨place, hplace, hfree, hwants, rfl⟩⟩

theorem openTables_congr (hread : readTables d' path = readTables d path)
    (hheld : held? d' (backup path) = held? d (backup path)) (mishap : Option Mishap) :
    (openTables d' path mishap).1 = (openTables d path mishap).1 := by
  cases h : readTables d path with
  | error e => rw [openTables, openTables, hread, h]
  | ok found =>
      rw [openTables_of_readTables h, openTables_of_readTables (hread.trans h), hheld]

theorem load_of_guarded (hprepared : Prepared d path) (hprepared' : Prepared d' path)
    (h : Spares d d' (Guarded d path)) : (load d' path).1 = (load d path).1 := by
  have hread := readTables_congr h.directories fun place hplace => h.node? place (.inl hplace)
  have hheld := held?_congr h.directories fun place hplace => h.node? place (.inr hplace)
  rw [load, load, loadWith_of_prepared hprepared, loadWith_of_prepared hprepared',
    openTables_congr hread hheld none]

theorem spares_recover (hapart : Apart d path) (mishap : Option Mishap) :
    Spares d (recover d path mishap).2 fun place => d.locate (backup path) = .ok place := by
  unfold recover
  split
  · split
    · rcases run_eq_or_write (d := d) (s := ⟨.backUp (backup path) path, none⟩) (by simp) mishap
        with hrun | ⟨q, c, hq, hwrite⟩
      · rw [hrun]
        exact .refl d _
      · cases hq
        exact spares_write hwrite fun p hp hplace => hapart.backup p p hplace hp rfl
    · exact .refl d _
  · exact .refl d _

theorem recover_of_nothing_left (e : DiskError) (late : Bool) :
    (recover d path (some ⟨e, none, late⟩)).2 = d := by
  unfold recover
  split
  · split <;> rfl
  · rfl

theorem readTables_recover (hprepared : Prepared d path) (hcorrupt : readTables d path = .ok none)
    (hheld : held? d (backup path) = some t) :
    readTables (recover d path none).2 path = .ok (some t) := by
  obtain ⟨c, hread⟩ := exists_read_of_corrupt hcorrupt
  obtain ⟨c', hread'⟩ := exists_read_of_held? hheld
  have hexists := exists?_of_read hread'
  have hbackup := readTables_of_held? hheld
  obtain ⟨d', hcopy⟩ := exists_copy hread' hread
  have hdisk : (recover d path none).2 = d' := by
    rw [recover, if_pos hexists, hbackup]
    simp only [SaveStep.run, perform, if_pos hexists, hcopy]
  rw [hdisk]
  exact (readTables_of_putBack hprepared hcorrupt hexists hbackup hcopy).2

end Opening

end FileStore

namespace Mounted

open Disk FileStore

variable {m : Mounted} {path : String} {t : Tables} {d : Disk}

/-- Whether something is the case with the steps of some call, the last of which is cut short. -/
def sometime (p : Disk → List SaveStep → List (Option Disk.Mishap) → Bool) :
    Mounted → List Call → Call → Nat → Bool
  | m, [], last, k => p m.disk ((m.steps last.request).take k) last.mishaps
  | m, c :: calls, last, k =>
      p m.disk (m.steps c.request) c.mishaps || sometime p (m.after c) calls last k

theorem steps_take (m : Mounted) (r : Request) (k : Nat) :
    (m.steps r).take k = [] ∨
      (m.steps r).take k = (saveSteps m.store.path (content (r.applied m.store.tables))).take k := by
  unfold steps
  split
  · exact .inr rfl
  · exact .inl List.take_nil

theorem steps_of_change (m : Mounted) {r : Request} (h : r.isChange = true) :
    m.steps r = saveSteps m.store.path (content (r.applied m.store.tables)) :=
  if_pos (Request.saves_of_isChange h _)

structure Placed (path : String) (m : Mounted) : Prop where
  path_eq : m.store.path = path
  prepared : Prepared m.disk path
  keyed : m.store.tables.Keyed

section Calls

variable (htmp : Path.extension? path ≠ some "tmp") (hbackup : Path.extension? path ≠ some "backup")

include htmp hbackup

theorem Placed.crashed (h : Placed path m) (c : Call) (k : Nat) :
    Prepared (m.crashed c k) path ∧
      (renames m.disk ((m.steps c.request).take k) c.mishaps = true → ∀ t b,
        m.tornBy b c k = false → ∃ u, readTables (m.crashed c k) path = .ok (some u) ∧
          u.Agrees (m.persistedBy t c k)) := by
  unfold Mounted.crashed persistedBy tornBy
  rcases m.steps_take c.request k with hsteps | hsteps
  · rw [hsteps]
    exact ⟨h.prepared, nofun⟩
  · rw [hsteps, h.path_eq]
    obtain ⟨hprepared, -, hsaved⟩ := reads_after_steps htmp hbackup h.prepared
      (c.request.applied m.store.tables) k c.mishaps
    refine ⟨hprepared, fun hrenames t b hwhole => ?_⟩
    rw [if_pos hrenames] at hwhole ⊢
    exact ⟨_, hsaved hrenames hwhole, Snapshot.agrees_reread (Request.keyed_applied _ h.keyed)⟩

theorem Placed.after (h : Placed path m) (c : Call) : Placed path (m.after c) where
  path_eq := (path_after c).trans h.path_eq
  prepared := by
    rw [disk_after]
    exact (h.crashed htmp hbackup c _).1
  keyed := by
    rw [tables_after]
    exact Request.keyed_applied _ h.keyed

theorem Placed.intact (h : Placed path m) {c : Call}
    (hrenames : renames m.disk (m.steps c.request) c.mishaps = true) (t : Tables) (b : Bool) :
    Intact path (m.after c) (m.persistedBy t c (m.steps c.request).length)
      (m.tornBy b c (m.steps c.request).length) := by
  have hafter := h.after htmp hbackup c
  have hcrashed := (h.crashed htmp hbackup c (m.steps c.request).length).2
  rw [List.take_length, ← disk_after] at hcrashed
  refine ⟨hafter.path_eq, hafter.prepared, hcrashed hrenames t b, hafter.keyed, fun _ => ?_⟩
  rw [persistedBy, List.take_length, if_pos hrenames, tables_after]
  exact .refl _

theorem Placed.reads_renamed (h : Placed path m) {calls : List Call} {c : Call} {k : Nat}
    (hrenames : sometime renames m calls c k = true) (t : Tables) (b : Bool) :
    Prepared ((m.afterAll calls).crashed c k) path ∧
      ((m.afterAll calls).tornBy (m.torn b calls) c k = false →
        ∃ u, readTables ((m.afterAll calls).crashed c k) path = .ok (some u) ∧
          u.Agrees ((m.afterAll calls).persistedBy (persisted m t calls) c k)) := by
  induction calls generalizing m t b with
  | nil =>
      obtain ⟨hprepared, hreads⟩ := h.crashed htmp hbackup c k
      exact ⟨hprepared, hreads hrenames t b⟩
  | cons a calls ih =>
      rcases Bool.or_eq_true_iff.mp hrenames with hnow | hlater
      · exact ((h.intact htmp hbackup hnow t b).afterAll htmp hbackup calls).crashed htmp hbackup
          c k
      · exact ih (h.after htmp hbackup a) hlater _ _

end Calls

theorem spares_crashed (hnamed : Path.Named path) (htmp : Path.extension? path ≠ some "tmp")
    (hbackup : Path.extension? path ≠ some "backup") (hpath : m.store.path = path) {c : Call}
    {k : Nat} (h : backsUp m.disk ((m.steps c.request).take k) c.mishaps = false) :
    Spares m.disk (m.crashed c k) (Guarded m.disk path) := by
  unfold Mounted.crashed
  rcases m.steps_take c.request k with hsteps | hsteps
  · rw [hsteps]
    exact .refl _ _
  · rw [hsteps, hpath] at h ⊢
    exact spares_before_backUp (apart hnamed htmp hbackup) h

/-- As long as no saving comes to copying the file over its backup, both hold what they held. -/
theorem spares_afterAll (hnamed : Path.Named path) (htmp : Path.extension? path ≠ some "tmp")
    (hbackup : Path.extension? path ≠ some "backup") (hpath : m.store.path = path)
    {calls : List Call} {c : Call} {k : Nat} (h : sometime backsUp m calls c k = false) :
    Spares m.disk ((m.afterAll calls).crashed c k) (Guarded m.disk path) := by
  induction calls generalizing m with
  | nil => exact spares_crashed hnamed htmp hbackup hpath h
  | cons a calls ih =>
      obtain ⟨hnow, hlater⟩ := Bool.or_eq_false_iff.mp h
      rw [← List.take_length (l := m.steps a.request)] at hnow
      have hspares := spares_crashed hnamed htmp hbackup hpath hnow
      rw [← disk_after] at hspares
      exact hspares.guarded (ih ((path_after a).trans hpath) hlater)

/-- What was recovered stays when the backup was put back, and from the first later saving whose
renaming takes place, unless something went wrong unnoticed in the last such saving. Where putting
it back failed, it stays as long as no saving comes to copying the file, as it is, over the
backup. -/
theorem keeps_recovered {d d₁ : Disk} {path : String} {t : Tables}
    (htmp : Path.extension? path ≠ some "tmp") (hbackup : Path.extension? path ≠ some "backup")
    (hdirectory : prepareDirectory d path = .ok d₁) (hcorrupt : readTables d₁ path = .ok none)
    (hheld : held? d₁ (backup path) = some t) (mishap : Option Disk.Mishap) :
    ∃ m : Mounted, loadWith d path mishap = (.ok m.store, m.disk) ∧ m.store = served path t ∧
      (mishap = none → readTables m.disk path = .ok (some t)) ∧
      ∀ (calls : List Call) (c : Call) (k : Nat),
        (readTables m.disk path = .ok (some t) ∨ sometime renames m calls c k = true →
          (m.afterAll calls).tornBy (m.torn false calls) c k = false →
            ∃ u, FileStore.load ((m.afterAll calls).crashed c k) path =
                (.ok (served path u), (m.afterAll calls).crashed c k) ∧
              u.Agrees ((m.afterAll calls).persistedBy (persisted m t calls) c k)) ∧
        (readTables m.disk path = .ok none → sometime backsUp m calls c k = false →
          (FileStore.load ((m.afterAll calls).crashed c k) path).1 = .ok (served path t)) := by
  have hprepared := prepared_of_prepareDirectory hdirectory
  obtain ⟨bytes, hread⟩ := exists_read_of_corrupt hcorrupt
  have hnamed := named_of_read hread
  have hkeyed := keyed_of_readTables (readTables_of_held? hheld)
  let m : Mounted := ⟨(recover d₁ path mishap).2, served path t⟩
  have hkept : Spares d₁ m.disk fun place => d₁.locate (backup path) = .ok place :=
    spares_recover (apart hnamed htmp hbackup) mishap
  have hplaced : Placed path m := ⟨rfl, hprepared.of_read hread hkept.directories, hkeyed⟩
  refine ⟨m, ?_, rfl, ?_, fun calls c k => ⟨fun hsafe hwhole => ?_, fun hstill hspared => ?_⟩⟩
  · rw [loadWith_of_corrupt hdirectory hcorrupt, hheld]
    rfl
  · rintro rfl
    exact readTables_recover hprepared hcorrupt hheld
  · obtain ⟨hprepared', hreads⟩ : Prepared ((m.afterAll calls).crashed c k) path ∧
        ((m.afterAll calls).tornBy (m.torn false calls) c k = false →
          ∃ u, readTables ((m.afterAll calls).crashed c k) path = .ok (some u) ∧
            u.Agrees ((m.afterAll calls).persistedBy (persisted m t calls) c k)) := by
      rcases hsafe with hcopied | hrenames
      · have hintact : Intact path m t false :=
          ⟨rfl, hplaced.prepared, fun _ => ⟨t, hcopied, .refl t⟩, hkeyed, fun _ => .refl t⟩
        exact (hintact.afterAll htmp hbackup calls).crashed htmp hbackup c k
      · exact hplaced.reads_renamed htmp hbackup hrenames t false
    exact Intact.load hprepared' (hreads hwhole)
  · have hspares := spares_afterAll hnamed htmp hbackup hplaced.path_eq hspared
    have hsame := hkept.directories.trans hspares.directories
    have hheld' : held? m.disk (backup path) = some t :=
      (held?_congr hkept.directories hkept.node?).trans hheld
    rw [load_of_guarded hplaced.prepared (hprepared.of_read hread hsame) hspares,
      load_of_corrupt hplaced.prepared hstill, hheld']
    rfl

def cutShort : Disk :=
  backedUp "\x7b".toUTF8

theorem corrupt_cutShort : readTables cutShort "state.json" = .ok none :=
  readTables_of_read rfl (fromUTF8?_toUTF8 "\x7b")

theorem held?_cutShort :
    held? cutShort (backup "state.json") = some (Snapshot.reread onePackage) :=
  held?_of_content rfl

theorem loadWith_cutShort :
    loadWith cutShort "state.json" (some ⟨.noSpace, none, false⟩) =
      (.ok (served "state.json" (Snapshot.reread onePackage)), cutShort) := by
  rw [loadWith_of_corrupt (prepareDirectory_eq (prepared_of_bare rfl)) corrupt_cutShort,
    held?_cutShort, recover_of_nothing_left]
  rfl

def addRow : Call :=
  ⟨.putRow "crates.io" (.new "crates.io" .epoch), []⟩

theorem not_backsUp_cutShort (c : ByteArray) :
    backsUp cutShort ((saveSteps "state.json" c).take 3) [] = false :=
  rfl

theorem renames_cutShort (c : ByteArray) :
    renames cutShort ((saveSteps "state.json" c).take 5) [] = true :=
  rfl

/-- The backup is not put back for want of space. The next change is cut short before the copying
or comes to its end. -/
theorem keeps_recovered_noSpace :
    ∃ m : Mounted,
      loadWith cutShort "state.json" (some ⟨.noSpace, none, false⟩) = (.ok m.store, m.disk) ∧
      (FileStore.load (m.crashed addRow 3) "state.json").1 =
        .ok (served "state.json" (Snapshot.reread onePackage)) ∧
      ∃ u, FileStore.load (m.crashed addRow 5) "state.json" =
          (.ok (served "state.json" u), m.crashed addRow 5) ∧
        u.Agrees (m.persistedBy (Snapshot.reread onePackage) addRow 5) := by
  obtain ⟨m, hload, hstore, -, hkeeps⟩ := keeps_recovered (by decide) (by decide) rfl
    corrupt_cutShort held?_cutShort (some ⟨.noSpace, none, false⟩)
  have hdisk : m.disk = cutShort := congrArg Prod.snd (hload.symm.trans loadWith_cutShort)
  obtain ⟨disk, store⟩ := m
  subst hdisk hstore
  refine ⟨_, hload, (hkeeps [] addRow 3).2 corrupt_cutShort ?_,
    (hkeeps [] addRow 5).1 (.inr ?_) (Bool.eq_false_iff.mpr fun htorn => ?_)⟩
  · rw [sometime, steps_of_change _ rfl]
    exact not_backsUp_cutShort _
  · rw [sometime, steps_of_change _ rfl]
    exact renames_cutShort _
  · obtain ⟨mishap, hmishap, -⟩ := (exists_late_of_tornBy _ htorn).resolve_left Bool.false_ne_true
    cases hmishap

theorem load_of_copied (c : ByteArray) :
    (FileStore.load (runSteps cutShort ((saveSteps "state.json" c).take 4) []).2 "state.json").1 =
      .ok (served "state.json" .empty) := by
  generalize hd : (runSteps cutShort ((saveSteps "state.json" c).take 4) []).2 = d
  have hread : d.read "state.json" = .ok "\x7b".toUTF8 := hd ▸ rfl
  have hread' : d.read (backup "state.json") = .ok "\x7b".toUTF8 := hd ▸ rfl
  have hcorrupt : readTables d "state.json" = .ok none :=
    readTables_of_read hread (fromUTF8?_toUTF8 "\x7b")
  have hbackup : held? d (backup "state.json") = none := by
    rw [held?_of_read hread', decoded?, fromUTF8?_toUTF8]
    rfl
  rw [load_of_corrupt (prepared_of_bare rfl) hcorrupt, hbackup]
  rfl

/-- The next change copies the file, which is still cut short, over the backup, and everything
stops before the renaming. -/
theorem recovered_tables_are_lost :
    ∃ m : Mounted,
      loadWith cutShort "state.json" (some ⟨.noSpace, none, false⟩) = (.ok m.store, m.disk) ∧
      m.store = served "state.json" (Snapshot.reread onePackage) ∧
      (Snapshot.reread onePackage).row? "pypi.org" = some (.new "pypi.org" .epoch) ∧
      (FileStore.load (m.crashed addRow 4) "state.json").1 = .ok (served "state.json" .empty) := by
  refine ⟨⟨cutShort, served "state.json" (Snapshot.reread onePackage)⟩, loadWith_cutShort, rfl,
    row?_reread_onePackage, ?_⟩
  rw [Mounted.crashed, steps_of_change _ rfl]
  exact load_of_copied _

end Mounted

end NameScout
