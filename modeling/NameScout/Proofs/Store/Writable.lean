import NameScout.Proofs.Store.Neighbours
import NameScout.Proofs.Store.Reliable
import NameScout.Proofs.Store.Request

namespace NameScout

namespace Disk

variable {d d' : Disk} {path other : String}

def Writable (d : Disk) (path : String) : Prop :=
  ∃ place, d.locate path = .ok place ∧ d.node? place ≠ some .directory ∧
    Path.wantsDirectory path = false

structure Fills (d d' : Disk) : Prop where
  directories : SameDirectories d d'
  file : ∀ place c, d.node? place = some (.file c) → ∃ c', d'.node? place = some (.file c')

theorem Fills.refl (d : Disk) : Fills d d :=
  ⟨.refl d, fun _ c h => ⟨c, h⟩⟩

theorem Writable.of_sameDirectories (h : d.Writable path) (hsame : SameDirectories d d') :
    d'.Writable path := by
  obtain ⟨place, hplace, hnode, hwants⟩ := h
  have hplace' := hsame.grows.locate hplace
  refine ⟨place, hplace', fun hdirectory => hnode ?_, hwants⟩
  exact (hsame.symm.grows _ ((reached_of_locate hplace').open hdirectory)).node?

theorem Writable.named (h : d.Writable path) : Path.Named path := by
  obtain ⟨place, hplace, hnode, -⟩ := h
  exact Classical.byContradiction fun hnot =>
    hnode (FileStore.node?_of_not_named hnot hplace)

theorem fills_write {c : ByteArray} (h : d.write path c = .ok d') : Fills d d' := by
  refine ⟨FileStore.sameDirectories_write h, fun place c' hfile => ?_⟩
  obtain ⟨p, -, hnode, -, rfl⟩ := write_eq_ok_iff.mp h
  rw [node?_put _ (ne_nil_of_node? hnode)]
  split
  · exact ⟨c, rfl⟩
  · exact ⟨c', hfile⟩

theorem Writable.write (h : d.Writable path) (c : ByteArray) :
    ∃ d', d.write path c = .ok d' ∧ d'.read path = .ok c := by
  obtain ⟨place, hplace, hnode, hwants⟩ := h
  have hwrite : d.write path c = .ok (d.put place (.file c)) :=
    write_eq_ok_iff.mpr ⟨place, hplace, hnode, hwants, rfl⟩
  refine ⟨_, hwrite, read_eq_ok_iff.mpr ⟨place, ?_, ?_, hwants⟩⟩
  · exact (FileStore.sameDirectories_write hwrite).grows.locate hplace
  · rw [node?_put _ (ne_nil_of_node? hnode), if_pos rfl]

theorem Fills.read (h : Fills d d') {c : ByteArray} (hread : d.read path = .ok c) :
    ∃ c', d'.read path = .ok c' := by
  obtain ⟨place, hplace, hfile, hwants⟩ := read_eq_ok_iff.mp hread
  obtain ⟨c', hfile'⟩ := h.file place c hfile
  exact ⟨c', read_eq_ok_iff.mpr ⟨place, h.directories.grows.locate hplace, hfile', hwants⟩⟩

theorem Writable.rename (h : d.Writable path) {c : ByteArray} (hread : d.read other = .ok c) :
    ∃ d', d.rename other path = .ok d' ∧ SameDirectories d d' := by
  have hnamed := h.named
  obtain ⟨place, hplace, hnode, hwants⟩ := h
  obtain ⟨origin, horigin, hfile, -⟩ := read_eq_ok_iff.mp hread
  have hdot : ¬ (Path.endsInDot path = true ∨ (Path.steps path).getLast? = some "..") := by
    rintro (hends | hup)
    · exact hnode ((locate_eq_ok_iff.mp hplace).2.2 hends)
    · rw [Path.steps_of_named hnamed, List.getLast?_concat, Option.some.injEq] at hup
      apply hnamed.2.2
      rw [← String.toList_ofList (l := Path.last path), hup]
      rfl
  have hrename := rename_of_file hread horigin hplace
  rw [if_neg hdot, if_neg (by simp [hwants])] at hrename
  split at hrename
  · rename_i hdirectory
    exact absurd hdirectory hnode
  · split at hrename
    · exact ⟨d, hrename, .refl d⟩
    · have horigin' : origin ≠ [] := ne_nil_of_node? (by rw [hfile]; simp)
      exact ⟨_, hrename, (sameDirectories_remove hfile).trans
        (sameDirectories_put_file c (node?_remove_ne horigin' hnode))⟩

end Disk

namespace FileStore

open Disk

variable {d d' : Disk} {path : String}

def Clear (d : Disk) (path : String) : Prop :=
  d.Writable (temporary path) ∧ d.Writable path

theorem runSteps_cons_of_ok {s : Step} {failure : Option (FileAct × String)}
    {steps : List SaveStep} (h : d.perform s = .ok d') :
    runSteps d (⟨s, failure⟩ :: steps) [] = runSteps d' steps [] := by
  rw [runSteps]
  simp only [List.headD_nil, SaveStep.run, h, List.tail_nil]

theorem runSteps_cons_of_tolerated {s : SaveStep} {steps : List SaveStep}
    (h : s.failure = none) : runSteps d (s :: steps) [] = runSteps (s.run d none).2 steps [] := by
  rw [runSteps]
  have hok : (s.run d none).1 = .ok () := by
    rw [SaveStep.run]
    split
    · rfl
    · rw [SaveStep.outcome, h]
  simp only [List.headD_nil, List.tail_nil]
  rw [show s.run d none = (.ok (), (s.run d none).2) from Prod.ext hok rfl]

theorem Clear.save (h : Clear d path) (c : ByteArray) :
    ∃ d', runSteps d (saveSteps path c) [] = (.ok (), d') ∧ Clear d' path := by
  obtain ⟨d₁, hcreate, -⟩ := h.1.write .empty
  have hsame₁ := sameDirectories_write hcreate
  obtain ⟨d₂, hwrite, hread⟩ := (h.1.of_sameDirectories hsame₁).write c
  have hsame₂ := hsame₁.trans (sameDirectories_write hwrite)
  -- The copy to the backup may fail; whatever it does, the temporary file can still be read.
  let backUp : SaveStep := ⟨.backUp path (backup path), none⟩
  have hfills : Fills d₂ (backUp.run d₂ none).2 := by
    rcases run_eq_or_write (s := backUp) (by simp [backUp]) none with hrun | ⟨q, c, -, hw⟩
    · rw [hrun]
      exact .refl d₂
    · exact fills_write hw
  have hsame₃ := hsame₂.trans hfills.directories
  obtain ⟨c', hread'⟩ := hfills.read hread
  obtain ⟨d₄, hrename, hsame₄⟩ := (h.2.of_sameDirectories hsame₃).rename hread'
  have hsame := hsame₃.trans hsame₄
  refine ⟨d₄, ?_, h.1.of_sameDirectories hsame, h.2.of_sameDirectories hsame⟩
  replace hcreate : d.perform (.create (temporary path)) = .ok d₁ := hcreate
  replace hwrite : d₁.perform (.write (temporary path) c) = .ok d₂ := hwrite
  replace hrename : (backUp.run d₂ none).2.perform (.rename (temporary path) path) = .ok d₄ :=
    hrename
  have hsync : d₂.perform (.sync (temporary path)) = .ok d₂ := rfl
  rw [saveSteps, runSteps_cons_of_ok hcreate, runSteps_cons_of_ok hwrite, runSteps_cons_of_ok hsync,
    runSteps_cons_of_tolerated rfl, runSteps_cons_of_ok hrename]
  rfl

end FileStore

namespace Mounted

def unhindered : StoreView Mounted where
  Sound m := FileStore.Clear m.disk m.store.path
  tables m := m.store.tables

variable {m : Mounted}

theorem path_saved (m : Mounted) (t : Tables) (mishaps : List (Option Disk.Mishap)) :
    (m.saved t mishaps).2.store.path = m.store.path :=
  rfl

theorem tables_unhindered (m : Mounted) : unhindered.tables m = m.store.tables :=
  rfl

theorem saved_of_clear (h : unhindered.Sound m) (t : Tables) :
    (m.saved t []).1 = .ok () ∧ unhindered.Sound (m.saved t []).2 := by
  have hclear : FileStore.Clear m.disk m.store.path := h
  obtain ⟨d', hrun, hclear'⟩ := hclear.save (FileStore.content t)
  rw [runSteps_saved, Prod.mk.injEq] at hrun
  obtain ⟨hok, rfl⟩ := hrun
  refine ⟨hok, ?_⟩
  change FileStore.Clear (m.saved t []).2.disk (m.saved t []).2.store.path
  rw [path_saved]
  exact hclear'

theorem follows_answer {α : Type} (f : Tables → α) :
    unhindered.Follows (answer f) (Tables.answer f) :=
  fun m hm => ⟨m, rfl, hm, rfl⟩

theorem follows_change {α : Type} (c : Tables.Change α) :
    unhindered.Follows (change [] c) (Tables.change c) := by
  intro m hm
  obtain ⟨hok, hsound⟩ := saved_of_clear hm (c m.store.tables).2
  refine ⟨(m.saved (c m.store.tables).2 []).2, ?_, hsound, ?_⟩
  · rw [run_change, hok]
    rfl
  · rw [tables_unhindered, tables_saved]
    rfl

theorem follows_flush : unhindered.Follows (flush []) (pure ()) := by
  intro m hm
  rw [run_flush]
  split
  · obtain ⟨hok, hsound⟩ := saved_of_clear hm m.store.tables
    refine ⟨(m.saved m.store.tables []).2, ?_, hsound, ?_⟩
    · change m.saved m.store.tables [] = (.ok (), (m.saved m.store.tables []).2)
      rw [← hok]
    · rw [tables_unhindered, tables_saved]
      rfl
  · exact ⟨m, rfl, hm, rfl⟩

theorem reliable_unhindered : unhindered.Reliable where
  row? _ := follows_answer _
  putRow _ _ := follows_change _
  listRows _ := follows_answer _
  eraseRow _ := follows_change _
  eraseRows _ := follows_change _
  live? _ _ := follows_answer _
  putEntry _ := follows_change _
  purge _ := follows_change _
  flush := follows_flush

end Mounted

end NameScout
