import NameScout.Proofs.Store.Saving

namespace NameScout.FileStore

open Disk

variable {d d' : Disk} {path : String}

theorem fromUTF8?_toUTF8 (s : String) : String.fromUTF8? s.toUTF8 = some s :=
  dif_pos s.isValidUTF8

theorem read_of_locate {place : List String} (h : d.locate path = .ok place) :
    d.read path = match d.node? place with
      | none => .error .notFound
      | some .directory => .error .isDirectory
      | some (.file c) => if Path.wantsDirectory path then .error .notDirectory else .ok c := by
  rw [Disk.read, h]
  rfl

theorem readTables_congr (hsame : SameDirectories d d')
    (hnode : ∀ place, d.locate path = .ok place → d'.node? place = d.node? place) :
    readTables d' path = readTables d path := by
  cases h : d.locate path with
  | error e =>
      cases h' : d'.locate path with
      | error e' => simp [readTables, exists?, h, h']
      | ok place =>
          rw [hsame.symm.grows.locate h'] at h
          cases h
  | ok place =>
      have h' := hsame.grows.locate h
      simp only [readTables, exists?, readText, read_of_locate h, read_of_locate h', h, h',
        hnode place h]

theorem readTables_of_read {c : ByteArray} {text : String} (hread : d.read path = .ok c)
    (htext : String.fromUTF8? c = some text) :
    readTables d path = .ok (Snapshot.parse? text) := by
  obtain ⟨place, hplace, hnode, hwants⟩ := read_eq_ok_iff.mp hread
  have hexists : d.exists? path = true := by simp [exists?, hplace, hnode, hwants]
  rw [readTables, if_pos hexists, readText, hread, ok_bind, htext]
  rfl

theorem readTables_of_content {place : List String} {t : Tables}
    (hplace : d.locate path = .ok place) (hnode : d.node? place = some (.file (content t)))
    (hwants : Path.wantsDirectory path = false) :
    readTables d path = .ok (some (Snapshot.reread t)) := by
  rw [readTables_of_read (read_eq_ok_iff.mpr ⟨place, hplace, hnode, hwants⟩)
    (fromUTF8?_toUTF8 (Snapshot.render t)), Snapshot.parse?_render]

theorem read_of_readTables {found : Option Tables} (hexists : d.exists? path = true)
    (h : readTables d path = .ok found) :
    ∃ c text, d.read path = .ok c ∧ String.fromUTF8? c = some text ∧
      Snapshot.parse? text = found := by
  rw [readTables, if_pos hexists, readText] at h
  cases hread : d.read path with
  | error e =>
      rw [hread] at h
      cases h
  | ok c =>
      rw [hread, ok_bind] at h
      cases htext : String.fromUTF8? c with
      | none =>
          rw [htext] at h
          cases h
      | some text =>
          rw [htext] at h
          exact ⟨c, text, rfl, htext, Except.ok.inj h⟩

/-- The directory of a state file is there, if it has one. -/
def Prepared (d : Disk) (path : String) : Prop :=
  ∀ dir, Path.parent? path = some dir → dir = "" ∨ d.exists? dir = true

theorem prepareDirectory_eq (h : Prepared d path) : prepareDirectory d path = .ok d := by
  unfold prepareDirectory
  split
  · rfl
  · rename_i dir hdir
    exact if_pos (h dir hdir)

theorem prepared_of_prepareDirectory (h : prepareDirectory d path = .ok d') : Prepared d' path := by
  intro dir hdir
  unfold prepareDirectory at h
  rw [hdir] at h
  simp only at h
  split at h
  · rename_i hthere
    cases h
    exact hthere
  · rename_i hnot
    split at h
    · rename_i hmake
      cases h
      exact .inr (exists?_of_isDirectory
        (isDirectory_of_makeDirectories (fun heq => hnot (.inl heq)) hmake))
    · cases h

theorem load_eq (hprepared : Prepared d path) {t : Tables}
    (hread : readTables d path = .ok (some t)) :
    load d path = (.ok { path, tables := t, dirty := false }, d) := by
  rw [load, loadWith, prepareDirectory_eq hprepared]
  simp only [openTables, hread]
  rfl

theorem Prepared.of_home (h : Prepared d path) (hsame : SameDirectories d d')
    {home : List String} (hhome : (Path.stepsOf (Path.before path)).foldlM d.enter [] = .ok home)
    (hopen : d.Open home) : Prepared d' path := by
  intro dir hdir
  refine (h dir hdir).imp_right fun hexists => ?_
  unfold exists? at hexists
  cases hplace : d.locate dir with
  | error e =>
      rw [hplace] at hexists
      cases hexists
  | ok place =>
      obtain ⟨-, hwalk, -⟩ := locate_eq_ok_iff.mp hplace
      rw [Path.steps_parent? hdir, hhome] at hwalk
      cases hwalk
      exact exists?_of_isDirectory
        (hsame.grows.isDirectory (isDirectory_eq_true_iff.mpr ⟨home, hplace, hopen⟩))

theorem named_of_read {c : ByteArray} (h : d.read path = .ok c) : Path.Named path := by
  obtain ⟨place, hplace, hnode, -⟩ := read_eq_ok_iff.mp h
  refine Classical.byContradiction fun hnot => ?_
  rw [node?_of_not_named hnot hplace] at hnode
  cases hnode

theorem Prepared.of_read (h : Prepared d path) {c : ByteArray} (hread : d.read path = .ok c)
    (hsame : SameDirectories d d') : Prepared d' path := by
  have hnamed := named_of_read hread
  obtain ⟨place, hplace, -⟩ := read_eq_ok_iff.mp hread
  obtain ⟨home, hhome, hopen, -⟩ := exists_home (Path.steps_of_named hnamed) hnamed.2.2 hplace
  exact h.of_home hsame hhome hopen

theorem Prepared.of_sameDirectories (h : Prepared d path) (hsame : SameDirectories d d')
    (hnamed : Path.Named path) {p : List String} (hp : d.locate (temporary path) = .ok p) :
    Prepared d' path := by
  have htmp : Path.steps (temporary path) = Path.stepsOf (Path.before path) ++
      [String.ofList (Path.renamed path "tmp")] := Path.steps_withExtension hnamed (by decide)
  obtain ⟨home, hhome, hopen, -⟩ := exists_home htmp (renamed_ne_up path (by decide)) hp
  exact h.of_home hsame hhome hopen

section Again

theorem readTables_of_putBack (hprepared : Prepared d path) (hpath : readTables d path = .ok none)
    (hexists : d.exists? (backup path) = true) {t : Tables}
    (hbackup : readTables d (backup path) = .ok (some t))
    (h : d.copy (backup path) path = .ok d') :
    Prepared d' path ∧ readTables d' path = .ok (some t) := by
  have hthere : d.exists? path = true := by
    cases hnot : d.exists? path with
    | true => rfl
    | false =>
        rw [readTables, hnot] at hpath
        cases hpath
  obtain ⟨c, text, hread, htext, hparse⟩ := read_of_readTables hthere hpath
  obtain ⟨c', text', hread', htext', hparse'⟩ := read_of_readTables hexists hbackup
  obtain ⟨place, hplace, hnode, hwants⟩ := read_eq_ok_iff.mp hread
  obtain ⟨origin, horigin, hnode', -⟩ := read_eq_ok_iff.mp hread'
  have hne : origin ≠ place := by
    rintro rfl
    rw [hnode] at hnode'
    cases hnode'
    rw [htext] at htext'
    cases htext'
    rw [hparse] at hparse'
    cases hparse'
  rw [copy, hread', horigin, hplace] at h
  simp only [ok_bind, if_neg hne] at h
  have hsame := sameDirectories_write h
  refine ⟨hprepared.of_read hread hsame, ?_⟩
  obtain ⟨p, hp, hfree, -, rfl⟩ := write_eq_ok_iff.mp h
  rw [hplace] at hp
  cases hp
  have hcontent : (d.put place (.file c')).node? place = some (.file c') := by
    rw [node?_put _ (ne_nil_of_node? hfree), if_pos rfl]
  rw [readTables_of_read (read_eq_ok_iff.mpr ⟨place, hsame.grows.locate hplace, hcontent, hwants⟩)
    htext', hparse']

theorem of_recover {t : Tables} (h : recover d path none = (t, d')) :
    d' = d ∨ d.exists? (backup path) = true ∧ readTables d (backup path) = .ok (some t) ∧
      d.copy (backup path) path = .ok d' := by
  unfold recover at h
  split at h
  · rename_i hexists
    split at h
    · rename_i tables hbackup
      rw [Prod.mk.injEq] at h
      obtain ⟨rfl, rfl⟩ := h
      simp only [SaveStep.run, perform, if_pos hexists]
      cases hcopy : d.copy (backup path) path with
      | error e => exact .inl rfl
      | ok d₁ => exact .inr ⟨hexists, hbackup, rfl⟩
    · exact .inl (congrArg Prod.snd h).symm
  · exact .inl (congrArg Prod.snd h).symm

theorem openTables_again (hprepared : Prepared d path) {t : Tables}
    (h : openTables d path none = (.ok t, d')) :
    Prepared d' path ∧ openTables d' path none = (.ok t, d') := by
  cases hread : readTables d path with
  | error e =>
      rw [openTables, hread] at h
      cases h
  | ok found =>
      cases found with
      | some tables =>
          obtain rfl : d = d' := by
            rw [openTables, hread] at h
            exact congrArg Prod.snd h
          exact ⟨hprepared, h⟩
      | none =>
          have hrecover : recover d path none = (t, d') := by
            rw [openTables, hread, Prod.mk.injEq] at h
            exact Prod.ext (Except.ok.inj h.1) h.2
          rcases of_recover hrecover with rfl | ⟨hexists, hbackup, hcopy⟩
          · exact ⟨hprepared, h⟩
          · obtain ⟨hprepared', hread'⟩ :=
              readTables_of_putBack hprepared hread hexists hbackup hcopy
            exact ⟨hprepared', by rw [openTables, hread']⟩

theorem of_load {s : FileStore} (h : load d path = (.ok s, d')) :
    ∃ d₁ t, prepareDirectory d path = .ok d₁ ∧ openTables d₁ path none = (.ok t, d') ∧
      s = { path, tables := t, dirty := false } := by
  rw [load, loadWith] at h
  cases hprepare : prepareDirectory d path with
  | error e =>
      rw [hprepare] at h
      cases h
  | ok d₁ =>
      rw [hprepare] at h
      cases hopen : (openTables d₁ path none).1 with
      | error e =>
          simp only [hopen] at h
          cases h
      | ok t =>
          simp only [hopen, Prod.mk.injEq] at h
          exact ⟨d₁, t, rfl, Prod.ext hopen h.2, (Except.ok.inj h.1).symm⟩

theorem load_again {s : FileStore} (h : load d path = (.ok s, d')) :
    Prepared d' path ∧ load d' path = (.ok s, d') := by
  obtain ⟨d₁, t, hprepare, hopen, rfl⟩ := of_load h
  obtain ⟨hprepared, hagain⟩ := openTables_again (prepared_of_prepareDirectory hprepare) hopen
  refine ⟨hprepared, ?_⟩
  rw [load, loadWith, prepareDirectory_eq hprepared]
  simp only [hagain]
  rfl

end Again

section Saving

theorem runSteps_of_stuck {c : ByteArray}
    (h : ∀ p, d.locate (temporary path) = .ok p → d.node? p = some .directory) (k : Nat)
    (mishaps : List (Option Mishap)) :
    (runSteps d ((saveSteps path c).take k) mishaps).2 = d ∧
      renames d ((saveSteps path c).take k) mishaps = false := by
  cases k with
  | zero => exact ⟨rfl, rfl⟩
  | succ k =>
      have hwrite : ∀ c d', d.write (temporary path) c ≠ .ok d' := by
        intro c d' hw
        obtain ⟨p, hp, hnode, -⟩ := write_eq_ok_iff.mp hw
        exact hnode (h p hp)
      let create : SaveStep := ⟨.create (temporary path), some (.create, temporary path)⟩
      have hdisk : (create.run d (mishaps.headD none)).2 = d := by
        rcases run_eq_or_write (s := create) (by simp [create]) (mishaps.headD none) with
          hrun | ⟨q, c', hq, hw⟩
        · exact hrun
        · cases hq
          exact absurd hw (hwrite _ _)
      have hsteps : (saveSteps path c).take (k + 1) =
          create :: ((saveSteps path c).drop 1).take k := rfl
      rw [hsteps, runSteps, renames]
      rcases hrun : create.run d (mishaps.headD none) with ⟨_ | _, d₁⟩
      · rw [hrun] at hdisk
        exact ⟨hdisk, rfl⟩
      · exact absurd (run_of_necessary rfl (any_misses_eq_false (by simp [create]) _) hrun)
          (hwrite _ _)

theorem renames_saveSteps (c : ByteArray) (mishaps : List (Option Mishap)) :
    renames d (saveSteps path c) mishaps = (runSteps d (saveSteps path c) mishaps).1.isOk := by
  rw [saveSteps_eq, renames_append, runSteps_append,
    renames_of_none fun s hs => isRename_of_mem_preparing hs, Bool.false_or]
  rcases runSteps d (preparing path c) mishaps with ⟨_ | _, d₁⟩
  · rfl
  · simp only [renames_single, runSteps_single]
    exact Bool.and_true _

theorem reads_of_spares (hprepared : Prepared d path) (hnamed : Path.Named path) {p : List String}
    (hp : d.locate (temporary path) = .ok p)
    (h : Spares d d' fun place => d.locate path = .ok place) :
    Prepared d' path ∧ readTables d' path = readTables d path :=
  ⟨hprepared.of_sameDirectories h.directories hnamed hp, readTables_congr h.directories h.node?⟩

theorem named_of_temporary {p : List String} (hp : d.locate (temporary path) = .ok p)
    (hnode : d.node? p ≠ some .directory) : Path.Named path := by
  refine Classical.byContradiction fun hnot => hnode ?_
  have hpath : temporary path = path := Path.withExtension_of_not_named hnot "tmp"
  exact node?_of_not_named hnot (hpath ▸ hp)

theorem spares_of_failed {c : ByteArray} (hapart : Apart d path) {mishaps : List (Option Mishap)}
    {e : Failure} (h : runSteps d (saveSteps path c) mishaps = (.error e, d')) :
    Spares d d' fun place => d.locate path = .ok place := by
  have hspares := spares_preparing hapart (fun s (hs : s ∈ preparing path c) => hs) mishaps
  rw [saveSteps_eq, runSteps_append] at h
  rcases hprepare : runSteps d (preparing path c) mishaps with ⟨e' | _, d₁⟩
  · rw [hprepare] at h hspares
    cases h
    exact hspares
  · rw [hprepare] at h hspares
    simp only [runSteps_single] at h
    cases run_rename_error h
    exact hspares

theorem reads_of_saved (htmp : Path.extension? path ≠ some "tmp")
    (hbackup : Path.extension? path ≠ some "backup") (hprepared : Prepared d path) {t : Tables}
    {mishaps : List (Option Mishap)}
    (h : runSteps d (saveSteps path (content t)) mishaps = (.ok (), d')) :
    Prepared d' path ∧ (misses (saveSteps path (content t)) mishaps = false →
      readTables d' path = .ok (some (Snapshot.reread t))) := by
  obtain ⟨d₀, hcreate, -⟩ := runSteps_cons_ok h
  have hcreate : d.write (temporary path) .empty = .ok d₀ := run_of_necessary rfl
    (any_misses_eq_false (by simp) _) hcreate
  obtain ⟨p, hp, hnode, -⟩ := write_eq_ok_iff.mp hcreate
  have hnamed := named_of_temporary hp hnode
  have hapart : Apart d path := apart hnamed htmp hbackup
  have hspares : Spares d (runSteps d (preparing path (content t)) mishaps).2
      fun place => d.locate path = .ok place :=
    spares_preparing hapart (fun s hs => hs) mishaps
  rw [saveSteps_eq, runSteps_append] at h
  rcases hprepare : runSteps d (preparing path (content t)) mishaps with ⟨e | _, d₁⟩
  · rw [hprepare] at h
    cases h
  · rw [hprepare] at h hspares
    obtain ⟨q, c, hq, hcontent, hwhole⟩ := content_of_preparing hapart hprepare
    simp only [runSteps_single] at h
    have hrename : d₁.rename (temporary path) path = .ok d' := run_of_necessary rfl
      (any_misses_eq_false (by simp [replacing]) _) h
    have hapart₁ := hapart.of_sameDirectories hspares.directories
    obtain ⟨hsame, place, hplace, hnode, hwants⟩ := replaced hapart₁ hq hcontent hrename
    refine ⟨hprepared.of_sameDirectories (hspares.directories.trans hsame) hnamed hp,
      fun hseen => ?_⟩
    rw [hwhole hseen] at hnode
    exact readTables_of_content (hsame.grows.locate hplace) hnode hwants

/-- Whatever goes wrong in saving and wherever it is cut short, the file holds what it held
before, or, from the renaming on, what was saved, unless something went wrong unnoticed. -/
theorem reads_after_steps (htmp : Path.extension? path ≠ some "tmp")
    (hbackup : Path.extension? path ≠ some "backup") (hprepared : Prepared d path) (t : Tables)
    (k : Nat) (mishaps : List (Option Mishap)) :
    Prepared (runSteps d ((saveSteps path (content t)).take k) mishaps).2 path ∧
      (renames d ((saveSteps path (content t)).take k) mishaps = false →
        readTables (runSteps d ((saveSteps path (content t)).take k) mishaps).2 path =
          readTables d path) ∧
      (renames d ((saveSteps path (content t)).take k) mishaps = true →
        misses ((saveSteps path (content t)).take k) mishaps = false →
          readTables (runSteps d ((saveSteps path (content t)).take k) mishaps).2 path =
            .ok (some (Snapshot.reread t))) := by
  by_cases hstuck : ∀ p, d.locate (temporary path) = .ok p → d.node? p = some .directory
  · obtain ⟨hdisk, hrenames⟩ := runSteps_of_stuck (c := content t) hstuck k mishaps
    rw [hdisk, hrenames]
    exact ⟨hprepared, fun _ => rfl, nofun⟩
  obtain ⟨p, hp⟩ := Classical.not_forall.mp hstuck
  obtain ⟨hp, hnode⟩ := Classical.not_imp.mp hp
  have hnamed := named_of_temporary hp hnode
  have hapart : Apart d path := apart hnamed htmp hbackup
  rcases take_saveSteps path (content t) k with ⟨j, hj⟩ | hall
  · rw [hj, renames_of_none fun s hs => isRename_of_mem_preparing (List.mem_of_mem_take hs)]
    obtain ⟨hprepared', hread⟩ := reads_of_spares hprepared hnamed hp
      (spares_preparing hapart (fun s hs => List.mem_of_mem_take hs) mishaps)
    exact ⟨hprepared', fun _ => hread, nofun⟩
  rw [hall, renames_saveSteps]
  rcases hsave : runSteps d (saveSteps path (content t)) mishaps with ⟨e | _, d₁⟩
  · obtain ⟨hprepared', hread⟩ :=
      reads_of_spares hprepared hnamed hp (spares_of_failed hapart hsave)
    exact ⟨hprepared', fun _ => hread, nofun⟩
  · obtain ⟨hprepared', hread⟩ := reads_of_saved htmp hbackup hprepared hsave
    exact ⟨hprepared', nofun, fun _ => hread⟩

end Saving

end NameScout.FileStore
