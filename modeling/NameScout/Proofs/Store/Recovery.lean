import NameScout.Proofs.Store.Reopening

namespace NameScout.FileStore

variable {d d₁ : Disk} {path : String}

def decoded? (bytes : ByteArray) : Option Tables :=
  (String.fromUTF8? bytes).bind Snapshot.parse?

/-- The tables of a file that is there, can be read and decodes. -/
def held? (d : Disk) (path : String) : Option Tables :=
  (d.read path).toOption.bind decoded?

def served (path : String) (t : Tables) : FileStore :=
  { path, tables := t, dirty := false }

theorem exists?_of_read {c : ByteArray} (h : d.read path = .ok c) : d.exists? path = true := by
  obtain ⟨place, hplace, hnode, hwants⟩ := Disk.read_eq_ok_iff.mp h
  simp [Disk.exists?, hplace, hnode, hwants]

theorem held?_of_read {c : ByteArray} (h : d.read path = .ok c) : held? d path = decoded? c := by
  rw [held?, h]
  rfl

theorem held?_of_content {t : Tables} (h : d.read path = .ok (content t)) :
    held? d path = some (Snapshot.reread t) := by
  rw [held?_of_read h, decoded?, content, fromUTF8?_toUTF8, Option.bind_some,
    Snapshot.parse?_render]

theorem readTables_of_missing (h : d.exists? path = false) :
    readTables d path = .ok (some .empty) := by
  simp [readTables, h]

theorem readTables_of_text {c : ByteArray} {text : String} (hread : d.read path = .ok c)
    (htext : String.fromUTF8? c = some text) : readTables d path = .ok (held? d path) := by
  rw [readTables_of_read hread htext, held?_of_read hread, decoded?, htext]
  rfl

theorem readTables_of_noText {c : ByteArray} (hread : d.read path = .ok c)
    (htext : String.fromUTF8? c = none) :
    readTables d path = .error (.store (.disk .read path .notText)) := by
  rw [readTables, if_pos (exists?_of_read hread), Disk.readText, hread, Disk.ok_bind, htext]
  rfl

theorem readTables_of_unreadable {e : DiskError} (hexists : d.exists? path = true)
    (hread : d.read path = .error e) : ∃ failure, readTables d path = .error failure := by
  rw [readTables, if_pos hexists, Disk.readText, hread]
  exact ⟨_, rfl⟩

theorem held?_of_missing (h : d.exists? path = false) : held? d path = none := by
  cases hread : d.read path with
  | error e =>
    rw [held?, hread]
    rfl
  | ok c =>
    rw [exists?_of_read hread] at h
    cases h

theorem tables_recover (mishap : Option Disk.Mishap) :
    (recover d path mishap).1 = (held? d (backup path)).getD .empty := by
  unfold recover
  split
  · rename_i hexists
    cases hread : d.read (backup path) with
    | error e =>
      obtain ⟨failure, hfailure⟩ := readTables_of_unreadable hexists hread
      simp [hfailure, held?, hread, Except.toOption]
    | ok c =>
      cases htext : String.fromUTF8? c with
      | none =>
        simp [readTables_of_noText hread htext, held?_of_read hread, decoded?, htext]
      | some text =>
        rw [readTables_of_text hread htext]
        cases held? d (backup path) <;> rfl
  · rename_i hmissing
    rw [held?_of_missing (Bool.eq_false_iff.mpr hmissing)]
    rfl

theorem openTables_of_readTables {found : Option Tables} (h : readTables d path = .ok found)
    (mishap : Option Disk.Mishap) :
    (openTables d path mishap).1 = .ok ((found.or (held? d (backup path))).getD .empty) := by
  cases found with
  | some t =>
    rw [openTables, h, Option.some_or, Option.getD_some]
  | none =>
    rw [openTables, h, Option.none_or, ← tables_recover mishap]

theorem loadWith_eq (hdirectory : prepareDirectory d path = .ok d₁)
    (mishap : Option Disk.Mishap) :
    (loadWith d path mishap).1 = (openTables d₁ path mishap).1.map (served path) := by
  rw [loadWith, hdirectory]
  rfl

theorem loadWith_of_corrupt (hdirectory : prepareDirectory d path = .ok d₁)
    (hcorrupt : readTables d₁ path = .ok none) (mishap : Option Disk.Mishap) :
    loadWith d path mishap = (.ok (served path ((held? d₁ (backup path)).getD .empty)),
      (recover d₁ path mishap).2) := by
  rw [loadWith, hdirectory]
  simp only [openTables, hcorrupt, tables_recover]
  rfl

theorem load_of_corrupt (hprepared : Prepared d path) (hcorrupt : readTables d path = .ok none) :
    (load d path).1 = .ok (served path ((held? d (backup path)).getD .empty)) :=
  congrArg Prod.fst (loadWith_of_corrupt (prepareDirectory_eq hprepared) hcorrupt none)

/-- A state file that is a text is opened or recovered from its backup, and the store is empty
where neither decodes. A state file that is no text is not opened, whatever the backup holds. -/
theorem recovers_unless_noText (hdirectory : prepareDirectory d path = .ok d₁)
    (mishap : Option Disk.Mishap) :
    (d₁.exists? path = false → (loadWith d path mishap).1 = .ok (served path .empty)) ∧
      ∀ bytes, d₁.read path = .ok bytes →
        ((∃ text, String.fromUTF8? bytes = some text) → (loadWith d path mishap).1 =
          .ok (served path (((decoded? bytes).or (held? d₁ (backup path))).getD .empty))) ∧
        (String.fromUTF8? bytes = none → (loadWith d path mishap).1 =
          .error (.store (.disk .read path .notText))) := by
  rw [loadWith_eq hdirectory]
  refine ⟨fun hmissing => ?_, fun bytes hread => ⟨fun ⟨text, htext⟩ => ?_, fun htext => ?_⟩⟩
  · rw [openTables_of_readTables (readTables_of_missing hmissing), Option.some_or]
    rfl
  · rw [openTables_of_readTables (readTables_of_text hread htext), held?_of_read hread]
    rfl
  · rw [openTables, readTables_of_noText hread htext]
    rfl

def onePackage : Tables :=
  Tables.empty.putRow "pypi.org" (.new "pypi.org" .epoch)

theorem row?_reread_onePackage :
    (Snapshot.reread onePackage).row? "pypi.org" = some (.new "pypi.org" .epoch) := by
  have hkeyed : onePackage.Keyed := Tables.keyed_empty
  rw [(Snapshot.agrees_reread hkeyed).row?]
  rfl

theorem prepared_of_bare (h : Path.parent? path = some "") : Prepared d path := by
  intro dir hdir
  rw [h] at hdir
  cases hdir
  exact .inl rfl

def backedUp (bytes : ByteArray) : Disk :=
  (Disk.empty.put ["state.json"] (.file bytes)).put ["state.backup"] (.file (content onePackage))

theorem recovers_unless_noText_truncated :
    (load (backedUp "\x7b".toUTF8) "state.json").1 =
      .ok (served "state.json" (Snapshot.reread onePackage)) := by
  have hdirectory : prepareDirectory (backedUp "\x7b".toUTF8) "state.json" =
    .ok (backedUp "\x7b".toUTF8) := rfl
  have hread : (backedUp "\x7b".toUTF8).read "state.json" = .ok "\x7b".toUTF8 := rfl
  have htext := fromUTF8?_toUTF8 "\x7b"
  have hbackup : held? (backedUp "\x7b".toUTF8) (backup "state.json") =
      some (Snapshot.reread onePackage) := held?_of_content rfl
  have hdecoded : decoded? "\x7b".toUTF8 = none := by
    rw [decoded?, htext]
    rfl
  have hrecovers := ((recovers_unless_noText hdirectory none).2 _ hread).1 ⟨_, htext⟩
  rw [hdecoded, hbackup, Option.none_or, Option.getD_some] at hrecovers
  exact hrecovers

/-- One byte that begins no character, beside a good backup. -/
theorem opening_refused_noText :
    (backedUp ⟨#[0xff]⟩).read "state.json" = .ok ⟨#[0xff]⟩ ∧
      held? (backedUp ⟨#[0xff]⟩) (backup "state.json") = some (Snapshot.reread onePackage) ∧
      (load (backedUp ⟨#[0xff]⟩) "state.json").1 =
        .error (.store (.disk .read "state.json" .notText)) := by
  refine ⟨rfl, held?_of_content rfl, ?_⟩
  have hdirectory : prepareDirectory (backedUp ⟨#[0xff]⟩) "state.json" =
    .ok (backedUp ⟨#[0xff]⟩) := rfl
  have hread : (backedUp ⟨#[0xff]⟩).read "state.json" = .ok ⟨#[0xff]⟩ := rfl
  have htext : String.fromUTF8? ⟨#[0xff]⟩ = none := by decide
  rw [load, loadWith_eq hdirectory, openTables, readTables_of_noText hread htext]
  rfl

end NameScout.FileStore
