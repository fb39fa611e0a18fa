import NameScout.Proofs.Store.Reopening

namespace NameScout

namespace Path

variable {path : String}

theorem stem_renamed (h : Named path) {ext : String} (hext : '.' ∉ ext.toList) :
    stem (renamed path ext) = stem (last path) := by
  have hback : (renamed path ext).reverse =
      ext.toList.reverse ++ '.' :: (stem (last path)).reverse := by
    simp [renamed]
  have hplain : ∀ c ∈ ext.toList.reverse, (c != '.') = true := by
    intro c hc
    have hne : c ≠ '.' := fun h => hext (h ▸ List.mem_reverse.mp hc)
    simpa using hne
  obtain ⟨c, cs, hstem⟩ := List.exists_cons_of_ne_nil
    (List.reverse_ne_nil_iff.mpr (stem_ne_nil h.1))
  have hdrop : (renamed path ext).reverse.dropWhile (· != '.') = '.' :: c :: cs := by
    rw [hback, List.dropWhile_append_of_pos hplain, hstem]
    rfl
  rw [stem, hdrop]
  exact (congrArg List.reverse hstem).symm.trans (List.reverse_reverse _)

def names (path : String) : List String :=
  [String.ofList (last path), String.ofList (renamed path "tmp"),
    String.ofList (renamed path "backup")]

theorem stem_of_mem_names (h : Named path) {name : String} (hname : name ∈ names path) :
    stem name.toList = stem (last path) := by
  simp only [names, List.mem_cons, List.not_mem_nil, or_false] at hname
  rcases hname with rfl | rfl | rfl
  · rw [String.toList_ofList]
  · rw [String.toList_ofList, stem_renamed h (by decide)]
  · rw [String.toList_ofList, stem_renamed h (by decide)]

end Path

namespace Disk

variable {d d' d'' d₁ : Disk} {dir path : String} {home : List String} {P Q : String → Prop}

structure Home (d : Disk) (dir : String) (home : List String) : Prop where
  walk : (Path.steps dir).foldlM d.enter [] = .ok home
  opened : d.Open home

/-- A path to a file in a directory whose name is of some kind. -/
def Inside (dir : String) (P : String → Prop) (path : String) : Prop :=
  ∃ name, P name ∧ name ≠ ".." ∧ Path.steps path = Path.steps dir ++ [name]

theorem Home.of_sameDirectories (h : d.Home dir home) (hsame : SameDirectories d d') :
    d'.Home dir home :=
  ⟨hsame.grows.walk (reached_nil d) h.walk, hsame.grows home h.opened⟩

theorem enter_of_directory {place : List String} (h : d.node? place = some .directory)
    (step : String) : d.enter place step =
      if step = ".." then .ok place.dropLast
      else if 255 < step.utf8ByteSize then .error .nameTooLong
      else .ok (place ++ [step]) := by
  rw [enter, h]

theorem Home.walk_name (h : d.Home dir home) {name : String}
    (hsteps : Path.steps path = Path.steps dir ++ [name]) :
    (Path.steps path).foldlM d.enter [] = d.enter home name := by
  rw [hsteps, List.foldlM_append, h.walk, ok_bind, List.foldlM_cons]
  cases d.enter home name <;> rfl

theorem Home.exists_locate (h : d.Home dir home) (hpath : Inside dir P path)
    {place : List String} (hplace : d.locate path = .ok place) :
    ∃ name, P name ∧ place = home ++ [name] := by
  obtain ⟨name, hname, hup, hsteps⟩ := hpath
  obtain ⟨-, hwalk, -⟩ := locate_eq_ok_iff.mp hplace
  rw [h.walk_name hsteps] at hwalk
  obtain ⟨-, -, rfl⟩ := enter_eq_ok_iff.mp hwalk
  exact ⟨name, hname, if_neg hup⟩

/-- Two disks with the same directory in it, and with the same files of some names in that. -/
structure Alike (dir : String) (home : List String) (P : String → Prop) (d d' : Disk) : Prop where
  left : d.Home dir home
  right : d'.Home dir home
  node? : ∀ name, P name → d'.node? (home ++ [name]) = d.node? (home ++ [name])

namespace Alike

theorem refl (h : d.Home dir home) (P : String → Prop) : Alike dir home P d d :=
  ⟨h, h, fun _ _ => rfl⟩

theorem symm (h : Alike dir home P d d') : Alike dir home P d' d :=
  ⟨h.right, h.left, fun name hname => (h.node? name hname).symm⟩

theorem trans (h : Alike dir home P d d') (h' : Alike dir home P d' d'') :
    Alike dir home P d d'' :=
  ⟨h.left, h'.right, fun name hname => (h'.node? name hname).trans (h.node? name hname)⟩

theorem mono (h : Alike dir home P d d') (hQP : ∀ name, Q name → P name) :
    Alike dir home Q d d' :=
  ⟨h.left, h.right, fun name hname => h.node? name (hQP name hname)⟩

theorem locate_eq (h : Alike dir home P d d') (hpath : Inside dir P path) :
    d'.locate path = d.locate path := by
  obtain ⟨name, hname, hup, hsteps⟩ := hpath
  have hwalk := h.left.walk_name hsteps
  have hwalk' : (Path.steps path).foldlM d'.enter [] = d.enter home name := by
    rw [h.right.walk_name hsteps, enter_of_directory h.left.opened.node?,
      enter_of_directory h.right.opened.node?]
  have hplace : ∀ place, d.enter home name = .ok place → d'.node? place = d.node? place := by
    intro place henter
    obtain ⟨-, -, rfl⟩ := enter_eq_ok_iff.mp henter
    rw [next, if_neg hup]
    exact h.node? name hname
  rw [locate, locate, hwalk, hwalk']
  cases henter : d.enter home name with
  | error e => rfl
  | ok place =>
      simp only [ok_bind, hplace place henter]

theorem node?_eq (h : Alike dir home P d d') (hpath : Inside dir P path) {place : List String}
    (hplace : d.locate path = .ok place) : d'.node? place = d.node? place := by
  obtain ⟨name, hname, rfl⟩ := h.left.exists_locate hpath hplace
  exact h.node? name hname

theorem exists?_eq (h : Alike dir home P d d') (hpath : Inside dir P path) :
    d'.exists? path = d.exists? path := by
  rw [exists?, exists?, h.locate_eq hpath]
  cases hplace : d.locate path with
  | error e => rfl
  | ok place => simp only [h.node?_eq hpath hplace]

theorem read_eq (h : Alike dir home P d d') (hpath : Inside dir P path) :
    d'.read path = d.read path := by
  rw [Disk.read, Disk.read, h.locate_eq hpath]
  cases hplace : d.locate path with
  | error e => rfl
  | ok place => simp only [ok_bind, h.node?_eq hpath hplace]

theorem readTables_eq (h : Alike dir home P d d') (hpath : Inside dir P path) :
    FileStore.readTables d' path = FileStore.readTables d path := by
  rw [FileStore.readTables, FileStore.readTables, h.exists?_eq hpath, readText, readText,
    h.read_eq hpath]

theorem put (h : Alike dir home P d d') {name : String} (c : ByteArray)
    (hnode : d.node? (home ++ [name]) ≠ some .directory)
    (hnode' : d'.node? (home ++ [name]) ≠ some .directory) :
    Alike dir home P (d.put (home ++ [name]) (.file c)) (d'.put (home ++ [name]) (.file c)) where
  left := h.left.of_sameDirectories (sameDirectories_put_file c hnode)
  right := h.right.of_sameDirectories (sameDirectories_put_file c hnode')
  node? other hother := by
    rw [node?_put _ (ne_nil_of_node? hnode), node?_put _ (ne_nil_of_node? hnode)]
    split
    · rfl
    · exact h.node? other hother

theorem remove (h : Alike dir home P d d') {name : String} {c c' : ByteArray}
    (hnode : d.node? (home ++ [name]) = some (.file c))
    (hnode' : d'.node? (home ++ [name]) = some (.file c')) :
    Alike dir home P (d.remove (home ++ [name])) (d'.remove (home ++ [name])) where
  left := h.left.of_sameDirectories (sameDirectories_remove hnode)
  right := h.right.of_sameDirectories (sameDirectories_remove hnode')
  node? other hother := by
    rw [node?_remove (by simp), node?_remove (by simp)]
    split
    · rfl
    · exact h.node? other hother

end Alike

/-- Two outcomes that are the same failure, or disks that are related. -/
inductive Matched (R : Disk → Disk → Prop) :
    Except DiskError Disk → Except DiskError Disk → Prop
  | ok {d d' : Disk} (h : R d d') : Matched R (.ok d) (.ok d')
  | error (e : DiskError) : Matched R (.error e) (.error e)

theorem write_of_directory {place : List String} (hplace : d.locate path = .ok place)
    (hnode : d.node? place = some .directory) (c : ByteArray) :
    d.write path c = .error .isDirectory := by
  rw [Disk.write, hplace, ok_bind, hnode]

theorem write_of_free {place : List String} (hplace : d.locate path = .ok place)
    (hnode : d.node? place ≠ some .directory) (c : ByteArray) :
    d.write path c = if Path.wantsDirectory path = true then .error .isDirectory
      else .ok (d.put place (.file c)) := by
  rw [Disk.write, hplace, ok_bind]
  split
  · rename_i hdirectory
    exact absurd hdirectory hnode
  all_goals rfl

theorem rename_of_file {source target : String} {origin place : List String} {c : ByteArray}
    (hread : d.read source = .ok c) (horigin : d.locate source = .ok origin)
    (hplace : d.locate target = .ok place) : d.rename source target =
      if Path.endsInDot target = true ∨ (Path.steps target).getLast? = some ".." then .error .busy
      else if Path.wantsDirectory target = true then .error .notDirectory
      else match d.node? place with
        | some .directory => .error .isDirectory
        | _ => if origin = place then .ok d else .ok ((d.remove origin).put place (.file c)) := by
  rw [Disk.rename, hread, horigin, hplace]
  simp only [ok_bind]
  split
  · rfl
  · split <;> rfl

theorem node?_remove_ne {origin place : List String} (horigin : origin ≠ [])
    (h : d.node? place ≠ some .directory) : (d.remove origin).node? place ≠ some .directory := by
  rw [node?_remove horigin]
  split
  · exact nofun
  · exact h

namespace Alike

theorem write (h : Alike dir home P d d') (hpath : Inside dir P path) (c : ByteArray) :
    Matched (Alike dir home P) (d.write path c) (d'.write path c) := by
  have hsame := h.locate_eq hpath
  cases hplace : d.locate path with
  | error e =>
      rw [hplace] at hsame
      rw [Disk.write, Disk.write, hplace, hsame]
      exact .error e
  | ok place =>
      rw [hplace] at hsame
      have hnodes := h.node?_eq hpath hplace
      obtain ⟨name, -, rfl⟩ := h.left.exists_locate hpath hplace
      by_cases hnode : d.node? (home ++ [name]) = some .directory
      · rw [write_of_directory hplace hnode, write_of_directory hsame (hnodes.trans hnode)]
        exact .error _
      · have hnode' : d'.node? (home ++ [name]) ≠ some .directory := hnodes ▸ hnode
        rw [write_of_free hplace hnode, write_of_free hsame hnode']
        split
        · exact .error _
        · exact .ok (h.put c hnode hnode')

theorem copy (h : Alike dir home P d d') {source target : String}
    (hsource : Inside dir P source) (htarget : Inside dir P target) :
    Matched (Alike dir home P) (d.copy source target) (d'.copy source target) := by
  rw [Disk.copy, Disk.copy, h.read_eq hsource, h.locate_eq hsource, h.locate_eq htarget]
  split
  · simp only [ok_bind]
    cases d.locate source with
    | error e => exact .error e
    | ok origin =>
        cases d.locate target with
        | error e => exact .error e
        | ok place => exact h.write htarget _
  · exact .error _
  · exact .error _

theorem rename (h : Alike dir home P d d') {source target : String}
    (hsource : Inside dir P source) (htarget : Inside dir P target) :
    Matched (Alike dir home P) (d.rename source target) (d'.rename source target) := by
  have hread' := h.read_eq hsource
  have horigin' := h.locate_eq hsource
  have hplace' := h.locate_eq htarget
  cases hread : d.read source with
  | error e =>
      rw [Disk.rename, Disk.rename, hread', hread]
      exact .error e
  | ok c =>
      obtain ⟨origin, horigin, hfile, -⟩ := read_eq_ok_iff.mp hread
      cases hplace : d.locate target with
      | error e =>
          rw [Disk.rename, Disk.rename, hread', hread, horigin', horigin, hplace', hplace]
          exact .error e
      | ok place =>
          rw [hread] at hread'
          rw [horigin] at horigin'
          rw [hplace] at hplace'
          have hfile' := (h.node?_eq hsource horigin).trans hfile
          have hnodes := h.node?_eq htarget hplace
          obtain ⟨name, -, rfl⟩ := h.left.exists_locate hsource horigin
          obtain ⟨name', -, rfl⟩ := h.left.exists_locate htarget hplace
          rw [rename_of_file hread horigin hplace, rename_of_file hread' horigin' hplace', hnodes]
          split
          · exact .error _
          split
          · exact .error _
          split
          · exact .error _
          · rename_i hfree
            split
            · exact .ok h
            · have hne : d.node? (home ++ [name']) ≠ some .directory := hfree
              have hremoved := h.remove hfile hfile'
              exact .ok (hremoved.put c (node?_remove_ne (by simp) hne)
                (node?_remove_ne (by simp) (hnodes ▸ hne)))

end Alike

section Elsewhere

theorem Home.write (h : d.Home dir home) (hpath : Inside dir P path) {c : ByteArray}
    (hwrite : d.write path c = .ok d₁) : Alike dir home (¬ P ·) d d₁ := by
  obtain ⟨place, hplace, hnode, -, rfl⟩ := write_eq_ok_iff.mp hwrite
  refine ⟨h, h.of_sameDirectories (sameDirectories_put_file c hnode), fun other hother => ?_⟩
  obtain ⟨name, hname, rfl⟩ := h.exists_locate hpath hplace
  rw [node?_put _ (ne_nil_of_node? hnode), if_neg]
  intro heq
  have hsame : other = name := by simpa using heq
  exact hother (hsame ▸ hname)

theorem Home.rename (h : d.Home dir home) {source target : String}
    (hsource : Inside dir P source) (htarget : Inside dir P target)
    (hrename : d.rename source target = .ok d₁) : Alike dir home (¬ P ·) d d₁ := by
  obtain ⟨c, origin, place, hread, horigin, hplace, hnode, -, hd₁⟩ := of_rename_eq_ok hrename
  obtain ⟨p, hp, hfile, -⟩ := read_eq_ok_iff.mp hread
  rw [horigin] at hp
  cases hp
  obtain ⟨name, hname, rfl⟩ := h.exists_locate hsource horigin
  obtain ⟨name', hname', rfl⟩ := h.exists_locate htarget hplace
  split at hd₁
  · subst hd₁
    exact .refl h _
  · have hfree : (d.remove (home ++ [name])).node? (home ++ [name']) ≠ some .directory :=
      node?_remove_ne (by simp) hnode
    have hsame := (sameDirectories_remove hfile).trans (sameDirectories_put_file c hfree)
    subst hd₁
    refine ⟨h, h.of_sameDirectories hsame, fun other hother => ?_⟩
    have hne : other ≠ name := fun heq => hother (heq ▸ hname)
    have hne' : other ≠ name' := fun heq => hother (heq ▸ hname')
    rw [node?_put _ (by simp), if_neg (by simpa using hne'), node?_remove (by simp), if_neg]
    intro hprefix
    have heq := hprefix.eq_of_length (by simp)
    exact hne (by simpa using heq.symm)

end Elsewhere

def Step.paths : Step → List String
  | .create path | .write path _ | .sync path => [path]
  | .backUp source target | .rename source target => [source, target]

theorem Step.mem_paths_of_written? {s : Step} (h : s.written? = some path) : path ∈ s.paths := by
  cases s with
  | sync | rename => cases h
  | create | write | backUp =>
      cases h
      simp [Step.paths]

namespace Alike

theorem perform (h : Alike dir home P d d') {s : Step} (hs : ∀ path ∈ s.paths, Inside dir P path) :
    Matched (Alike dir home P) (d.perform s) (d'.perform s) := by
  cases s with
  | create path => exact h.write (hs path (by simp [Step.paths])) .empty
  | write path c => exact h.write (hs path (by simp [Step.paths])) c
  | sync path => exact .ok h
  | backUp source target =>
      have hsource := hs source (by simp [Step.paths])
      rw [Disk.perform, Disk.perform, h.exists?_eq hsource]
      split
      · exact h.copy hsource (hs target (by simp [Step.paths]))
      · exact .ok h
  | rename source target =>
      exact h.rename (hs source (by simp [Step.paths])) (hs target (by simp [Step.paths]))

theorem spoil (h : Alike dir home P d d') {s : Step} (hs : ∀ path ∈ s.paths, Inside dir P path)
    (m : Mishap) : Alike dir home P (d.spoil s m) (d'.spoil s m) := by
  rw [Disk.spoil, Disk.spoil]
  split
  · rename_i path c hpath hc
    have hwrite := h.write (hs path (Step.mem_paths_of_written? hpath)) c
    generalize d.write path c = result at hwrite ⊢
    generalize d'.write path c = result' at hwrite ⊢
    cases hwrite with
    | ok hmatch => exact hmatch
    | error e => exact h
  · exact h

end Alike

theorem Home.spoil (h : d.Home dir home) {s : Step} (hs : ∀ path ∈ s.paths, Inside dir P path)
    (m : Mishap) : Alike dir home (¬ P ·) d (d.spoil s m) := by
  rcases FileStore.spoil_eq_or_write s m (d := d) with heq | ⟨q, c, hq, hwrite⟩
  · rw [heq]
    exact .refl h _
  · exact h.write (hs q (Step.mem_paths_of_written? hq)) hwrite

theorem Home.perform (h : d.Home dir home) {s : Step} (hs : ∀ path ∈ s.paths, Inside dir P path)
    (hperform : d.perform s = .ok d₁) : Alike dir home (¬ P ·) d d₁ := by
  by_cases hrename : ∃ source target, s = .rename source target
  · obtain ⟨source, target, rfl⟩ := hrename
    exact h.rename (hs source (by simp [Step.paths])) (hs target (by simp [Step.paths])) hperform
  · have hplain : ∀ source target, s ≠ .rename source target :=
      fun source target heq => hrename ⟨source, target, heq⟩
    rcases FileStore.perform_eq_or_write hplain hperform with rfl | ⟨q, c, hq, hwrite⟩
    · exact .refl h _
    · exact h.write (hs q (Step.mem_paths_of_written? hq)) hwrite

end Disk

namespace FileStore

open Disk

variable {d d' : Disk} {dir path : String} {home : List String} {P : String → Prop}

def SaveStep.Inside (dir : String) (P : String → Prop) (s : SaveStep) : Prop :=
  ∀ path ∈ s.step.paths, Disk.Inside dir P path

theorem run_alike (h : Alike dir home P d d') {s : SaveStep} (hs : s.Inside dir P)
    (mishap : Option Mishap) : (s.run d' mishap).1 = (s.run d mishap).1 ∧
      Alike dir home P (s.run d mishap).2 (s.run d' mishap).2 := by
  cases mishap with
  | some m => exact ⟨rfl, h.spoil hs m⟩
  | none =>
      have hperform := h.perform hs
      rw [SaveStep.run, SaveStep.run]
      generalize d.perform s.step = result at hperform ⊢
      generalize d'.perform s.step = result' at hperform ⊢
      cases hperform with
      | ok hmatch => exact ⟨rfl, hmatch⟩
      | error e => exact ⟨rfl, h⟩

theorem run_elsewhere (h : d.Home dir home) {s : SaveStep} (hs : s.Inside dir P)
    (mishap : Option Mishap) : Alike dir home (¬ P ·) d (s.run d mishap).2 := by
  cases mishap with
  | some m => exact h.spoil hs m
  | none =>
      rw [SaveStep.run]
      cases hperform : d.perform s.step with
      | error e => exact .refl h _
      | ok d₁ => exact h.perform hs hperform

section Files

def files (path : String) : List String :=
  [path, temporary path, backup path]

theorem inside_of_mem_files (hdir : Path.parent? path = some dir) (hnamed : Path.Named path)
    {file : String} (hfile : file ∈ files path) : Disk.Inside dir (· ∈ Path.names path) file := by
  have hsteps := Path.steps_parent? hdir
  have hup : ∀ {name : List Char}, name ≠ ['.', '.'] → String.ofList name ≠ ".." :=
    fun hne heq => hne (String.ofList_injective heq)
  simp only [files, List.mem_cons, List.not_mem_nil, or_false] at hfile
  rcases hfile with rfl | rfl | rfl
  · exact ⟨_, List.mem_cons_self, hup hnamed.2.2, by rw [hsteps, Path.steps_of_named hnamed]⟩
  · refine ⟨String.ofList (Path.renamed path "tmp"), by simp [Path.names],
      hup (renamed_ne_up path (by decide)), ?_⟩
    rw [hsteps]
    exact Path.steps_withExtension hnamed (by decide)
  · refine ⟨String.ofList (Path.renamed path "backup"), by simp [Path.names],
      hup (renamed_ne_up path (by decide)), ?_⟩
    rw [hsteps]
    exact Path.steps_withExtension hnamed (by decide)

theorem mem_files_of_saveSteps {c : ByteArray} {s : SaveStep} (hs : s ∈ saveSteps path c)
    {file : String} (hfile : file ∈ s.step.paths) : file ∈ files path := by
  simp only [saveSteps, List.mem_cons, List.not_mem_nil, or_false] at hs
  rcases hs with rfl | rfl | rfl | rfl | rfl <;> simp [Step.paths] at hfile <;> grind [files]

def Reachable (dir : String) : Prop :=
  dir = "" ∨ Askable dir

theorem prepared_of_home (h : d.Home dir home) (hask : Reachable dir)
    (hdir : Path.parent? path = some dir) : Prepared d path := by
  intro dir' hdir'
  rw [hdir] at hdir'
  cases hdir'
  refine hask.imp_right fun hask => ?_
  refine exists?_of_isDirectory (isDirectory_eq_true_iff.mpr ⟨home, ?_, h.opened⟩)
  exact locate_eq_ok_iff.mpr ⟨hask, h.walk, fun _ => h.opened.node?⟩

theorem exists_home_of_directory (h : dir = "" ∨ d.isDirectory dir = true) :
    Reachable dir ∧ ∃ home, d.Home dir home := by
  rcases h with rfl | h
  · refine ⟨.inl rfl, [], rfl, fun q hq => ?_⟩
    rw [List.prefix_nil.mp hq]
    rfl
  · obtain ⟨home, hplace, hopen⟩ := isDirectory_eq_true_iff.mp h
    obtain ⟨hask, hwalk, -⟩ := locate_eq_ok_iff.mp hplace
    exact ⟨.inr hask, home, hwalk, hopen⟩

end Files

section Opening

variable (hpath : Disk.Inside dir P path) (hbackup : Disk.Inside dir P (backup path))

include hpath hbackup

theorem inside_putBack : SaveStep.Inside dir P ⟨.backUp (backup path) path, none⟩ := by
  intro file hfile
  simp only [Step.paths, List.mem_cons, List.not_mem_nil, or_false] at hfile
  rcases hfile with rfl | rfl
  · exact hbackup
  · exact hpath

theorem recover_alike (h : Alike dir home P d d') (mishap : Option Mishap) :
    (recover d' path mishap).1 = (recover d path mishap).1 ∧
      Alike dir home P (recover d path mishap).2 (recover d' path mishap).2 := by
  rw [recover, recover, h.exists?_eq hbackup, h.readTables_eq hbackup]
  split
  · split
    · exact ⟨rfl, (run_alike h (inside_putBack hpath hbackup) mishap).2⟩
    · exact ⟨rfl, h⟩
  · exact ⟨rfl, h⟩

theorem recover_elsewhere (h : d.Home dir home) (mishap : Option Mishap) :
    Alike dir home (¬ P ·) d (recover d path mishap).2 := by
  rw [recover]
  split
  · split
    · exact run_elsewhere h (inside_putBack hpath hbackup) mishap
    · exact .refl h _
  · exact .refl h _

theorem openTables_alike (h : Alike dir home P d d') (mishap : Option Mishap) :
    (openTables d' path mishap).1 = (openTables d path mishap).1 ∧
      Alike dir home P (openTables d path mishap).2 (openTables d' path mishap).2 := by
  obtain ⟨htables, hdisk⟩ := recover_alike hpath hbackup h mishap
  rw [openTables, openTables, h.readTables_eq hpath]
  cases readTables d path with
  | error e => exact ⟨rfl, h⟩
  | ok found =>
      cases found with
      | some t => exact ⟨rfl, h⟩
      | none => exact ⟨congrArg Except.ok htables, hdisk⟩

theorem openTables_elsewhere (h : d.Home dir home) (mishap : Option Mishap) :
    Alike dir home (¬ P ·) d (openTables d path mishap).2 := by
  rw [openTables]
  cases readTables d path with
  | error e => exact .refl h _
  | ok found =>
      cases found with
      | some t => exact .refl h _
      | none => exact recover_elsewhere hpath hbackup h mishap

end Opening

theorem loadWith_of_prepared (h : Prepared d path) (mishap : Option Mishap) :
    loadWith d path mishap =
      ((openTables d path mishap).1.map fun tables => { path, tables, dirty := false },
        (openTables d path mishap).2) := by
  rw [loadWith, prepareDirectory_eq h]

end FileStore

end NameScout
