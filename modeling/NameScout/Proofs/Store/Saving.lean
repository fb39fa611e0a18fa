import NameScout.Proofs.Store.Naming
import NameScout.Proofs.Store.Places
import NameScout.Proofs.Store.Snapshot
import NameScout.Store.File

namespace NameScout.FileStore

open Disk

variable {d d' : Disk} {path : String}

section Beside

theorem walk_append {xs ys : List String} {place : List String}
    (h : (xs ++ ys).foldlM d.enter [] = .ok place) :
    ∃ p, xs.foldlM d.enter [] = .ok p ∧ ys.foldlM d.enter p = .ok place := by
  rw [List.foldlM_append] at h
  exact bind_eq_ok h

theorem exists_home {q : String} {xs : List String} {name : List Char} {place : List String}
    (hsteps : Path.steps q = xs ++ [String.ofList name]) (hup : name ≠ ['.', '.'])
    (h : d.locate q = .ok place) :
    ∃ home, xs.foldlM d.enter [] = .ok home ∧ d.Open home ∧
      place = home ++ [String.ofList name] := by
  obtain ⟨-, hwalk, -⟩ := locate_eq_ok_iff.mp h
  rw [hsteps] at hwalk
  obtain ⟨home, hhome, hlast⟩ := walk_append hwalk
  rw [List.foldlM_cons] at hlast
  obtain ⟨p, henter, hp⟩ := bind_eq_ok hlast
  cases hp
  obtain ⟨hnode, -, rfl⟩ := enter_eq_ok_iff.mp henter
  refine ⟨home, hhome, (reached_walk (reached_nil d) hhome).open hnode, ?_⟩
  rw [next, if_neg]
  intro heq
  apply hup
  rw [← String.toList_ofList (l := name), heq]
  rfl

theorem node?_of_not_named (hnamed : ¬ Path.Named path) {place : List String}
    (h : d.locate path = .ok place) : d.node? place = some .directory := by
  obtain ⟨-, hwalk, -⟩ := locate_eq_ok_iff.mp h
  rcases Path.steps_of_not_named hnamed with hsteps | hsteps
  · rw [hsteps] at hwalk
    cases hwalk
    rfl
  · rw [hsteps] at hwalk
    obtain ⟨p, hp, hlast⟩ := walk_append hwalk
    rw [List.foldlM_cons] at hlast
    obtain ⟨q, henter, hq⟩ := bind_eq_ok hlast
    cases hq
    obtain ⟨hnode, -, rfl⟩ := enter_eq_ok_iff.mp henter
    exact ((reached_walk (reached_nil d) hp).open hnode).dropLast.node?

theorem not_prefix_of_ne {q q' : String} {xs : List String} {name name' : List Char}
    {p p' : List String} (hq : Path.steps q = xs ++ [String.ofList name])
    (hq' : Path.steps q' = xs ++ [String.ofList name']) (hup : name ≠ ['.', '.'])
    (hup' : name' ≠ ['.', '.']) (hne : name ≠ name') (hp : d.locate q = .ok p)
    (hp' : d.locate q' = .ok p') : ¬ p <+: p' := by
  obtain ⟨home, hhome, -, rfl⟩ := exists_home hq hup hp
  obtain ⟨home', hhome', -, rfl⟩ := exists_home hq' hup' hp'
  rw [hhome] at hhome'
  cases hhome'
  intro hprefix
  have heq := hprefix.eq_of_length (by simp)
  have hname : String.ofList name = String.ofList name' := by simpa using heq
  exact hne (String.ofList_injective hname)

/-- The files beside a file lead elsewhere. -/
structure Apart (d : Disk) (path : String) : Prop where
  temporary : ∀ p q, d.locate (temporary path) = .ok p → d.locate path = .ok q → ¬ p <+: q
  backup : ∀ p q, d.locate (backup path) = .ok p → d.locate path = .ok q → p ≠ q
  between : ∀ p q, d.locate (FileStore.backup path) = .ok p →
    d.locate (FileStore.temporary path) = .ok q → p ≠ q

theorem Apart.of_sameDirectories (h : Apart d path) (hd : SameDirectories d d') :
    Apart d' path where
  temporary p q hp hq := h.temporary p q (hd.symm.grows.locate hp) (hd.symm.grows.locate hq)
  backup p q hp hq := h.backup p q (hd.symm.grows.locate hp) (hd.symm.grows.locate hq)
  between p q hp hq := h.between p q (hd.symm.grows.locate hp) (hd.symm.grows.locate hq)

theorem renamed_ne_up (path : String) {ext : String} (h : 2 ≤ ext.toList.length) :
    Path.renamed path ext ≠ ['.', '.'] := by
  intro heq
  have hlen := congrArg List.length heq
  simp only [Path.renamed, List.length_append, List.length_cons, List.length_nil] at hlen
  omega

theorem apart (hnamed : Path.Named path) (htmp : Path.extension? path ≠ some "tmp")
    (hbackup : Path.extension? path ≠ some "backup") : Apart d path := by
  have hpath := Path.steps_of_named hnamed
  have htmpSteps : Path.steps (temporary path) = Path.stepsOf (Path.before path) ++
      [String.ofList (Path.renamed path "tmp")] := Path.steps_withExtension hnamed (by decide)
  have hbackupSteps : Path.steps (backup path) = Path.stepsOf (Path.before path) ++
      [String.ofList (Path.renamed path "backup")] := Path.steps_withExtension hnamed (by decide)
  have htmpUp : Path.renamed path "tmp" ≠ ['.', '.'] := renamed_ne_up path (by decide)
  have hbackupUp : Path.renamed path "backup" ≠ ['.', '.'] := renamed_ne_up path (by decide)
  have htmpNe := Path.renamed_ne_last hnamed (by decide) htmp
  have hbackupNe := Path.renamed_ne_last hnamed (by decide) hbackup
  have hbetween : Path.renamed path "backup" ≠ Path.renamed path "tmp" := by
    simp [Path.renamed]
  constructor
  · intro p q hp hq
    exact not_prefix_of_ne htmpSteps hpath htmpUp hnamed.2.2 htmpNe hp hq
  · rintro p q hp hq rfl
    exact not_prefix_of_ne hbackupSteps hpath hbackupUp hnamed.2.2 hbackupNe hp hq
      List.prefix_rfl
  · rintro p q hp hq rfl
    exact not_prefix_of_ne hbackupSteps htmpSteps hbackupUp htmpUp hbetween hp hq List.prefix_rfl

end Beside

section Steps

structure Spares (d d' : Disk) (P : List String → Prop) : Prop where
  directories : SameDirectories d d'
  node? : ∀ place, P place → d'.node? place = d.node? place

theorem Spares.refl (d : Disk) (P : List String → Prop) : Spares d d P :=
  ⟨.refl d, fun _ _ => rfl⟩

theorem Spares.trans {d'' : Disk} {P : List String → Prop} (h : Spares d d' P)
    (h' : Spares d' d'' P) : Spares d d'' P :=
  ⟨h.directories.trans h'.directories, fun p hp => (h'.node? p hp).trans (h.node? p hp)⟩

theorem sameDirectories_write {q : String} {c : ByteArray} (h : d.write q c = .ok d') :
    SameDirectories d d' := by
  obtain ⟨p, -, hnode, -, rfl⟩ := write_eq_ok_iff.mp h
  exact sameDirectories_put_file c hnode

theorem spares_write {q : String} {c : ByteArray} {P : List String → Prop}
    (h : d.write q c = .ok d') (hne : ∀ p, d.locate q = .ok p → ¬ P p) : Spares d d' P := by
  refine ⟨sameDirectories_write h, fun place hplace => ?_⟩
  obtain ⟨p, hp, hnode, -, rfl⟩ := write_eq_ok_iff.mp h
  rw [node?_put _ (ne_nil_of_node? hnode), if_neg]
  rintro rfl
  exact hne place hp hplace

theorem of_copy_eq_ok {source target : String} (h : d.copy source target = .ok d') :
    ∃ c, d.write target c = .ok d' := by
  unfold copy at h
  split at h
  · obtain ⟨c, -, h⟩ := bind_eq_ok h
    obtain ⟨origin, -, h⟩ := bind_eq_ok h
    obtain ⟨place, -, h⟩ := bind_eq_ok h
    exact ⟨_, h⟩
  all_goals cases h

theorem perform_eq_or_write {s : Step} (hs : ∀ source target, s ≠ .rename source target)
    (h : d.perform s = .ok d') : d' = d ∨ ∃ q c, s.written? = some q ∧ d.write q c = .ok d' := by
  cases s with
  | create q => exact .inr ⟨q, _, rfl, h⟩
  | write q c => exact .inr ⟨q, c, rfl, h⟩
  | sync q =>
      cases h
      exact .inl rfl
  | backUp source target =>
      rw [perform] at h
      split at h
      · obtain ⟨c, hc⟩ := of_copy_eq_ok h
        exact .inr ⟨target, c, rfl, hc⟩
      · cases h
        exact .inl rfl
  | rename source target => exact absurd rfl (hs source target)

theorem spoil_eq_or_write (s : Step) (m : Mishap) : d.spoil s m = d ∨
    ∃ q c, s.written? = some q ∧ d.write q c = .ok (d.spoil s m) := by
  unfold spoil
  split
  · rename_i q c hq hc
    cases hw : d.write q c with
    | error e => exact .inl rfl
    | ok d₁ => exact .inr ⟨q, c, hq, hw⟩
  · exact .inl rfl

theorem run_eq_or_write {s : SaveStep} (hs : ∀ source target, s.step ≠ .rename source target)
    (mishap : Option Mishap) : (s.run d mishap).2 = d ∨
      ∃ q c, s.step.written? = some q ∧ d.write q c = .ok (s.run d mishap).2 := by
  cases mishap with
  | some m => exact spoil_eq_or_write s.step m
  | none =>
      rw [SaveStep.run]
      cases h : d.perform s.step with
      | error e => exact .inl rfl
      | ok d₁ => exact perform_eq_or_write hs h

theorem run_rename_error {source target : String} {failure : Option (FileAct × String)}
    {mishap : Option Mishap} {e : Failure}
    (h : SaveStep.run ⟨.rename source target, failure⟩ d mishap = (.error e, d')) : d' = d := by
  cases mishap with
  | some m => exact (congrArg Prod.snd h).symm
  | none =>
      rw [SaveStep.run] at h
      cases hp : d.perform (.rename source target) with
      | error e' =>
          simp only [hp] at h
          exact (congrArg Prod.snd h).symm
      | ok d₁ =>
          simp only [hp] at h
          cases h

theorem run_of_necessary {s : SaveStep} {mishap : Option Mishap} {f : FileAct × String}
    (hs : s.failure = some f) (hseen : mishap.any s.misses = false)
    (h : s.run d mishap = (.ok (), d')) : d.perform s.step = .ok d' := by
  cases mishap with
  | some m =>
      have hseen : s.misses m = false := hseen
      rw [SaveStep.run, hseen, if_neg Bool.false_ne_true, SaveStep.outcome, hs] at h
      cases h
  | none =>
      rw [SaveStep.run] at h
      cases hp : d.perform s.step with
      | error e =>
          simp only [hp, SaveStep.outcome, hs] at h
          cases h
      | ok d₁ =>
          rw [hp] at h
          cases h
          rfl

theorem any_misses_eq_false {s : SaveStep} (h : ∀ q c, s.step ≠ .write q c)
    (mishap : Option Mishap) : mishap.any s.misses = false := by
  rw [Option.any_eq_false]
  intro m _
  unfold SaveStep.misses
  split
  · rename_i heq
    exact absurd heq (h _ _)
  · rfl

theorem runSteps_append (steps more : List SaveStep) (mishaps : List (Option Mishap)) :
    runSteps d (steps ++ more) mishaps = match runSteps d steps mishaps with
      | (.ok (), d) => runSteps d more (mishaps.drop steps.length)
      | (.error e, d) => (.error e, d) := by
  induction steps generalizing d mishaps with
  | nil => rfl
  | cons s steps ih =>
      rw [List.cons_append, runSteps, runSteps]
      rcases s.run d (mishaps.headD none) with ⟨_ | _, d₁⟩
      · rfl
      · simp only [ih, List.length_cons, List.drop_tail]

theorem runSteps_spares {steps : List SaveStep} {P : List String → Prop}
    (h : ∀ s ∈ steps, (∀ source target, s.step ≠ .rename source target) ∧
      ∀ q, s.step.written? = some q → ∀ p, d.locate q = .ok p → ¬ P p)
    (mishaps : List (Option Mishap)) : Spares d (runSteps d steps mishaps).2 P := by
  have hspares : ∀ (steps' : List SaveStep) (d' : Disk) (mishaps : List (Option Mishap)),
      (∀ s ∈ steps', s ∈ steps) → Spares d d' P →
        Spares d (runSteps d' steps' mishaps).2 P := by
    intro steps'
    induction steps' with
    | nil => exact fun _ _ _ hd => hd
    | cons s steps' ih =>
        intro d' mishaps hsub hd
        obtain ⟨hs, hne⟩ := h s (hsub s List.mem_cons_self)
        have hrun : Spares d (s.run d' (mishaps.headD none)).2 P := by
          rcases run_eq_or_write hs (mishaps.headD none) with hrun | ⟨q, c, hq, hw⟩
          · rw [hrun]
            exact hd
          · exact hd.trans (spares_write hw fun p hp =>
              hne q hq p (hd.directories.symm.grows.locate hp))
        rw [runSteps]
        rcases hr : s.run d' (mishaps.headD none) with ⟨_ | _, d₁⟩
        · rw [hr] at hrun
          exact hrun
        · rw [hr] at hrun
          exact ih d₁ mishaps.tail (fun s hs => hsub s (List.mem_cons_of_mem _ hs)) hrun
  exact hspares steps d mishaps (fun _ hs => hs) (.refl d P)

end Steps

section Renaming

def SaveStep.isRename (s : SaveStep) : Bool :=
  match s.step with
  | .rename .. => true
  | _ => false

def renames (d : Disk) : List SaveStep → List (Option Mishap) → Bool
  | [], _ => false
  | s :: rest, mishaps => match s.run d (mishaps.headD none) with
      | (.ok (), d) => s.isRename || renames d rest mishaps.tail
      | (.error _, _) => false

theorem renames_of_none {steps : List SaveStep} (h : ∀ s ∈ steps, s.isRename = false)
    (mishaps : List (Option Mishap)) : renames d steps mishaps = false := by
  induction steps generalizing d mishaps with
  | nil => rfl
  | cons s steps ih =>
      rw [renames]
      split
      · rw [h s List.mem_cons_self, ih fun s hs => h s (List.mem_cons_of_mem _ hs)]
        rfl
      · rfl

theorem renames_append (steps more : List SaveStep) (mishaps : List (Option Mishap)) :
    renames d (steps ++ more) mishaps =
      (renames d steps mishaps || match runSteps d steps mishaps with
        | (.ok (), d) => renames d more (mishaps.drop steps.length)
        | (.error _, _) => false) := by
  induction steps generalizing d mishaps with
  | nil => simp [renames, runSteps]
  | cons s steps ih =>
      rw [List.cons_append, renames, renames, runSteps]
      rcases s.run d (mishaps.headD none) with ⟨_ | _, d₁⟩
      · rfl
      · simp only [ih, List.length_cons, List.drop_tail, Bool.or_assoc]

theorem runSteps_single (s : SaveStep) (mishaps : List (Option Mishap)) :
    runSteps d [s] mishaps = s.run d (mishaps.headD none) := by
  rw [runSteps]
  rcases s.run d (mishaps.headD none) with ⟨_ | _, _⟩ <;> rfl

theorem renames_single (s : SaveStep) (mishaps : List (Option Mishap)) :
    renames d [s] mishaps = ((s.run d (mishaps.headD none)).1.isOk && s.isRename) := by
  rw [renames]
  rcases s.run d (mishaps.headD none) with ⟨_ | _, _⟩
  · rfl
  · exact (Bool.or_false _).trans (Bool.true_and _).symm

theorem runSteps_cons_ok {s : SaveStep} {steps : List SaveStep} {mishaps : List (Option Mishap)}
    (h : runSteps d (s :: steps) mishaps = (.ok (), d')) :
    ∃ d₁, s.run d (mishaps.headD none) = (.ok (), d₁) ∧
      runSteps d₁ steps mishaps.tail = (.ok (), d') := by
  rw [runSteps] at h
  split at h
  · rename_i d₁ hrun
    exact ⟨d₁, hrun, h⟩
  · cases h

/-- Whether something goes wrong unnoticed in some steps that are all taken. -/
def misses (steps : List SaveStep) (mishaps : List (Option Mishap)) : Bool :=
  (steps.zip mishaps).any fun taken => taken.2.any taken.1.misses

theorem misses_nil (steps : List SaveStep) : misses steps [] = false := by
  rw [misses, List.zip_nil_right]
  rfl

theorem misses_cons (s : SaveStep) (steps : List SaveStep) (mishaps : List (Option Mishap)) :
    misses (s :: steps) mishaps =
      ((mishaps.headD none).any s.misses || misses steps mishaps.tail) := by
  cases mishaps with
  | nil => exact (misses_nil _).trans (misses_nil _).symm
  | cons mishap mishaps => rfl

theorem exists_late_of_misses {steps : List SaveStep} {mishaps : List (Option Mishap)}
    (h : misses steps mishaps = true) : ∃ m, some m ∈ mishaps ∧ m.late = true := by
  obtain ⟨⟨s, mishap⟩, hmem, hmisses⟩ := List.any_eq_true.mp h
  obtain ⟨m, rfl, hm⟩ := (Option.any_eq_true _ _).mp hmisses
  refine ⟨m, (List.of_mem_zip hmem).2, ?_⟩
  unfold SaveStep.misses at hm
  split at hm
  · exact hm
  · cases hm

theorem misses_concat {steps : List SaveStep} {mishaps : List (Option Mishap)}
    (h : steps.length = mishaps.length) (s : SaveStep) (mishap : Option Mishap) :
    misses (steps ++ [s]) (mishaps ++ [mishap]) =
      (misses steps mishaps || misses [s] [mishap]) := by
  rw [misses, List.zip_append h, List.any_append]
  rfl

variable {c : ByteArray}

def preparing (path : String) (c : ByteArray) : List SaveStep :=
  (saveSteps path c).take 4

def replacing (path : String) : SaveStep :=
  ⟨.rename (temporary path) path, some (.replace, temporary path)⟩

theorem saveSteps_eq (path : String) (c : ByteArray) :
    saveSteps path c = preparing path c ++ [replacing path] :=
  rfl

theorem take_saveSteps (path : String) (c : ByteArray) (k : Nat) :
    (∃ j, (saveSteps path c).take k = (preparing path c).take j) ∨
      (saveSteps path c).take k = saveSteps path c := by
  by_cases hk : k ≤ 4
  · refine .inl ⟨k, ?_⟩
    rw [preparing, List.take_take, Nat.min_eq_left hk]
  · exact .inr (List.take_of_length_le (by simp [saveSteps]; omega))

theorem mem_preparing {s : SaveStep} (h : s ∈ preparing path c) :
    (∀ source target, s.step ≠ .rename source target) ∧
      ∀ q, s.step.written? = some q → q = temporary path ∨ q = backup path := by
  simp only [preparing, saveSteps, List.take_succ_cons, List.take_zero, List.mem_cons,
    List.not_mem_nil, or_false] at h
  rcases h with rfl | rfl | rfl | rfl <;> simp [Step.written?, eq_comm]

theorem isRename_of_mem_preparing {s : SaveStep} (h : s ∈ preparing path c) :
    s.isRename = false := by
  have hs := (mem_preparing h).1
  unfold SaveStep.isRename
  split
  · rename_i heq
    exact absurd heq (hs _ _)
  · rfl

theorem spares_preparing (hapart : Apart d path) {steps : List SaveStep}
    (hsteps : ∀ s ∈ steps, s ∈ preparing path c) (mishaps : List (Option Mishap)) :
    Spares d (runSteps d steps mishaps).2 fun place => d.locate path = .ok place := by
  refine runSteps_spares (fun s hs => ?_) mishaps
  obtain ⟨hrename, hwritten⟩ := mem_preparing (hsteps s hs)
  refine ⟨hrename, fun q hq p hp hplace => ?_⟩
  rcases hwritten q hq with rfl | rfl
  · exact hapart.temporary p p hp hplace List.prefix_rfl
  · exact hapart.backup p p hp hplace rfl

theorem misses_saveSteps (path : String) (c : ByteArray) (mishaps : List (Option Mishap)) :
    misses (saveSteps path c) mishaps = (mishaps.tail.headD none).any (·.late) := by
  have hseen {step : Step} {failure : Option (FileAct × String)} (hs : ∀ q c, step ≠ .write q c)
      (mishap : Option Mishap) : mishap.any (SaveStep.misses ⟨step, failure⟩) = false :=
    any_misses_eq_false hs mishap
  have hnone : misses [] mishaps.tail.tail.tail.tail.tail = false := rfl
  simp only [saveSteps, misses_cons, hnone, hseen, ne_eq, reduceCtorEq, not_false_eq_true,
    implies_true, Bool.false_or, Bool.or_false]
  rfl

/-- A write that fails at its end leaves something else, or the empty file that was made for it. -/
theorem written_of_write {q : String} {failure : FileAct × String} {mishap : Option Mishap}
    {d₁ d₂ : Disk} (hcreate : d.write q .empty = .ok d₁)
    (hwrite : SaveStep.run ⟨.write q c, some failure⟩ d₁ mishap = (.ok (), d₂)) :
    ∃ d₀ c', SameDirectories d d₀ ∧ d₀.write q c' = .ok d₂ ∧
      (mishap.any (·.late) = false → c' = c) := by
  by_cases hseen : mishap.any (·.late) = false
  · exact ⟨d₁, c, sameDirectories_write hcreate,
      run_of_necessary (s := ⟨.write q c, some failure⟩) rfl hseen hwrite, fun _ => rfl⟩
  · have hdisk := run_eq_or_write (d := d₁) (s := ⟨.write q c, some failure⟩) (by simp) mishap
    rw [hwrite] at hdisk
    rcases hdisk with heq | ⟨q', c', hq, hw⟩
    · cases heq
      exact ⟨d, .empty, .refl d, hcreate, fun h => absurd h hseen⟩
    · cases hq
      exact ⟨d₁, c', sameDirectories_write hcreate, hw, fun h => absurd h hseen⟩

/-- When everything is prepared, the temporary file holds the content, unless its write has failed
unnoticed. -/
theorem content_of_preparing (hapart : Apart d path) {mishaps : List (Option Mishap)}
    (h : runSteps d (preparing path c) mishaps = (.ok (), d')) :
    ∃ p c', d'.locate (temporary path) = .ok p ∧ d'.node? p = some (.file c') ∧
      (misses (saveSteps path c) mishaps = false → c' = c) := by
  obtain ⟨d₁, hcreate, h⟩ := runSteps_cons_ok h
  obtain ⟨d₂, hwrite, h⟩ := runSteps_cons_ok h
  have hcreate : d.write (temporary path) .empty = .ok d₁ := run_of_necessary rfl
    (any_misses_eq_false (by simp) _) hcreate
  obtain ⟨d₀, c', hsame, hwritten, hc'⟩ := written_of_write hcreate hwrite
  obtain ⟨p, hp, hnode, -, hput⟩ := write_eq_ok_iff.mp hwritten
  have hp₂ := (sameDirectories_write hwritten).grows.locate hp
  have hcontent : d₂.node? p = some (.file c') := by
    rw [← hput, node?_put _ (ne_nil_of_node? hnode), if_pos rfl]
  have hspares : Spares d₂ (runSteps d₂ [⟨.sync (temporary path), some (.sync, temporary path)⟩,
      ⟨.backUp path (backup path), none⟩] mishaps.tail.tail).2 (· = p) := by
    refine runSteps_spares (fun s hs => ?_) mishaps.tail.tail
    simp only [List.mem_cons, List.not_mem_nil, or_false] at hs
    rcases hs with rfl | rfl
    · exact ⟨by simp, by simp [Step.written?]⟩
    · refine ⟨by simp, fun q hq r hr => ?_⟩
      cases hq
      exact (hapart.of_sameDirectories (hsame.trans (sameDirectories_write hwritten))).between
        r p hr hp₂
  replace h : runSteps d₂ [⟨.sync (temporary path), some (.sync, temporary path)⟩,
      ⟨.backUp path (backup path), none⟩] mishaps.tail.tail = (.ok (), d') := h
  rw [h] at hspares
  refine ⟨p, c', hspares.directories.grows.locate hp₂, (hspares.node? p rfl).trans hcontent,
    fun hwhole => hc' ?_⟩
  rwa [misses_saveSteps] at hwhole

theorem replaced (hapart : Apart d path) {p : List String}
    (hp : d.locate (temporary path) = .ok p) (hcontent : d.node? p = some (.file c))
    (h : d.rename (temporary path) path = .ok d') :
    SameDirectories d d' ∧ ∃ place, d.locate path = .ok place ∧
      d'.node? place = some (.file c) ∧ Path.wantsDirectory path = false := by
  obtain ⟨c', origin, place, hread, horigin, hplace, hnode, hwants, hd'⟩ := of_rename_eq_ok h
  rw [hp] at horigin
  cases horigin
  obtain ⟨p', hp', hnode', -⟩ := read_eq_ok_iff.mp hread
  rw [hp] at hp'
  cases hp'
  rw [hcontent] at hnode'
  cases hnode'
  have hprefix := hapart.temporary p place hp hplace
  have hp_ne : p ≠ [] := ne_nil_of_node? (by rw [hcontent]; simp)
  rw [if_neg (by rintro rfl; exact hprefix List.prefix_rfl)] at hd'
  have hremoved : (d.remove p).node? place ≠ some .directory := by
    rw [node?_remove hp_ne, if_neg hprefix]
    exact hnode
  subst hd'
  refine ⟨(sameDirectories_remove hcontent).trans (sameDirectories_put_file c hremoved),
    place, hplace, ?_, hwants⟩
  rw [node?_put _ (ne_nil_of_node? hremoved), if_pos rfl]

end Renaming

end NameScout.FileStore
