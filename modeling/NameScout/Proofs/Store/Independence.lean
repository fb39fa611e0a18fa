import Mathlib.Logic.Function.Basic
import NameScout.Proofs.Store.Neighbours
import NameScout.Proofs.Store.Recovery
import NameScout.Proofs.Store.Turns

namespace NameScout.Sharing

open Disk FileStore

inductive Action where
  | event (event : Event)
  | overwrite (bytes : ByteArray)
  /-- The program ends wherever it is, and the store is opened again. -/
  | reopen (mishap : Option Mishap)

namespace State

def act? (s : State) : Action → Option State
  | .event event => s.step? event
  | .overwrite bytes =>
      (s.disk.write s.store.path bytes).toOption.map fun disk => { s with disk }
  | .reopen mishap =>
      let (opened, disk) := loadWith s.disk s.store.path mishap
      some { disk, store := opened.toOption.getD s.store, tasks := [] }

def actAll? (s : State) (actions : List Action) : Option State :=
  actions.foldlM act? s

def moved (s : State) (disk : Disk) : State :=
  { s with disk }

end State

structure Desk where
  store : FileStore
  tasks : List Activity

/-- Stores of several state files on one disk. -/
structure Yard (ι : Type) where
  disk : Disk
  desks : ι → Desk

namespace Yard

variable {ι : Type}

def start (disk : Disk) (stores : ι → FileStore) : Yard ι :=
  { disk, desks := fun i => ⟨stores i, []⟩ }

def seen (y : Yard ι) (i : ι) : State :=
  { disk := y.disk, store := (y.desks i).store, tasks := (y.desks i).tasks }

variable [DecidableEq ι]

def act? (y : Yard ι) (a : ι × Action) : Option (Yard ι) :=
  ((y.seen a.1).act? a.2).map fun s =>
    { disk := s.disk, desks := Function.update y.desks a.1 ⟨s.store, s.tasks⟩ }

def run? (y : Yard ι) (actions : List (ι × Action)) : Option (Yard ι) :=
  actions.foldlM act? y

def own (i : ι) (actions : List (ι × Action)) : List Action :=
  (actions.filter (·.1 = i)).map (·.2)

end Yard

namespace State

theorem step?_of_move {s s' : State} {event : Event} (h : s.Move event s') :
    s.step? event = some s' := by
  cases h with
  | submit job => rfl
  | change hf => simp only [step?, begin?, hf]
  | look hflush => simp only [step?, begin?, hflush]
  | turn hwaiting hfree => simp only [step?, turn?, hwaiting, hfree, if_true]
  | finish hdone => simp only [step?, save?, hdone]
  | save hleft hrun => simp only [step?, save?, hleft, hrun]
  | fail hleft hrun => simp only [step?, save?, hleft, hrun]
  | drop ha hover => simp [step?, drop?, ha, hover]

end State

theorem write_of_toOption {d disk : Disk} {file : String} {bytes : ByteArray}
    (h : (d.write file bytes).toOption = some disk) : d.write file bytes = .ok disk := by
  cases hwrite : d.write file bytes with
  | error e =>
      rw [hwrite] at h
      cases h
  | ok d₁ =>
      rw [hwrite] at h
      exact congrArg Except.ok (Option.some.inj h)

section Steps

variable {dir path : String} {home : List String} {P : String → Prop} {s s' : State}

/-- A store at a path whose tasks have to do with its own files only. -/
structure Tidy (dir : String) (P : String → Prop) (path : String) (s : State) : Prop where
  path_eq : s.store.path = path
  saving : ∀ left, .saving left ∈ s.tasks → ∀ step ∈ left, step.Inside dir P

theorem tidy_start (d : Disk) {store : FileStore} (h : store.path = path) :
    Tidy dir P path (State.start d store) :=
  ⟨h, fun _ hleft => nomatch hleft⟩

theorem Tidy.moved (h : Tidy dir P path s) (d : Disk) : Tidy dir P path (s.moved d) :=
  ⟨h.path_eq, h.saving⟩

theorem Tidy.become (h : Tidy dir P path s) (store : FileStore) (disk : Disk) (task : Nat)
    {a : Activity} (hstore : store.path = path)
    (ha : ∀ left, a = .saving left → ∀ step ∈ left, step.Inside dir P) :
    Tidy dir P path (State.become { s with disk, store } task a) := by
  refine ⟨hstore, fun left hleft => ?_⟩
  rcases List.mem_or_eq_of_mem_set hleft with hleft | hleft
  · exact h.saving left hleft
  · exact ha left hleft.symm

theorem Tidy.move_alike (h : Tidy dir P path s) {d' : Disk} (halike : Alike dir home P s.disk d')
    {event : Event} (hmove : s.Move event s') :
    ∃ d'', (s.moved d').Move event (s'.moved d'') ∧ Alike dir home P s'.disk d'' := by
  have hstep : ∀ {task : Nat} {step : SaveStep} {left : List SaveStep},
      s.tasks[task]? = some (.saving (step :: left)) → ∀ mishap,
        (step.run d' mishap).1 = (step.run s.disk mishap).1 ∧
          Alike dir home P (step.run s.disk mishap).2 (step.run d' mishap).2 :=
    fun hleft => run_alike halike (h.saving _ (List.mem_of_getElem? hleft) _ List.mem_cons_self)
  cases hmove with
  | submit job => exact ⟨d', .submit job, halike⟩
  | change hf => exact ⟨d', .change hf, halike⟩
  | look hflush => exact ⟨d', .look hflush, halike⟩
  | turn hwaiting hfree => exact ⟨d', .turn hwaiting hfree, halike⟩
  | finish hdone => exact ⟨d', .finish hdone, halike⟩
  | @save task mishap step left disk hleft hrun =>
      obtain ⟨hanswer, hdisk⟩ := hstep hleft mishap
      rw [hrun] at hanswer hdisk
      exact ⟨(step.run d' mishap).2, .save hleft (Prod.ext hanswer rfl), hdisk⟩
  | @fail task mishap step left disk e hleft hrun =>
      obtain ⟨hanswer, hdisk⟩ := hstep hleft mishap
      rw [hrun] at hanswer hdisk
      exact ⟨(step.run d' mishap).2, .fail hleft (Prod.ext hanswer rfl), hdisk⟩
  | drop ha hover => exact ⟨d', .drop ha hover, halike⟩

variable (hfiles : ∀ file ∈ files path, Disk.Inside dir P file)

include hfiles

theorem inside_saveSteps {c : ByteArray} : ∀ step ∈ saveSteps path c, step.Inside dir P :=
  fun _ hstep file hfile => hfiles file (mem_files_of_saveSteps hstep hfile)

theorem Tidy.move (h : Tidy dir P path s) {event : Event} (hmove : s.Move event s') :
    Tidy dir P path s' := by
  have hidle : ∀ {a : Activity}, a.isSaving = false →
      ∀ left, a = .saving left → ∀ step ∈ left, step.Inside dir P := by
    rintro _ ha left rfl
    cases ha
  cases hmove with
  | submit job =>
      refine ⟨h.path_eq, fun left hleft => h.saving left ?_⟩
      rcases List.mem_append.mp hleft with hleft | hleft
      · exact hleft
      · cases List.mem_singleton.mp hleft
  | change => exact h.become _ _ _ h.path_eq (hidle rfl)
  | look =>
      refine h.become _ _ _ h.path_eq (hidle ?_)
      split <;> rfl
  | turn =>
      refine h.become _ _ _ h.path_eq fun left hleft => ?_
      cases hleft
      rw [h.path_eq]
      exact inside_saveSteps hfiles
  | finish => exact h.become _ _ _ h.path_eq (hidle rfl)
  | save hleft =>
      refine h.become _ _ _ h.path_eq fun left heq => ?_
      cases heq
      exact fun step hstep =>
        h.saving _ (List.mem_of_getElem? hleft) step (List.mem_cons_of_mem _ hstep)
  | fail => exact h.become _ _ _ h.path_eq (hidle rfl)
  | drop => exact h.become _ _ _ h.path_eq (hidle rfl)

theorem Tidy.act (h : Tidy dir P path s) (hprepared : Prepared s.disk path) {a : Action}
    (hact : s.act? a = some s') : Tidy dir P path s' := by
  cases a with
  | event event => exact h.move hfiles (State.move_of_step? hact)
  | overwrite bytes =>
      obtain ⟨disk, -, rfl⟩ := Option.map_eq_some_iff.mp hact
      exact ⟨h.path_eq, h.saving⟩
  | reopen mishap =>
      rw [State.act?, h.path_eq, loadWith_of_prepared hprepared] at hact
      cases hact
      refine ⟨?_, fun _ hleft => nomatch hleft⟩
      cases (openTables s.disk path mishap).1 with
      | error e => exact h.path_eq
      | ok t => rfl

theorem Tidy.act_elsewhere (h : Tidy dir P path s) (hprepared : Prepared s.disk path)
    (hhome : s.disk.Home dir home) {a : Action} (hact : s.act? a = some s') :
    Alike dir home (¬ P ·) s.disk s'.disk := by
  cases a with
  | event event =>
      have hstep : ∀ {task : Nat} {step : SaveStep} {left : List SaveStep},
          s.tasks[task]? = some (.saving (step :: left)) → step.Inside dir P :=
        fun hleft => h.saving _ (List.mem_of_getElem? hleft) _ List.mem_cons_self
      cases State.move_of_step? hact with
      | @save task mishap step left disk hleft hrun =>
          have helsewhere := run_elsewhere hhome (hstep hleft) mishap
          rw [hrun] at helsewhere
          exact helsewhere
      | @fail task mishap step left disk e hleft hrun =>
          have helsewhere := run_elsewhere hhome (hstep hleft) mishap
          rw [hrun] at helsewhere
          exact helsewhere
      | _ => exact .refl hhome _
  | overwrite bytes =>
      obtain ⟨disk, hwrite, rfl⟩ := Option.map_eq_some_iff.mp hact
      rw [h.path_eq] at hwrite
      exact hhome.write (hfiles path (by simp [files])) (write_of_toOption hwrite)
  | reopen mishap =>
      rw [State.act?, h.path_eq, loadWith_of_prepared hprepared] at hact
      cases hact
      exact openTables_elsewhere (hfiles path (by simp [files]))
        (hfiles (backup path) (by simp [files])) hhome mishap

theorem Tidy.act_alike (h : Tidy dir P path s) {d' : Disk} (hprepared : Prepared s.disk path)
    (hprepared' : Prepared d' path) (halike : Alike dir home P s.disk d') {a : Action}
    (hact : s.act? a = some s') :
    ∃ d'', (s.moved d').act? a = some (s'.moved d'') ∧ Alike dir home P s'.disk d'' := by
  cases a with
  | event event =>
      obtain ⟨d'', hmove, hdisk⟩ := h.move_alike halike (State.move_of_step? hact)
      exact ⟨d'', State.step?_of_move hmove, hdisk⟩
  | overwrite bytes =>
      obtain ⟨disk, hwrite, rfl⟩ := Option.map_eq_some_iff.mp hact
      have hmatch := halike.write (hfiles path (by simp [files])) bytes
      rw [h.path_eq] at hwrite
      rw [write_of_toOption hwrite] at hmatch
      generalize hwrite' : d'.write path bytes = result at hmatch
      cases hmatch with
      | ok hdisk =>
          refine ⟨_, ?_, hdisk⟩
          simp [State.act?, State.moved, h.path_eq, hwrite', Except.toOption]
  | reopen mishap =>
      obtain ⟨htables, hdisk⟩ := openTables_alike (hfiles path (by simp [files]))
        (hfiles (backup path) (by simp [files])) halike mishap
      rw [State.act?, h.path_eq, loadWith_of_prepared hprepared] at hact
      cases hact
      refine ⟨_, ?_, hdisk⟩
      rw [State.act?, State.moved, h.path_eq, loadWith_of_prepared hprepared', htables]
      rfl

end Steps

namespace Yard

variable {ι : Type} {dir : String} {home : List String} {paths : ι → String} {y y' : Yard ι}

/-- Stores in one directory, each with tasks that have to do with its own files only. -/
structure Ordered (dir : String) (home : List String) (paths : ι → String) (y : Yard ι) :
    Prop where
  home : y.disk.Home dir home
  tidy : ∀ i, Tidy dir (· ∈ Path.names (paths i)) (paths i) (y.seen i)

/-- Paths in one directory with names that differ before their extensions. -/
structure Apart (dir : String) (paths : ι → String) : Prop where
  parent : ∀ i, Path.parent? (paths i) = some dir
  named : ∀ i, Path.Named (paths i)
  stems : ∀ i j, i ≠ j → Path.stem (Path.last (paths i)) ≠ Path.stem (Path.last (paths j))

theorem Apart.files (h : Apart dir paths) (i : ι) :
    ∀ file ∈ files (paths i), Disk.Inside dir (· ∈ Path.names (paths i)) file :=
  fun _ hfile => inside_of_mem_files (h.parent i) (h.named i) hfile

theorem Apart.not_mem_names (h : Apart dir paths) {i j : ι} (hne : i ≠ j) {name : String}
    (hname : name ∈ Path.names (paths i)) : name ∉ Path.names (paths j) := by
  intro hname'
  apply h.stems i j hne
  rw [← Path.stem_of_mem_names (h.named i) hname, Path.stem_of_mem_names (h.named j) hname']

theorem Ordered.prepared (h : Ordered dir home paths y) (hask : Reachable dir)
    (hapart : Apart dir paths) (i : ι) : Prepared (y.seen i).disk (paths i) :=
  prepared_of_home h.home hask (hapart.parent i)

variable [DecidableEq ι]

theorem seen_act {i : ι} {a : ι × Action} (hact : y.act? a = some y') :
    ∃ s, (y.seen a.1).act? a.2 = some s ∧ y'.disk = s.disk ∧
      y'.seen i = if i = a.1 then s else (y.seen i).moved s.disk := by
  obtain ⟨s, hs, rfl⟩ := Option.map_eq_some_iff.mp hact
  refine ⟨s, hs, rfl, ?_⟩
  by_cases hi : i = a.1
  · subst hi
    simp [seen]
  · simp [seen, State.moved, hi]

section Course

variable (hask : Reachable dir) (hapart : Apart dir paths)

include hask hapart

theorem Ordered.act (h : Ordered dir home paths y) {a : ι × Action}
    (hact : y.act? a = some y') : Ordered dir home paths y' := by
  have htidy : ∀ i, Tidy dir (· ∈ Path.names (paths i)) (paths i) (y'.seen i) := by
    intro i
    obtain ⟨s, hs, -, hseen⟩ := seen_act (i := i) hact
    rw [hseen]
    split
    · rename_i hi
      subst hi
      exact (h.tidy _).act (hapart.files _) (h.prepared hask hapart _) hs
    · exact (h.tidy i).moved s.disk
  obtain ⟨s, hs, hdisk, -⟩ := seen_act (i := a.1) hact
  have helsewhere := (h.tidy a.1).act_elsewhere (hapart.files a.1) (h.prepared hask hapart a.1)
    h.home hs
  exact ⟨hdisk ▸ helsewhere.right, htidy⟩

theorem Ordered.own_act (h : Ordered dir home paths y) {a : ι × Action}
    (hact : y.act? a = some y') (i : ι) {d : Disk}
    (halike : Alike dir home (· ∈ Path.names (paths i)) y.disk d) :
    ∃ d', ((y.seen i).moved d).actAll? (own i [a]) = some ((y'.seen i).moved d') ∧
      Alike dir home (· ∈ Path.names (paths i)) y'.disk d' := by
  obtain ⟨s, hs, hdisk, hseen⟩ := seen_act (i := i) hact
  rw [hseen, hdisk]
  by_cases hi : i = a.1
  · subst hi
    have hprepared := prepared_of_home halike.right hask (hapart.parent a.1)
    obtain ⟨d', hact', halike'⟩ := (h.tidy a.1).act_alike (hapart.files a.1)
      (h.prepared hask hapart a.1) hprepared halike hs
    refine ⟨d', ?_, halike'⟩
    simpa [own, State.actAll?] using hact'
  · have helsewhere := (h.tidy a.1).act_elsewhere (hapart.files a.1)
      (h.prepared hask hapart a.1) h.home hs
    have hkept := helsewhere.mono fun name hname => hapart.not_mem_names hi hname
    refine ⟨d, ?_, hkept.symm.trans halike⟩
    simp [own, State.actAll?, State.moved, Ne.symm hi, hi]

theorem Ordered.own_run (h : Ordered dir home paths y) {actions : List (ι × Action)}
    (hrun : y.run? actions = some y') (i : ι) {d : Disk}
    (halike : Alike dir home (· ∈ Path.names (paths i)) y.disk d) :
    ∃ d', ((y.seen i).moved d).actAll? (own i actions) = some ((y'.seen i).moved d') ∧
      Alike dir home (· ∈ Path.names (paths i)) y'.disk d' := by
  induction actions generalizing y d with
  | nil =>
      cases hrun
      exact ⟨d, rfl, halike⟩
  | cons a actions ih =>
      obtain ⟨y₁, hact, hrest⟩ := Option.bind_eq_some_iff.mp hrun
      obtain ⟨d₁, hown, halike₁⟩ := h.own_act hask hapart hact i halike
      obtain ⟨d', hrest', halike'⟩ := ih (h.act hask hapart hact) hrest halike₁
      refine ⟨d', ?_, halike'⟩
      have hsplit : own i (a :: actions) = own i [a] ++ own i actions := by
        rw [own, own, own, ← List.map_append, ← List.filter_append]
        rfl
      rw [hsplit, State.actAll?, List.foldlM_append]
      rw [State.actAll?] at hown
      rw [hown]
      exact hrest'

end Course

/-- Stores of one directory whose names differ before their extensions do not see each other:
whatever happens to all of them, each ends and opens as it would alone. -/
theorem opens_by_own_actions {d : Disk} {stores : ι → FileStore}
    (hthere : dir = "" ∨ d.isDirectory dir = true)
    (hapart : Apart dir fun i => (stores i).path) {actions : List (ι × Action)}
    (hrun : (start d stores).run? actions = some y) (i : ι) :
    ∃ s, (State.start d (stores i)).actAll? (own i actions) = some s ∧
      s.store = (y.desks i).store ∧ s.tasks = (y.desks i).tasks ∧
      ∀ mishap, (loadWith s.disk (stores i).path mishap).1 =
        (loadWith y.disk (stores i).path mishap).1 := by
  obtain ⟨hask, home, hhome⟩ := exists_home_of_directory hthere
  have hstart : Ordered dir home (fun i => (stores i).path) (start d stores) :=
    ⟨hhome, fun i => tidy_start d rfl⟩
  obtain ⟨d', hown, halike⟩ := hstart.own_run hask hapart hrun i (.refl hhome _)
  refine ⟨_, hown, rfl, rfl, fun mishap => ?_⟩
  have hprepared := prepared_of_home halike.left hask (hapart.parent i)
  have hprepared' := prepared_of_home halike.right hask (hapart.parent i)
  have hpath := hapart.files i (stores i).path (by simp [FileStore.files])
  have hbackup := hapart.files i (backup (stores i).path) (by simp [FileStore.files])
  have htables := (openTables_alike hpath hbackup halike mishap).1
  rw [State.moved, loadWith_of_prepared hprepared, loadWith_of_prepared hprepared', htables]

def pair (first second : String) : Bool → FileStore
  | false => served first .empty
  | true => served second .empty

def saving (task : Nat) (endpoint : String) : List Event :=
  [.submit (.change fun t => t.putRow endpoint (.new endpoint .epoch)), .begin task, .turn task] ++
    List.replicate 6 (.save task none)

def mixed : List (Bool × Action) :=
  (saving 0 "pypi.org").map (false, .event ·) ++ (saving 0 "crates.io").map (true, .event ·) ++
    [(false, .overwrite "\x7b".toUTF8), (false, .reopen none)]

theorem apart_mixed :
    Apart "" fun b => (pair "limits.json" "cache.json" b).path where
  parent b := by cases b <;> decide
  named b := by cases b <;> exact ⟨by decide, by decide, by decide⟩
  stems b c hne := by
    cases b <;> cases c
    · cases hne rfl
    · decide
    · decide
    · cases hne rfl

theorem opens_by_own_actions_mixed :
    ∃ y, (start .empty (pair "limits.json" "cache.json")).run? mixed = some y ∧
      ∃ s, (State.start .empty (served "limits.json" .empty)).actAll? (own false mixed) = some s ∧
        (load y.disk "limits.json").1 = (load s.disk "limits.json").1 := by
  obtain ⟨y, hrun⟩ : ∃ y, (start .empty (pair "limits.json" "cache.json")).run? mixed = some y :=
    ⟨_, rfl⟩
  obtain ⟨s, hown, -, -, hload⟩ := opens_by_own_actions (.inl rfl) apart_mixed hrun false
  exact ⟨y, hrun, s, hown, (hload none).symm⟩

def cutShort : Disk :=
  (Disk.empty.put ["state.json"] (.file (content onePackage))).put ["state.db"]
    (.file "\x7b".toUTF8)

/-- Two state files whose names differ in the extension alone have one backup. -/
theorem opens_with_rows_of_other :
    ∃ actions y, (start cutShort (pair "state.json" "state.db")).run? actions = some y ∧
      own true actions = [] ∧
      (load cutShort "state.db").1 = .ok (served "state.db" .empty) ∧
      (load y.disk "state.db").1 = .ok (served "state.db" (Snapshot.reread onePackage)) ∧
      (Snapshot.reread onePackage).row? "pypi.org" = some (.new "pypi.org" .epoch) := by
  have hprepared : ∀ d : Disk, Prepared d "state.db" := fun _ => prepared_of_bare rfl
  have hcorrupt : ∀ d : Disk, d.read "state.db" = .ok "\x7b".toUTF8 →
    readTables d "state.db" = .ok none :=
    fun _ hread => readTables_of_read hread (fromUTF8?_toUTF8 "\x7b")
  refine ⟨(saving 0 "crates.io").map (false, .event ·), _, rfl, rfl, ?_, ?_, ?_⟩
  · rw [load_of_corrupt (hprepared _) (hcorrupt _ rfl)]
    rfl
  · rw [load_of_corrupt (hprepared _) (hcorrupt _ rfl), held?_of_content rfl]
    rfl
  · exact row?_reread_onePackage

end Yard

end NameScout.Sharing
