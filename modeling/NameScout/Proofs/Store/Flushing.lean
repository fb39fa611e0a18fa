import NameScout.Proofs.Store.Crash
import NameScout.Proofs.Store.Turns

namespace NameScout

namespace FileStore

open Disk

variable {d d' : Disk} {path : String} {saved : Tables} {left : List SaveStep} {missed : Bool}

/-- Some tables are being saved, and these steps are left; something may have gone wrong unnoticed
in those that were taken. -/
def Underway (d : Disk) (path : String) (saved : Tables) (left : List SaveStep) (missed : Bool) :
    Prop :=
  ∃ d₀ done mishaps, Prepared d₀ path ∧ saveSteps path (content saved) = done ++ left ∧
    done.length = mishaps.length ∧ runSteps d₀ done mishaps = (.ok (), d) ∧
      missed = misses done mishaps

theorem Underway.start (h : Prepared d path) (saved : Tables) :
    Underway d path saved (saveSteps path (content saved)) false :=
  ⟨d, [], [], h, rfl, rfl, rfl, rfl⟩

theorem runSteps_concat {steps : List SaveStep} {mishaps : List (Option Mishap)}
    (hlength : steps.length = mishaps.length) (h : runSteps d steps mishaps = (.ok (), d'))
    (s : SaveStep) (mishap : Option Mishap) :
    runSteps d (steps ++ [s]) (mishaps ++ [mishap]) = s.run d' mishap ∧
      renames d (steps ++ [s]) (mishaps ++ [mishap]) =
        (renames d steps mishaps || renames d' [s] [mishap]) := by
  induction steps generalizing d mishaps with
  | nil =>
      cases h
      obtain rfl := List.length_eq_zero_iff.mp hlength.symm
      exact ⟨runSteps_single s _, (Bool.false_or _).symm⟩
  | cons first steps ih =>
      cases mishaps with
      | nil => cases hlength
      | cons mishap' mishaps =>
          obtain ⟨d₁, hrun, hrest⟩ := runSteps_cons_ok h
          obtain ⟨hsteps, hrenames⟩ := ih (Nat.succ.inj hlength) hrest
          rw [List.headD_cons] at hrun
          refine ⟨?_, ?_⟩
          · rw [List.cons_append, List.cons_append, runSteps, List.headD_cons, hrun]
            exact hsteps
          · rw [List.cons_append, List.cons_append, renames, renames, List.headD_cons,
              List.headD_cons, hrun, Bool.or_assoc]
            exact congrArg (first.isRename || ·) hrenames

theorem Underway.next {step : SaveStep} {mishap : Option Mishap}
    (h : Underway d path saved (step :: left) missed) (hrun : step.run d mishap = (.ok (), d')) :
    Underway d' path saved left (missed || misses [step] [mishap]) := by
  obtain ⟨d₀, done, mishaps, hprepared, hsteps, hlength, hdone, rfl⟩ := h
  refine ⟨d₀, done ++ [step], mishaps ++ [mishap], hprepared, ?_, ?_, ?_, ?_⟩
  · rw [hsteps, List.append_assoc, List.singleton_append]
  · simp only [List.length_append, hlength, List.length_singleton]
  · exact (runSteps_concat hlength hdone step mishap).1.trans hrun
  · rw [misses_concat hlength]

theorem not_renames_of_left {d₀ : Disk} {step : SaveStep} {done : List SaveStep}
    (hsteps : saveSteps path (content saved) = done ++ step :: left)
    (mishaps : List (Option Mishap)) : renames d₀ done mishaps = false := by
  have hlength : 5 = (done ++ step :: left).length := congrArg List.length hsteps
  have hdone : done = (preparing path (content saved)).take done.length := by
    rw [List.length_append, List.length_cons] at hlength
    rw [preparing, List.take_take, Nat.min_eq_left (by omega), hsteps, List.take_left]
  refine renames_of_none (fun s hs => ?_) mishaps
  rw [hdone] at hs
  exact isRename_of_mem_preparing (List.mem_of_mem_take hs)

/-- A step of saving leaves the file as it is or puts in its place what is being saved. -/
theorem Underway.reads {step : SaveStep} (h : Underway d path saved (step :: left) missed)
    (htmp : Path.extension? path ≠ some "tmp") (hbackup : Path.extension? path ≠ some "backup")
    (mishap : Option Mishap) : Prepared (step.run d mishap).2 path ∧
      (renames d [step] [mishap] = false →
        readTables (step.run d mishap).2 path = readTables d path) ∧
      (renames d [step] [mishap] = true → (missed || misses [step] [mishap]) = false →
        readTables (step.run d mishap).2 path = .ok (some (Snapshot.reread saved))) := by
  obtain ⟨d₀, done, mishaps, hprepared, hsteps, hlength, hdone, rfl⟩ := h
  have hnone : renames d₀ done mishaps = false := not_renames_of_left hsteps mishaps
  obtain ⟨hsnoc, hrenames⟩ := runSteps_concat hlength hdone step mishap
  rw [hnone, Bool.false_or] at hrenames
  have htake : (saveSteps path (content saved)).take (done.length + 1) = done ++ [step] := by
    rw [hsteps, List.take_append, List.take_of_length_le (Nat.le_succ _)]
    simp
  have hbefore := (reads_after_steps htmp hbackup hprepared saved done.length mishaps).2.1
  rw [hsteps, List.take_left, hdone] at hbefore
  obtain ⟨hprepared', hkept, hsaved⟩ := reads_after_steps htmp hbackup hprepared saved
    (done.length + 1) (mishaps ++ [mishap])
  rw [htake, hsnoc] at hprepared' hkept hsaved
  rw [hrenames] at hkept hsaved
  rw [misses_concat hlength] at hsaved
  exact ⟨hprepared', fun h => (hkept h).trans (hbefore hnone).symm, hsaved⟩

theorem Underway.renames_last {step : SaveStep} {mishap : Option Mishap}
    (h : Underway d path saved [step] missed) (hrun : step.run d mishap = (.ok (), d')) :
    renames d [step] [mishap] = true := by
  obtain ⟨-, done, -, -, hsteps, -⟩ := h
  rw [saveSteps_eq] at hsteps
  obtain ⟨-, hlast⟩ := List.append_inj' hsteps rfl
  cases hlast
  rw [renames_single, List.headD_cons, hrun]
  rfl

theorem Underway.end (h : Underway d path saved [] missed)
    (htmp : Path.extension? path ≠ some "tmp") (hbackup : Path.extension? path ≠ some "backup")
    (hwhole : missed = false) : readTables d path = .ok (some (Snapshot.reread saved)) := by
  obtain ⟨d₀, done, mishaps, hprepared, hsteps, -, hdone, rfl⟩ := h
  rw [List.append_nil] at hsteps
  subst hsteps
  exact (reads_of_saved htmp hbackup hprepared hdone).2 hwhole

end FileStore

namespace Sharing

open FileStore

/-- Which task has changed the tables last, whether it has become a task's turn since, and whether
the tables were last taken for saved after one that had become its turn before that change. Then
whether something went wrong unnoticed since it last became a task's turn, and whether it did in the
last saving whose renaming took place. -/
structure Trail where
  last : Option Nat
  fresh : Bool
  stale : Bool
  missed : Bool
  torn : Bool

namespace Trail

def start : Trail :=
  { last := none, fresh := true, stale := false, missed := false, torn := false }

def next (t : Trail) (s : State) : Event → Trail
  | .begin task => match s.tasks[task]? with
      | some (.beginning (.change _)) =>
          { t with last := some task, fresh := false, stale := false }
      | _ => t
  | .turn _ => { t with fresh := true, missed := false }
  | .save task mishap => match s.tasks[task]? with
      | some (.saving []) => { t with stale := !t.fresh }
      | some (.saving (step :: _)) =>
          let missed := t.missed || misses [step] [mishap]
          { t with missed, torn := if renames s.disk [step] [mishap] then missed else t.torn }
      | _ => t
  | .submit _ | .drop _ => t

def after (t : Trail) (s : State) : List Event → Trail
  | [] => t
  | event :: events => match s.step? event with
      | some s' => (t.next s event).after s' events
      | none => t

theorem next_change {s : State} {task : Nat} {f : Tables → Tables} (t : Trail)
    (h : s.tasks[task]? = some (.beginning (.change f))) :
    t.next s (.begin task) = { t with last := some task, fresh := false, stale := false } := by
  rw [next, h]

theorem next_look {s : State} {task : Nat} (t : Trail)
    (h : s.tasks[task]? = some (.beginning .flush)) : t.next s (.begin task) = t := by
  rw [next, h]

theorem next_finish {s : State} {task : Nat} (t : Trail) (mishap : Option Disk.Mishap)
    (h : s.tasks[task]? = some (.saving [])) :
    t.next s (.save task mishap) = { t with stale := !t.fresh } := by
  rw [next, h]

theorem next_save {s : State} {task : Nat} {step : SaveStep} {left : List SaveStep} (t : Trail)
    (mishap : Option Disk.Mishap) (h : s.tasks[task]? = some (.saving (step :: left))) :
    t.next s (.save task mishap) =
      { t with
        missed := t.missed || misses [step] [mishap]
        torn := if renames s.disk [step] [mishap] then t.missed || misses [step] [mishap]
          else t.torn } := by
  rw [next, h]

theorem exists_late_of_next {t : Trail} {s : State} {event : Event}
    (h : (t.next s event).missed = true ∨ (t.next s event).torn = true) :
    (t.missed = true ∨ t.torn = true) ∨
      ∃ task mishap, event = .save task (some mishap) ∧ mishap.late = true := by
  cases event with
  | submit | drop => exact .inl h
  | turn task => exact .inl (.inr (h.resolve_left Bool.false_ne_true))
  | begin task =>
      rw [next] at h
      split at h <;> exact .inl h
  | save task mishap =>
      rw [next] at h
      split at h
      · exact .inl h
      · rename_i step left hb
        have hmissed : (t.missed || misses [step] [mishap]) = true ∨ t.torn = true := by
          rcases h with h | h
          · exact .inl h
          · dsimp only at h
            split at h
            · exact .inl h
            · exact .inr h
        rcases hmissed with hmissed | htorn
        · rcases Bool.or_eq_true_iff.mp hmissed with hbefore | hnow
          · exact .inl (.inl hbefore)
          · obtain ⟨m, hm, hlate⟩ := exists_late_of_misses hnow
            exact .inr ⟨task, m, by rw [List.mem_singleton.mp hm], hlate⟩
        · exact .inl (.inr htorn)
      · exact .inl h

theorem exists_late_of_after {t : Trail} {s : State} {events : List Event}
    (h : (t.after s events).missed = true ∨ (t.after s events).torn = true) :
    (t.missed = true ∨ t.torn = true) ∨
      ∃ task mishap, .save task (some mishap) ∈ events ∧ mishap.late = true := by
  induction events generalizing t s with
  | nil => exact .inl h
  | cons event events ih =>
      rw [after] at h
      split at h
      · rcases ih h with hnext | ⟨task, mishap, hmem, hlate⟩
        · refine (exists_late_of_next hnext).imp_right ?_
          rintro ⟨task, mishap, rfl, hlate⟩
          exact ⟨task, mishap, List.mem_cons_self, hlate⟩
        · exact .inr ⟨task, mishap, List.mem_cons_of_mem event hmem, hlate⟩
      · exact .inl h

end Trail

/-- How far the task that made the last change may have come. -/
def Activity.Settles (t : Trail) : Activity → Prop
  | .beginning _ => False
  | .saving _ => t.fresh = true
  | .ended (.ok ()) => t.fresh = true ∧ t.stale = false
  | _ => True

theorem Activity.Settles.mono {t t' : Trail} {a : Activity} (h : a.Settles t)
    (hfresh : t.fresh = true → t'.fresh = true)
    (hstale : t.fresh = true → t.stale = false → t'.stale = false) : a.Settles t' := by
  cases a with
  | saving left => exact hfresh h
  | ended outcome =>
      cases outcome with
      | ok _ => exact ⟨hfresh h.1, hstale h.1 h.2⟩
      | error e => trivial
  | _ => exact h

/-- One task at a time is saving, and the task that made the last change has come as far as the
trail says. -/
structure Orderly (s : State) (t : Trail) : Prop where
  single : ∀ (i j : Nat) (left left' : List SaveStep), s.tasks[i]? = some (.saving left) →
    s.tasks[j]? = some (.saving left') → i = j
  last : ∀ task, t.last = some task → ∃ a, s.tasks[task]? = some a ∧ a.Settles t
  untouched : t.last = none → t.fresh = true ∧ t.stale = false
  cleared : t.stale = true → s.store.dirty = false

variable {s s' : State} {t t' : Trail}

theorem orderly_start (disk : Disk) (store : FileStore) :
    Orderly (.start disk store) .start where
  single i j left left' h := by cases h
  last task h := by cases h
  untouched _ := ⟨rfl, rfl⟩
  cleared h := by cases h

theorem Orderly.last_become (h : Orderly s t) {task : Nat} {a b : Activity}
    (hb : s.tasks[task]? = some b) (hlast : t'.last = t.last)
    (hself : b.Settles t → a.Settles t') (hother : ∀ c : Activity, c.Settles t → c.Settles t') :
    ∀ i, t'.last = some i → ∃ c, (s.become task a).tasks[i]? = some c ∧ c.Settles t' := by
  intro i hi
  obtain ⟨c, hc, hsettles⟩ := h.last i (hlast ▸ hi)
  rw [State.tasks_become hb]
  by_cases heq : i = task
  · subst heq
    rw [hb] at hc
    cases hc
    exact ⟨a, if_pos rfl, hself hsettles⟩
  · exact ⟨c, (if_neg heq).trans hc, hother c hsettles⟩

theorem Orderly.single_become (h : Orderly s t) {task : Nat} {a b : Activity}
    (hb : s.tasks[task]? = some b)
    (ha : a.isSaving = true → ∀ (i : Nat) (left : List SaveStep),
      s.tasks[i]? = some (.saving left) → i = task) :
    ∀ (i j : Nat) (left left' : List SaveStep), (s.become task a).tasks[i]? = some (.saving left) →
      (s.become task a).tasks[j]? = some (.saving left') → i = j := by
  intro i j left left' hi hj
  rw [State.tasks_become hb] at hi hj
  split at hi <;> split at hj
  · rename_i hi' hj'
    exact hi'.trans hj'.symm
  · rename_i hi' hj'
    cases hi
    exact absurd (ha rfl j left' hj) hj'
  · rename_i hi' hj'
    cases hj
    exact absurd (ha rfl i left hi) hi'
  · exact h.single i j left left' hi hj

theorem Orderly.move {event : Event} (h : Orderly s t) (hmove : s.Move event s') :
    Orderly s' (t.next s event) := by
  cases hmove with
  | submit job =>
      constructor
      · intro i j left left' hi hj
        exact h.single i j left left' (State.saving_of_submit hi) (State.saving_of_submit hj)
      · intro task htask
        obtain ⟨a, ha, hsettles⟩ := h.last task htask
        refine ⟨a, ?_, hsettles⟩
        rw [List.getElem?_append_left (List.getElem?_eq_some_iff.mp ha).1, ha]
      · exact h.untouched
      · exact h.cleared
  | @change task f hb =>
      rw [t.next_change hb]
      refine ⟨h.single_become hb (fun ha => by cases ha), ?_, (fun hnone => by cases hnone),
        (fun hstale => by cases hstale)⟩
      intro i hi
      cases hi
      exact ⟨.waiting, (State.tasks_become hb .waiting task).trans (if_pos rfl), trivial⟩
  | @look task hb =>
      rw [t.next_look hb]
      refine ⟨h.single_become hb ?_, h.last_become hb rfl False.elim fun _ hc => hc, h.untouched,
        h.cleared⟩
      split <;> exact fun ha => by cases ha
  | @turn task hb hfree =>
      refine ⟨h.single_become hb fun _ i left hi =>
        absurd hi (State.not_saving_of_turnIsFree hfree), ?_,
        fun hnone => ⟨rfl, (h.untouched hnone).2⟩, h.cleared⟩
      exact h.last_become hb rfl (fun _ => rfl) fun _ hc => hc.mono (fun _ => rfl) fun _ => id
  | @finish task mishap hb =>
      rw [t.next_finish mishap hb]
      refine ⟨h.single_become hb (fun ha => by cases ha), ?_, fun hnone => ?_, fun _ => rfl⟩
      · have hstale (hfresh : t.fresh = true) : (!t.fresh) = false := by
          rw [hfresh]
          rfl
        exact h.last_become hb rfl (fun hfresh => ⟨hfresh, hstale hfresh⟩) fun _ hc =>
          hc.mono id fun hfresh _ => hstale hfresh
      · obtain ⟨hfresh, -⟩ := h.untouched hnone
        exact ⟨hfresh, by rw [hfresh]; rfl⟩
  | @save task mishap step left disk hb hrun =>
      rw [t.next_save mishap hb]
      exact ⟨h.single_become hb fun _ i left' hi => h.single i task left' _ hi hb,
        h.last_become hb rfl (fun hc => hc) fun _ hc => hc.mono id fun _ => id, h.untouched,
        h.cleared⟩
  | @fail task mishap step left disk e hb hrun =>
      rw [t.next_save mishap hb]
      exact ⟨h.single_become hb (fun ha => by cases ha),
        h.last_become hb rfl (fun _ => trivial) fun _ hc => hc.mono id fun _ => id, h.untouched,
        h.cleared⟩
  | @drop task b hb hover =>
      exact ⟨h.single_become hb (fun ha => by cases ha),
        h.last_become hb rfl (fun _ => trivial) fun _ hc => hc, h.untouched, h.cleared⟩

/-- The change that a saving has outrun belongs to a task that was given up or has failed. -/
theorem Orderly.exists_lost (h : Orderly s t) (hidle : s.isIdle = true) (hstale : t.stale = true) :
    ∃ task, t.last = some task ∧
      (s.tasks[task]? = some .dropped ∨ ∃ e, s.tasks[task]? = some (.ended (.error e))) := by
  cases hlast : t.last with
  | none =>
      rw [(h.untouched hlast).2] at hstale
      cases hstale
  | some task =>
      obtain ⟨a, ha, hsettles⟩ := h.last task hlast
      have hover : a.isOver = true := List.all_eq_true.mp hidle a (List.mem_of_getElem? ha)
      refine ⟨task, rfl, ?_⟩
      cases a with
      | dropped => exact .inl ha
      | ended outcome =>
          cases outcome with
          | error e => exact .inr ⟨e, ha⟩
          | ok _ =>
              rw [hsettles.2] at hstale
              cases hstale
      | beginning | waiting | saving => cases hover

section Kept

/-- Tables that agree with those in memory if the store takes these for saved, and rightly. -/
def Trusted (s : State) (t : Trail) (u : Tables) : Prop :=
  s.store.dirty = false → t.stale = false → u.Agrees s.store.tables

/-- Unless the file is torn it can be read, and what it holds can be trusted at every step of a
saving. -/
structure Kept (path : String) (s : State) (t : Trail) : Prop where
  path_eq : s.store.path = path
  keyed : s.store.tables.Keyed
  jobs : ∀ (task : Nat) (f : Tables → Tables),
    s.tasks[task]? = some (.beginning (.change f)) → ∀ u, u.Keyed → (f u).Keyed
  prepared : Prepared s.disk path
  reads : t.torn = false → ∃ u, readTables s.disk path = .ok (some u) ∧ Trusted s t u
  saver : ∀ (task : Nat) (left : List SaveStep), s.tasks[task]? = some (.saving left) →
    ∃ saved, Underway s.disk path saved left t.missed ∧ saved.Keyed ∧
      (left = [] → t.torn = t.missed) ∧ (t.fresh = true → saved = s.store.tables) ∧
        (t.fresh = false → s.store.dirty = true)

variable {path : String}

theorem Kept.jobs_become (h : Kept path s t) {task : Nat} {a b : Activity}
    (hb : s.tasks[task]? = some b) (ha : ∀ job, a ≠ .beginning job) :
    ∀ (i : Nat) (f : Tables → Tables), (s.become task a).tasks[i]? =
      some (.beginning (.change f)) → ∀ u, u.Keyed → (f u).Keyed :=
  fun i f hi => h.jobs i f (State.of_become hb hi (ha _)).2

theorem Kept.step (h : Kept path s t) (htmp : Path.extension? path ≠ some "tmp")
    (hbackup : Path.extension? path ≠ some "backup") {task : Nat} {step : SaveStep}
    {left : List SaveStep} (hb : s.tasks[task]? = some (.saving (step :: left)))
    (mishap : Option Disk.Mishap) : Prepared (step.run s.disk mishap).2 path ∧
      ((t.next s (.save task mishap)).torn = false →
        ∃ u, readTables (step.run s.disk mishap).2 path = .ok (some u) ∧ Trusted s t u) := by
  obtain ⟨saved, hunderway, hkeyed, -, hfresh, hdirty⟩ := h.saver task _ hb
  obtain ⟨hprepared, hkept, hsaved⟩ := hunderway.reads htmp hbackup mishap
  refine ⟨hprepared, fun hwhole => ?_⟩
  rw [t.next_save mishap hb] at hwhole
  cases hrenames : renames s.disk [step] [mishap] with
  | false =>
      simp only [hrenames, Bool.false_eq_true, if_false] at hwhole
      rw [hkept hrenames]
      exact h.reads hwhole
  | true =>
      simp only [hrenames, if_true] at hwhole
      refine ⟨_, hsaved hrenames hwhole, fun hclean _ => ?_⟩
      cases hf : t.fresh with
      | true => exact hfresh hf ▸ Snapshot.agrees_reread hkeyed
      | false =>
          rw [hdirty hf] at hclean
          cases hclean

theorem Kept.move {event : Event} (h : Kept path s t) (ho : Orderly s t)
    (htmp : Path.extension? path ≠ some "tmp") (hbackup : Path.extension? path ≠ some "backup")
    (hjob : ∀ f, event = .submit (.change f) → ∀ u, u.Keyed → (f u).Keyed)
    (hmove : s.Move event s') : Kept path s' (t.next s event) := by
  cases hmove with
  | submit job =>
      refine ⟨h.path_eq, h.keyed, ?_, h.prepared, h.reads, ?_⟩
      · intro task f htask
        rcases State.of_submit htask with htask | heq
        · exact h.jobs task f htask
        · cases heq
          exact hjob f rfl
      · exact fun task left htask => h.saver task left (State.saving_of_submit htask)
  | @change task f hb =>
      rw [t.next_change hb]
      refine ⟨h.path_eq, h.jobs task f hb _ h.keyed, h.jobs_become hb (fun _ => nofun), h.prepared,
        fun hwhole => ?_, fun i left hi => ?_⟩
      · obtain ⟨u, hread, -⟩ := h.reads hwhole
        exact ⟨u, hread, fun hclean => by cases hclean⟩
      · obtain ⟨saved, hunderway, hkeyed, htorn, -⟩ :=
          h.saver i left (State.of_become hb hi nofun).2
        exact ⟨saved, hunderway, hkeyed, htorn, (fun hfresh => by cases hfresh), fun _ => rfl⟩
  | @look task hb =>
      rw [t.next_look hb]
      refine ⟨h.path_eq, h.keyed, h.jobs_become hb ?_, h.prepared, h.reads, fun i left hi =>
        h.saver i left (State.of_become hb hi ?_).2⟩
      · split <;> exact fun _ => nofun
      · split <;> exact nofun
  | @turn task hb hfree =>
      refine ⟨h.path_eq, h.keyed, h.jobs_become hb (fun _ => nofun), h.prepared, h.reads,
        fun i left hi => ?_⟩
      rw [State.tasks_become hb] at hi
      split at hi
      · cases hi
        rw [h.path_eq]
        exact ⟨s.store.tables, .start h.prepared _, h.keyed, (fun hnil => by cases hnil),
          fun _ => rfl, (fun hfresh => by cases hfresh)⟩
      · exact absurd hi (State.not_saving_of_turnIsFree hfree)
  | @finish task mishap hb =>
      rw [t.next_finish mishap hb]
      -- What is taken for saved is saved if the tables have not changed since the turn began.
      obtain ⟨saved, hunderway, hkeyed, htorn, hfresh, -⟩ := h.saver task [] hb
      refine ⟨h.path_eq, h.keyed, h.jobs_become hb (fun _ => nofun), h.prepared,
        fun hwhole => ?_, fun i left hi => ?_⟩
      · refine ⟨_, hunderway.end htmp hbackup ((htorn rfl).symm.trans hwhole), fun _ hstale => ?_⟩
        have hsaved : saved = s.store.tables := hfresh (by simpa using hstale)
        exact hsaved ▸ Snapshot.agrees_reread hkeyed
      · obtain ⟨hne, hi⟩ := State.of_become hb hi nofun
        exact absurd (ho.single i task left [] hi hb) hne
  | @save task mishap step left disk hb hrun =>
      have hstep := h.step htmp hbackup hb mishap
      rw [hrun] at hstep
      rw [t.next_save mishap hb] at hstep ⊢
      refine ⟨h.path_eq, h.keyed, h.jobs_become hb (fun _ => nofun), hstep.1, hstep.2,
        fun i left' hi => ?_⟩
      rw [State.tasks_become (s := { s with disk }) hb] at hi
      split at hi
      · cases hi
        obtain ⟨saved, hunderway, hkeyed, -, hrest⟩ := h.saver task _ hb
        refine ⟨saved, hunderway.next hrun, hkeyed, fun hlast => ?_, hrest⟩
        subst hlast
        exact if_pos (hunderway.renames_last hrun)
      · rename_i hne
        exact absurd (ho.single i task left' _ hi hb) hne
  | @fail task mishap step left disk e hb hrun =>
      have hstep := h.step htmp hbackup hb mishap
      rw [hrun] at hstep
      rw [t.next_save mishap hb] at hstep ⊢
      refine ⟨h.path_eq, h.keyed, h.jobs_become hb (fun _ => nofun), hstep.1, hstep.2,
        fun i left' hi => ?_⟩
      obtain ⟨hne, hi⟩ := State.of_become hb hi nofun
      exact absurd (ho.single i task left' _ hi hb) hne
  | @drop task b hb hover =>
      exact ⟨h.path_eq, h.keyed, h.jobs_become hb (fun _ => nofun), h.prepared, h.reads,
        fun i left hi => h.saver i left (State.of_become hb hi nofun).2⟩

theorem run_cons {event : Event} {events : List Event} (h : s.run? (event :: events) = some s') :
    ∃ s₁, s.step? event = some s₁ ∧ s₁.run? events = some s' := by
  rw [State.run?, List.foldlM_cons] at h
  exact Option.bind_eq_some_iff.mp h

theorem Kept.run {events : List Event} (h : Kept path s t) (ho : Orderly s t)
    (htmp : Path.extension? path ≠ some "tmp") (hbackup : Path.extension? path ≠ some "backup")
    (hjobs : ∀ f, .submit (.change f) ∈ events → ∀ u, u.Keyed → (f u).Keyed)
    (hrun : s.run? events = some s') :
    Kept path s' (t.after s events) ∧ Orderly s' (t.after s events) := by
  induction events generalizing s t with
  | nil =>
      cases hrun
      exact ⟨h, ho⟩
  | cons event events ih =>
      obtain ⟨s₁, hstep, hrest⟩ := run_cons hrun
      have hmove := State.move_of_step? hstep
      rw [Trail.after, hstep]
      exact ih (h.move ho htmp hbackup (fun f hf => hjobs f (hf ▸ List.mem_cons_self)) hmove)
        (ho.move hmove) (fun f hf => hjobs f (List.mem_cons_of_mem _ hf)) hrest

theorem Kept.intact (h : Kept path s t) (hstale : t.stale = false) :
    ∃ u, Mounted.Intact path ⟨s.disk, s.store⟩ u t.torn := by
  cases htorn : t.torn with
  | true =>
      exact ⟨_, h.path_eq, h.prepared, (fun hwhole => by cases hwhole), h.keyed, fun _ => .refl _⟩
  | false =>
      obtain ⟨u, hread, hu⟩ := h.reads htorn
      exact ⟨u, h.path_eq, h.prepared, fun _ => ⟨u, hread, .refl u⟩, h.keyed,
        fun hclean => hu hclean hstale⟩

theorem Kept.flush (h : Kept path s t) (hstale : t.stale = false)
    (htmp : Path.extension? path ≠ some "tmp") (hbackup : Path.extension? path ≠ some "backup")
    {mishaps : List (Option Disk.Mishap)} {m : Mounted}
    (hflush : (Mounted.flush mishaps).run ⟨s.disk, s.store⟩ = (.ok (), m))
    (hwhole : Mounted.torn ⟨s.disk, s.store⟩ t.torn [⟨.flush, mishaps⟩] = false) :
    m.store.tables = s.store.tables ∧ ∃ u,
      FileStore.load m.disk path = (.ok { path, tables := u, dirty := false }, m.disk) ∧
        u.Agrees m.store.tables := by
  have hrequest : (Mounted.request .flush mishaps).run ⟨s.disk, s.store⟩ = (.ok .done, m) := by
    have hbind : (Mounted.request .flush mishaps).run ⟨s.disk, s.store⟩ =
        (Mounted.flush mishaps >>= fun _ => pure .done : Effect Mounted Reply).run
          ⟨s.disk, s.store⟩ := rfl
    rw [hbind, Effect.run_bind, hflush]
    rfl
  obtain ⟨rfl, hclean⟩ := Mounted.clean_of_ok (c := ⟨.flush, mishaps⟩) (.inr rfl) hrequest
  obtain ⟨u, hintact⟩ := h.intact hstale
  have hafter := hintact.after htmp hbackup ⟨.flush, mishaps⟩
  obtain ⟨v, hread, hagrees⟩ := hafter.reads hwhole
  exact ⟨Mounted.tables_after _, v, load_eq hafter.prepared hread,
    hagrees.trans (hafter.clean hclean)⟩

end Kept

/-- The second change is made while the first one is being saved, and saved after it. -/
def twoWriters : List Event :=
  [.submit (.change (Request.putRow "pypi.org" (.new "pypi.org" .epoch)).applied), .begin 0,
    .turn 0, .submit (.change (Request.putRow "crates.io" (.new "crates.io" .epoch)).applied),
    .begin 1,
    .save 0 none, .save 0 none, .save 0 none, .save 0 none, .save 0 none, .save 0 none, .turn 1,
    .save 1 none, .save 1 none, .save 1 none, .save 1 none, .save 1 none, .save 1 none]

/-- The second change is made while the first one is being saved, and then given up. -/
def givenUp : List Event :=
  [.submit (.change (Request.putRow "pypi.org" (.new "pypi.org" .epoch)).applied), .begin 0,
    .turn 0, .submit (.change (Request.putRow "crates.io" (.new "crates.io" .epoch)).applied),
    .begin 1,
    .save 0 none, .save 0 none, .save 0 none, .save 0 none, .save 0 none, .save 0 none, .drop 1]

def emptyStore : FileStore :=
  { path := "state.json", tables := .empty, dirty := false }

end Sharing

end NameScout
