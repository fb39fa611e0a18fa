import NameScout.Store.Sharing

namespace NameScout.Sharing

open FileStore

namespace State

inductive Move (s : State) : Event → State → Prop
  | submit (job : Job) : Move s (.submit job) { s with tasks := s.tasks ++ [.beginning job] }
  | change {task : Nat} {f : Tables → Tables}
      (h : s.tasks[task]? = some (.beginning (.change f))) :
      Move s (.begin task)
        ({ s with store := { s.store with tables := f s.store.tables, dirty := true } }.become task
          .waiting)
  | look {task : Nat} (h : s.tasks[task]? = some (.beginning .flush)) :
      Move s (.begin task) (s.become task (if s.store.dirty then .waiting else .ended (.ok ())))
  | turn {task : Nat} (h : s.tasks[task]? = some .waiting) (hfree : s.turnIsFree = true) :
      Move s (.turn task)
        (s.become task (.saving (saveSteps s.store.path (content s.store.tables))))
  | finish {task : Nat} {mishap : Option Disk.Mishap} (h : s.tasks[task]? = some (.saving [])) :
      Move s (.save task mishap)
        ({ s with store := { s.store with dirty := false } }.become task (.ended (.ok ())))
  | save {task : Nat} {mishap : Option Disk.Mishap} {step : SaveStep} {left : List SaveStep}
      {disk : Disk} (h : s.tasks[task]? = some (.saving (step :: left)))
      (hrun : step.run s.disk mishap = (.ok (), disk)) :
      Move s (.save task mishap) ({ s with disk }.become task (.saving left))
  | fail {task : Nat} {mishap : Option Disk.Mishap} {step : SaveStep} {left : List SaveStep}
      {disk : Disk} {e : Failure} (h : s.tasks[task]? = some (.saving (step :: left)))
      (hrun : step.run s.disk mishap = (.error e, disk)) :
      Move s (.save task mishap) ({ s with disk }.become task (.ended (.error e)))
  | drop {task : Nat} {a : Activity} (h : s.tasks[task]? = some a) (hover : a.isOver = false) :
      Move s (.drop task) (s.become task .dropped)

variable {s s' : State}

theorem move_of_begin? {task : Nat} (h : s.begin? task = some s') : Move s (.begin task) s' := by
  unfold begin? at h
  split at h
  · rename_i f hf
    cases h
    exact .change hf
  · rename_i hflush
    cases h
    exact .look hflush
  · cases h

theorem move_of_turn? {task : Nat} (h : s.turn? task = some s') : Move s (.turn task) s' := by
  unfold turn? at h
  split at h
  · rename_i hwaiting
    split at h
    · rename_i hfree
      cases h
      exact .turn hwaiting hfree
    · cases h
  · cases h

theorem move_of_save? {task : Nat} {mishap : Option Disk.Mishap}
    (h : s.save? task mishap = some s') : Move s (.save task mishap) s' := by
  unfold save? at h
  split at h
  · rename_i hdone
    cases h
    exact .finish hdone
  · rename_i step left hleft
    split at h
    · rename_i disk hrun
      cases h
      exact .save hleft hrun
    · rename_i e disk hrun
      cases h
      exact .fail hleft hrun
  · cases h

theorem move_of_drop? {task : Nat} (h : s.drop? task = some s') : Move s (.drop task) s' := by
  unfold drop? at h
  split at h
  · rename_i a ha
    split at h
    · cases h
    · rename_i hover
      cases h
      exact .drop ha (Bool.eq_false_iff.mpr hover)
  · cases h

theorem move_of_step? {event : Event} (h : s.step? event = some s') : Move s event s' := by
  cases event with
  | submit job =>
      cases h
      exact .submit job
  | begin task => exact move_of_begin? h
  | turn task => exact move_of_turn? h
  | save task mishap => exact move_of_save? h
  | drop task => exact move_of_drop? h

theorem tasks_become {task : Nat} {b : Activity} (h : s.tasks[task]? = some b) (a : Activity)
    (i : Nat) : (s.become task a).tasks[i]? = if i = task then some a else s.tasks[i]? := by
  obtain ⟨hlt, -⟩ := List.getElem?_eq_some_iff.mp h
  rw [become, List.getElem?_set]
  by_cases hi : i = task
  · rw [if_pos hi.symm, if_pos hi, if_pos (hi ▸ hlt)]
  · rw [if_neg fun heq => hi heq.symm, if_neg hi]

theorem of_become {task i : Nat} {a b c : Activity} (hb : s.tasks[task]? = some b)
    (hi : (s.become task a).tasks[i]? = some c) (hne : a ≠ c) :
    i ≠ task ∧ s.tasks[i]? = some c := by
  rw [tasks_become hb] at hi
  split at hi
  · exact absurd (Option.some.inj hi) hne
  · rename_i hi'
    exact ⟨hi', hi⟩

theorem of_submit {job : Job} {i : Nat} {c : Activity}
    (hi : (s.tasks ++ [.beginning job])[i]? = some c) :
    s.tasks[i]? = some c ∨ c = .beginning job := by
  rcases Nat.lt_or_ge i s.tasks.length with hlt | hge
  · rw [List.getElem?_append_left hlt] at hi
    exact .inl hi
  · rw [List.getElem?_append_right hge] at hi
    exact .inr (List.mem_singleton.mp (List.mem_of_getElem? hi))

theorem saving_of_submit {job : Job} {i : Nat} {left : List SaveStep}
    (hi : (s.tasks ++ [.beginning job])[i]? = some (.saving left)) :
    s.tasks[i]? = some (.saving left) :=
  (of_submit hi).resolve_right nofun

theorem not_saving_of_turnIsFree (h : s.turnIsFree = true) {i : Nat} {left : List SaveStep} :
    s.tasks[i]? ≠ some (.saving left) := by
  intro hi
  have hfree := List.all_eq_true.mp h _ (List.mem_of_getElem? hi)
  cases hfree

end State

end NameScout.Sharing
