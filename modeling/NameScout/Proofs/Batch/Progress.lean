import NameScout.Proofs.Batch.Completion

namespace NameScout.Batch

/-- A step that a task of the batch takes by itself: no check comes to an end in it, and it is
not the caller who cancels. -/
def Event.ofTask : Event → Bool
  | .finish _ _ _ | .cancel => false
  | _ => true

/-- How many steps a worker can take before it has to take a name. -/
def Activity.stepsLeft : Activity → Nat
  | waiting => 2
  | receiving => 1
  | checking _ => 3
  | ended _ | crashed _ => 0

def Worker.stepsLeft (worker : Worker) : Nat :=
  worker.activity.stepsLeft

/-- A name that is still to be fed is worth the step that feeds it and what it is worth in the
queue. -/
def Feeder.stepsLeft (names : List String) : Feeder → Nat
  | feeding next => 4 * (names.length - next) + 1
  | closed => 0

namespace State

variable {names : List String} {s s' : State}

section Progress

theorem activity?_of_mem {worker : Worker} (h : worker ∈ s.workers) :
    ∃ w, s.activity? w = some worker.activity := by
  obtain ⟨w, hw⟩ := List.mem_iff_getElem?.mp h
  exact ⟨w, activity?_eq hw⟩

theorem step_of_receiving {w : Nat} (hw : s.activity? w = some .receiving) :
    ∃ e, e.ofTask = true ∧ (s.step? names e).isSome = true := by
  obtain ⟨worker, hworker, -⟩ := worker_of_activity? hw
  cases hqueue : s.queue with
  | cons place queue => exact ⟨.take w, rfl, by simp only [step?, take?, hw, hqueue, Option.isSome_some]⟩
  | nil =>
    cases hfeeder : s.feeder with
    | closed => exact ⟨.take w, rfl, by simp only [step?, take?, hw, hqueue, hfeeder, if_true, Option.isSome_some]⟩
    | feeding next =>
      have hroom : s.hasRoom = true := by
        simpa [hasRoom, hqueue] using Nat.zero_lt_of_lt (List.getElem?_eq_some_iff.mp hworker).1
      by_cases hend : names.length ≤ next ∨ s.allOver = true
      · exact ⟨.feed, rfl, by simp only [step?, feed?, hfeeder, if_pos hend, Option.isSome_some]⟩
      · exact ⟨.feed, rfl, by simp only [step?, feed?, hfeeder, if_neg hend, hroom, if_true, Option.isSome_some]⟩

theorem step_of_waiting {w : Nat} (hw : s.activity? w = some .waiting) :
    ∃ e, e.ofTask = true ∧ (s.step? names e).isSome = true := by
  by_cases hfree : s.headIsFree = true
  · exact ⟨.approach w, rfl, by simp only [step?, hw, hfree, and_self, if_true, Option.isSome_some]⟩
  · rw [Bool.not_eq_true, headIsFree, List.all_eq_false] at hfree
    obtain ⟨worker, hmem, ha⟩ := hfree
    have hreceiving : worker.activity = .receiving := by simpa using ha
    obtain ⟨v, hv⟩ := activity?_of_mem hmem
    rw [hreceiving] at hv
    exact step_of_receiving hv

theorem step_of_all_joined (h : Settled names s) (hjoined : s.joined = s.workers.length)
    (hfin : s.isFinished = false) : ∃ e, e.ofTask = true ∧ (s.step? names e).isSome = true := by
  have hover : s.allOver = true := by
    rw [allOver, List.all_eq_true]
    intro worker hmem
    obtain ⟨w, hw⟩ := List.mem_iff_getElem?.mp hmem
    exact h.isOver w worker (hjoined ▸ (List.getElem?_eq_some_iff.mp hw).1) hw
  cases hfeeder : s.feeder with
  | closed => simp [isFinished, hjoined, hfeeder] at hfin
  | feeding next =>
    exact ⟨.feed, rfl, by simp only [step?, feed?, hfeeder, hover, or_true, if_true, Option.isSome_some]⟩

theorem progress (h : Settled names s) (hfin : s.isFinished = false) :
    (∃ w place, s.activity? w = some (.checking place)) ∨
      ∃ e, e.ofTask = true ∧ (s.step? names e).isSome = true := by
  rcases Nat.lt_or_eq_of_le h.joined_le with hlt | hjoined
  · obtain ⟨⟨activity, done⟩, hworker⟩ : ∃ worker, s.workers[s.joined]? = some worker :=
      ⟨_, List.getElem?_eq_getElem hlt⟩
    have hw : s.activity? s.joined = some activity := activity?_eq hworker
    cases activity with
    | waiting => exact .inr (step_of_waiting hw)
    | receiving => exact .inr (step_of_receiving hw)
    | checking place => exact .inl ⟨_, place, hw⟩
    | ended error => exact .inr ⟨.join, rfl, by simp only [step?, join?, hworker, Option.isSome_some]⟩
    | crashed text => exact .inr ⟨.join, rfl, by simp only [step?, join?, hworker, Option.isSome_some]⟩
  · exact .inr (step_of_all_joined h hjoined hfin)

end Progress

section Rank

/-- How many steps a batch can still take. A name in the queue is worth three: it makes a worker
at the head of the queue one that is busy with checks. -/
def rank (names : List String) (s : State) : Nat :=
  s.feeder.stepsLeft names + 3 * s.queue.length + total Worker.stepsLeft s.workers +
    (s.workers.length - s.joined) + (!s.callerCancelled).toNat

theorem rank_modify {w : Nat} {b : Activity} (h : s.activity? w = some b) (f : Worker → Worker)
    (hf : ∀ worker, (f worker).activity.stepsLeft < b.stepsLeft) :
    ({ s with workers := s.workers.modify w f } : State).rank names < s.rank names := by
  obtain ⟨worker, hworker, rfl⟩ := worker_of_activity? h
  have htotal := total_modify (m := Worker.stepsLeft) hworker f
  have hlt := hf worker
  simp only [rank, Worker.stepsLeft, List.length_modify] at htotal hlt ⊢
  omega

theorem rank_take {w place : Nat} {queue : List Nat} (hw : s.activity? w = some .receiving)
    (hq : s.queue = place :: queue) :
    ({ s with queue }.become w (.checking place)).rank names < s.rank names := by
  obtain ⟨worker, hworker, ha⟩ := worker_of_activity? hw
  have htotal := total_modify (m := Worker.stepsLeft) hworker
    fun worker => { worker with activity := .checking place }
  simp only [rank, become, Worker.stepsLeft, ha, Activity.stepsLeft, List.length_modify, hq,
    List.length_cons] at htotal ⊢
  omega

theorem rank_join {worker : Worker} (hw : s.workers[s.joined]? = some worker) {t : State}
    (hworkers : t.workers = s.workers) (hjoined : t.joined = s.joined + 1)
    (hfeeder : t.feeder = s.feeder) (hqueue : t.queue = s.queue)
    (hcaller : t.callerCancelled = s.callerCancelled) : t.rank names < s.rank names := by
  have hlt := (List.getElem?_eq_some_iff.mp hw).1
  simp only [rank, hworkers, hjoined, hfeeder, hqueue, hcaller]
  omega

theorem rank_lt {e : Event} (hm : Move names s e s') : s'.rank names < s.rank names := by
  cases hm with
  | feed hf hlt =>
    simp only [rank, hf, Feeder.stepsLeft, List.length_append, List.length_singleton]
    omega
  | close hf =>
    simp only [rank, hf, Feeder.stepsLeft]
    omega
  | stopFeeding hc hf =>
    cases hfeeder : s.feeder with
    | closed => exact absurd hfeeder hf
    | feeding next =>
      simp only [rank, hfeeder, Feeder.stepsLeft]
      omega
  | approach hw => exact rank_modify hw _ fun _ => Nat.one_lt_two
  | take hw hq => exact rank_take hw hq
  | dry hw => exact rank_modify hw _ fun _ => Nat.zero_lt_one
  | leave hc hw =>
    rcases hw with hw | ⟨place, hw⟩
    · exact rank_modify hw _ fun _ => Nat.zero_lt_one
    · exact rank_modify hw _ fun _ => Nat.zero_lt_succ 2
  | report hw => exact rank_modify hw _ fun _ => Nat.lt_succ_self 2
  | fail hw =>
    exact rank_modify (s := { s with guarded := true, cancelled := true }) hw _
      fun _ => Nat.zero_lt_succ 2
  | failLater hw | crash hw => exact rank_modify hw _ fun _ => Nat.zero_lt_succ 2
  | cancel hc => simp [rank, hc]
  | joinEnded hw | joinCrashed hw => exact rank_join hw rfl rfl rfl rfl rfl

theorem length_add_rank_le {events : List Event} (h : run? names s events = some s') :
    events.length + s'.rank names ≤ s.rank names := by
  induction events generalizing s with
  | nil =>
    cases h
    simp
  | cons e events ih =>
    rw [run?_cons, Option.bind_eq_some_iff] at h
    obtain ⟨s₁, he, hrun⟩ := h
    have hrest := ih hrun
    have hlt := rank_lt (move_of_step? he)
    rw [List.length_cons]
    omega

theorem rank_start (concurrency : Nat) : (start concurrency names).rank names =
    4 * names.length + 3 * workerCount concurrency names.length + 2 := by
  have htotal (n : Nat) : total Worker.stepsLeft (List.replicate n Worker.fresh) = 2 * n := by
    induction n with
    | zero => rfl
    | succ n ih =>
      rw [List.replicate_succ, total, ih, Worker.stepsLeft, Worker.fresh, Activity.stepsLeft]
      omega
  simp only [rank, start, Feeder.stepsLeft, htotal, List.length_nil, List.length_replicate]
  simp
  omega

end Rank

section Caller

theorem callerCancelled_of_move {e : Event} (hm : Move names s e s') :
    s'.callerCancelled = true ↔ s.callerCancelled = true ∨ e = .cancel := by
  cases hm <;> simp

theorem callerCancelled_iff {events : List Event} (h : run? names s events = some s') :
    s'.callerCancelled = true ↔ s.callerCancelled = true ∨ .cancel ∈ events := by
  induction events generalizing s with
  | nil =>
    cases h
    simp
  | cons e events ih =>
    rw [run?_cons, Option.bind_eq_some_iff] at h
    obtain ⟨s₁, he, hrun⟩ := h
    rw [ih hrun, callerCancelled_of_move (move_of_step? he), List.mem_cons, or_assoc, @eq_comm _ e]

end Caller

end State

section Run

variable {names : List String} {concurrency : Nat} {events : List Event} {s : State}

theorem cancelled_iff (h : State.run? names (.start concurrency names) events = some s) :
    s.callerCancelled = true ↔ .cancel ∈ events := by
  rw [State.callerCancelled_iff h]
  simp [State.start]

theorem length_le_of_run (h : State.run? names (.start concurrency names) events = some s) :
    events.length ≤ 4 * names.length + 3 * workerCount concurrency names.length + 2 := by
  have hle := State.length_add_rank_le h
  rw [State.rank_start] at hle
  omega

end Run

end NameScout.Batch
