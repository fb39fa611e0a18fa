import NameScout.Proofs.Batch.Attribution

namespace NameScout.Batch

section Total

variable {m m' : Worker → Nat} {workers : List Worker} {worker : Worker}

def total (m : Worker → Nat) : List Worker → Nat
  | [] => 0
  | worker :: workers => m worker + total m workers

theorem total_modify {w : Nat} (h : workers[w]? = some worker) (f : Worker → Worker) :
    total m (workers.modify w f) + m worker = total m workers + m (f worker) := by
  induction workers generalizing w with
  | nil => simp at h
  | cons first rest ih =>
    cases w with
    | zero =>
      obtain rfl : first = worker := by simpa using h
      simp only [List.modify_zero_cons, total]
      omega
    | succ w =>
      have hrest := ih (by simpa using h)
      simp only [List.modify_succ_cons, total]
      omega

theorem total_mono (h : ∀ worker ∈ workers, m worker ≤ m' worker) :
    total m workers ≤ total m' workers := by
  induction workers with
  | nil => simp [total]
  | cons first rest ih =>
    have hfirst := h first (by simp)
    have hrest := ih (fun worker hw => h worker (by simp [hw]))
    simp only [total]
    omega

theorem total_add_le {k : Nat} (h : ∀ worker ∈ workers, m worker ≤ m' worker)
    (hmem : worker ∈ workers) (hk : m worker + k ≤ m' worker) :
    total m workers + k ≤ total m' workers := by
  induction workers with
  | nil => simp at hmem
  | cons first rest ih =>
    have hfirst := h first (by simp)
    have hrest : ∀ worker ∈ rest, m worker ≤ m' worker := fun worker hw => h worker (by simp [hw])
    simp only [total]
    rcases List.mem_cons.mp hmem with rfl | hmem
    · have := total_mono hrest
      omega
    · have := ih hrest hmem
      omega

theorem le_total (hmem : worker ∈ workers) : m worker ≤ total m workers := by
  induction workers with
  | nil => simp at hmem
  | cons first rest ih =>
    simp only [total]
    rcases List.mem_cons.mp hmem with rfl | hmem
    · omega
    · have := ih hmem
      omega

theorem exists_of_total_pos (h : 0 < total m workers) : ∃ worker ∈ workers, 0 < m worker := by
  induction workers with
  | nil => simp [total] at h
  | cons first rest ih =>
    by_cases hfirst : 0 < m first
    · exact ⟨first, by simp, hfirst⟩
    · obtain ⟨worker, hmem, hw⟩ := ih (by simp only [total] at h; omega)
      exact ⟨worker, by simp [hmem], hw⟩

end Total

section Claims

def Activity.claims (place : Nat) (a : Activity) : Nat :=
  if a = .checking place then 1 else 0

theorem Activity.claims_checking (place p : Nat) :
    (Activity.checking place).claims p = if place = p then 1 else 0 := by
  simp [claims]

theorem Activity.claims_of_isOver {a : Activity} (h : a.isOver = true) (place : Nat) :
    a.claims place = 0 := by
  cases a <;> simp [claims, isOver] at h ⊢

@[simp] theorem Activity.claims_waiting (place : Nat) : waiting.claims place = 0 := by
  simp [claims]

@[simp] theorem Activity.claims_receiving (place : Nat) : receiving.claims place = 0 := by
  simp [claims]

def Worker.claims (place : Nat) (worker : Worker) : Nat :=
  worker.activity.claims place + (worker.done.map Prod.fst).count place

def Worker.handed (worker : Worker) : List (Nat × Report) :=
  match worker.activity with
  | .crashed _ => []
  | _ => worker.done

theorem Worker.handed_crashed {worker : Worker} {text : String}
    (h : worker.activity = .crashed text) : worker.handed = [] := by
  simp [handed, h]

theorem Worker.handed_of_not_crashed {worker : Worker}
    (h : ∀ text, worker.activity ≠ .crashed text) : worker.handed = worker.done := by
  unfold handed
  split
  · rename_i text htext
    exact absurd htext (h text)
  · rfl

theorem Worker.mem_done_of_handed {worker : Worker} {d : Nat × Report} (h : d ∈ worker.handed) :
    d ∈ worker.done := by
  unfold handed at h
  split at h
  · simp at h
  · exact h

theorem Worker.count_handed_le (place : Nat) (worker : Worker) :
    (worker.handed.map Prod.fst).count place ≤ worker.claims place := by
  unfold handed claims
  split
  · simp
  · omega

theorem count_handed (place : Nat) (workers : List Worker) :
    ((workers.flatMap Worker.handed).map Prod.fst).count place =
      total (fun worker => (worker.handed.map Prod.fst).count place) workers := by
  induction workers with
  | nil => rfl
  | cons first rest ih => simp [total, ih]

end Claims

namespace State

/-- How often a place of the batch is in the queue, being checked or reported on. -/
def claims (s : State) (place : Nat) : Nat :=
  s.queue.count place + total (Worker.claims place) s.workers

theorem activity?_eq {s : State} {w : Nat} {worker : Worker} (h : s.workers[w]? = some worker) :
    s.activity? w = some worker.activity := by
  rw [activity?, h, Option.map_some]

theorem activity?_modify {s : State} {w : Nat} {worker : Worker} (h : s.workers[w]? = some worker)
    (f : Worker → Worker) (v : Nat) :
    ({ s with workers := s.workers.modify w f } : State).activity? v =
      if v = w then some (f worker).activity else s.activity? v := by
  by_cases hv : v = w
  · subst hv
    simp [activity?, h]
  · simp [activity?, hv, List.getElem?_modify_ne f s.workers (Ne.symm hv)]

theorem claims_become {s : State} {w : Nat} {b : Activity} (h : s.activity? w = some b)
    (a : Activity) (place : Nat) :
    (s.become w a).claims place + b.claims place = s.claims place + a.claims place := by
  obtain ⟨worker, hworker, rfl⟩ := worker_of_activity? h
  have htotal := total_modify (m := Worker.claims place) hworker
    (fun worker => { worker with activity := a })
  simp only [claims, become, Worker.claims] at htotal ⊢
  omega

theorem claims_take {s : State} {w place : Nat} {queue : List Nat}
    (hw : s.activity? w = some .receiving) (hq : s.queue = place :: queue) (p : Nat) :
    ({ s with queue }.become w (.checking place)).claims p = s.claims p := by
  have hrest : ({ s with queue } : State).claims p + (if place = p then 1 else 0) = s.claims p := by
    simp only [claims, hq, List.count_cons, beq_iff_eq]
    omega
  have hbecome := claims_become (s := { s with queue }) hw (.checking place) p
  rw [Activity.claims_receiving, Activity.claims_checking] at hbecome
  omega

theorem claims_report {s : State} {w place : Nat} (hw : s.activity? w = some (.checking place))
    (report : Report) (p : Nat) :
    ({ s with workers := s.workers.modify w fun worker =>
        { activity := .waiting, done := worker.done ++ [(place, report)] } } : State).claims p =
      s.claims p := by
  obtain ⟨worker, hworker, ha⟩ := worker_of_activity? hw
  have htotal := total_modify (m := Worker.claims p) hworker
    (fun worker => { activity := .waiting, done := worker.done ++ [(place, report)] })
  simp only [claims, Worker.claims, ha, Activity.claims_checking, Activity.claims_waiting,
    List.map_append, List.map_cons, List.map_nil, List.count_append, List.count_singleton,
    beq_iff_eq] at htotal ⊢
  omega

theorem claims_release {s : State} {w place : Nat} (hw : s.activity? w = some (.checking place))
    {a : Activity} (ha : a.isOver = true) (p : Nat) :
    (s.become w a).claims p + (if place = p then 1 else 0) = s.claims p := by
  have hbecome := claims_become hw a p
  rwa [Activity.claims_of_isOver ha, Activity.claims_checking] at hbecome

section Placed

variable {names : List String} {noted : List (Nat × Finished)} {count : Nat} {s s' : State}

/-- The first places, up to a count, have been put into the queue; each is claimed once at most,
and not any more after its checks have failed or broken down. -/
structure Placed (names : List String) (noted : List (Nat × Finished)) (count : Nat) (s : State) :
    Prop where
  count_le : count ≤ names.length
  next_eq : ∀ next, s.feeder = .feeding next → next = count
  claims_le : ∀ place, s.claims place ≤ 1
  lt_of_claimed : ∀ place, 0 < s.claims place → place < count
  lt_of_noted : ∀ n ∈ noted, n.2.place < count
  released : ∀ n ∈ noted, ∀ halt, n.2.outcome = .error halt → s.claims n.2.place = 0

namespace Placed

theorem mono (h : Placed names noted count s)
    (hfeeder : ∀ next, s'.feeder = .feeding next → s.feeder = .feeding next)
    (hclaims : ∀ place, s'.claims place ≤ s.claims place) : Placed names noted count s' where
  count_le := h.count_le
  next_eq next hnext := h.next_eq next (hfeeder next hnext)
  claims_le place := Nat.le_trans (hclaims place) (h.claims_le place)
  lt_of_claimed place hplace := h.lt_of_claimed place (Nat.lt_of_lt_of_le hplace (hclaims place))
  lt_of_noted := h.lt_of_noted
  released n hn halt hhalt := by
    have hzero := h.released n hn halt hhalt
    have hle := hclaims n.2.place
    omega

theorem note (h : Placed names noted count s) {n : Nat × Finished} (hlt : n.2.place < count)
    (hreleased : ∀ halt, n.2.outcome = .error halt → s.claims n.2.place = 0) :
    Placed names (noted ++ [n]) count s where
  count_le := h.count_le
  next_eq := h.next_eq
  claims_le := h.claims_le
  lt_of_claimed := h.lt_of_claimed
  lt_of_noted := by
    intro k hk
    rcases List.mem_append.mp hk with hk | hk
    · exact h.lt_of_noted k hk
    · rw [List.mem_singleton.mp hk]
      exact hlt
  released := by
    intro k hk
    rcases List.mem_append.mp hk with hk | hk
    · exact h.released k hk
    · rw [List.mem_singleton.mp hk]
      exact hreleased

theorem feed (h : Placed names noted count s) (hlt : count < names.length) :
    Placed names noted (count + 1)
      { s with feeder := .feeding (count + 1), queue := s.queue ++ [count] } := by
  have hclaims (place : Nat) :
      ({ s with feeder := .feeding (count + 1), queue := s.queue ++ [count] } : State).claims place =
        s.claims place + if count = place then 1 else 0 := by
    simp only [claims, List.count_append, List.count_singleton, beq_iff_eq]
    omega
  -- The next place is a new one: whatever is claimed lies before it.
  have hfresh : s.claims count = 0 := by
    have := h.lt_of_claimed count
    omega
  refine ⟨hlt, ?_, ?_, ?_, ?_, ?_⟩
  · intro next hnext
    cases hnext
    rfl
  · intro place
    have hle := h.claims_le place
    rw [hclaims]
    split
    · subst place
      omega
    · omega
  · intro place hplace
    rw [hclaims] at hplace
    have hold := h.lt_of_claimed place
    split at hplace
    · omega
    · omega
  · intro n hn
    have := h.lt_of_noted n hn
    omega
  · intro n hn halt hhalt
    have hzero := h.released n hn halt hhalt
    have hlt := h.lt_of_noted n hn
    rw [hclaims, if_neg (by omega), hzero]

theorem lt_of_checking (h : Placed names noted count s) {w place : Nat}
    (hw : s.activity? w = some (.checking place)) : place < count := by
  have hbecome := claims_release hw (a := .ended none) rfl place
  rw [if_pos rfl] at hbecome
  exact h.lt_of_claimed place (by omega)

theorem release (h : Placed names noted count s) {w place : Nat}
    (hw : s.activity? w = some (.checking place)) {a : Activity} (ha : a.isOver = true) :
    Placed names noted count (s.become w a) ∧ (s.become w a).claims place = 0 := by
  have hrelease := claims_release hw ha
  constructor
  · refine h.mono (fun _ hnext => hnext) fun p => ?_
    have := hrelease p
    omega
  · have hplace := hrelease place
    have hle := h.claims_le place
    rw [if_pos rfl] at hplace
    omega

theorem same (h : Placed names noted count s) {w : Nat} {a b : Activity}
    (hw : s.activity? w = some b) (ha : ∀ p, a.claims p = 0) :
    Placed names noted count (s.become w a) := by
  refine h.mono (fun _ hnext => hnext) fun p => ?_
  have hbecome := claims_become hw a p
  rw [ha] at hbecome
  omega

theorem step {e : Event} (h : Placed names noted count s) (hm : Move names s e s') :
    ∃ count', Placed names (noted ++ (finishedBy? s e).toList) count' s' := by
  cases hm with
  | feed hf hlt =>
    simp only [finishedBy?, Option.toList_none, List.append_nil]
    have := h.next_eq _ hf
    subst this
    exact ⟨_, h.feed hlt⟩
  | close | stopFeeding =>
    simp only [finishedBy?, Option.toList_none, List.append_nil]
    refine ⟨count, h.mono (fun next hnext => ?_) fun _ => Nat.le_refl _⟩
    cases hnext
  | approach hw =>
    simp only [finishedBy?, Option.toList_none, List.append_nil]
    exact ⟨count, h.same hw (by simp)⟩
  | take hw hq =>
    simp only [finishedBy?, Option.toList_none, List.append_nil]
    exact ⟨count, h.mono (fun _ hnext => hnext) fun p => Nat.le_of_eq (claims_take hw hq p)⟩
  | dry hw =>
    simp only [finishedBy?, Option.toList_none, List.append_nil]
    exact ⟨count, h.same hw (Activity.claims_of_isOver rfl)⟩
  | leave hc hw =>
    simp only [finishedBy?, Option.toList_none, List.append_nil]
    rcases hw with hw | ⟨place, hw⟩
    · exact ⟨count, h.same hw (Activity.claims_of_isOver rfl)⟩
    · exact ⟨count, (h.release hw rfl).1⟩
  | report hw =>
    rw [finishedBy?_finish hw, Option.toList_some]
    refine ⟨count, Placed.note ?_ (h.lt_of_checking hw) fun halt hhalt => ?_⟩
    · exact h.mono (fun _ hnext => hnext) fun p => Nat.le_of_eq (claims_report hw _ p)
    · cases hhalt
  | @fail w place failure time hw =>
    rw [finishedBy?_finish hw, Option.toList_some]
    obtain ⟨hplaced, hzero⟩ := h.release hw (a := .ended (some failure)) rfl
    refine ⟨count, Placed.note ?_ (h.lt_of_checking hw) fun _ _ => hzero⟩
    exact hplaced.mono (fun _ hnext => hnext) fun _ => Nat.le_refl _
  | failLater hw =>
    rw [finishedBy?_finish hw, Option.toList_some]
    obtain ⟨hplaced, hzero⟩ := h.release hw (a := .ended none) rfl
    exact ⟨count, hplaced.note (h.lt_of_checking hw) fun _ _ => hzero⟩
  | @crash w place text time hw =>
    rw [finishedBy?_finish hw, Option.toList_some]
    obtain ⟨hplaced, hzero⟩ := h.release hw (a := .crashed text) rfl
    exact ⟨count, hplaced.note (h.lt_of_checking hw) fun _ _ => hzero⟩
  | cancel | joinEnded | joinCrashed =>
    simp only [finishedBy?, Option.toList_none, List.append_nil]
    exact ⟨count, h.mono (fun _ hnext => hnext) fun _ => Nat.le_refl _⟩

end Placed

theorem placed_start (concurrency : Nat) : Placed names [] 0 (start concurrency names) := by
  have hfresh (place : Nat) : Worker.fresh.claims place = 0 := by
    simp [Worker.claims, Worker.fresh]
  have htotal (place n : Nat) : total (Worker.claims place) (List.replicate n Worker.fresh) = 0 := by
    induction n with
    | zero => rfl
    | succ n ih => rw [List.replicate_succ, total, hfresh, ih]
  have hclaims (place : Nat) : (start concurrency names).claims place = 0 := by
    simp [claims, start, htotal]
  refine ⟨Nat.zero_le _, ?_, ?_, ?_, by simp, by simp⟩
  · intro next hnext
    cases hnext
    rfl
  · intro place
    rw [hclaims]
    omega
  · intro place hplace
    rw [hclaims] at hplace
    omega

end Placed

end State

end NameScout.Batch
