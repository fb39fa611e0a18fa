import NameScout.Proofs.Batch.Ledger

namespace NameScout.Batch.State

section HandOver

variable {results : List (Option Report)} {done : List (Nat × Report)} {i : Nat} {report : Report}

theorem handOver_append (results : List (Option Report)) (xs ys : List (Nat × Report)) :
    handOver results (xs ++ ys) = handOver (handOver results xs) ys :=
  List.foldl_append

theorem getElem?_handOver_of_not_mem (h : i ∉ done.map Prod.fst) :
    (handOver results done)[i]? = results[i]? := by
  induction done generalizing results with
  | nil => rfl
  | cons d done ih =>
    simp only [List.map_cons, List.mem_cons, not_or] at h
    have hrest : (handOver (results.set d.1 (some d.2)) done)[i]? =
        (results.set d.1 (some d.2))[i]? := ih h.2
    exact hrest.trans (List.getElem?_set_ne (Ne.symm h.1))

theorem getElem?_handOver_of_mem (hnodup : (done.map Prod.fst).Nodup) (hmem : (i, report) ∈ done)
    (hlt : i < results.length) : (handOver results done)[i]? = some (some report) := by
  induction done generalizing results with
  | nil => simp at hmem
  | cons d done ih =>
    rw [List.map_cons, List.nodup_cons] at hnodup
    rcases List.mem_cons.mp hmem with hd | hmem
    · subst hd
      have hrest : (handOver (results.set i (some report)) done)[i]? =
          (results.set i (some report))[i]? := getElem?_handOver_of_not_mem hnodup.1
      exact hrest.trans (List.getElem?_set_self hlt)
    · exact ih hnodup.2 hmem (by simpa using hlt)

end HandOver

section Settled

variable {names : List String} {s s' : State}

/-- The workers that have been waited for are over, and the slots hold what they handed over. -/
structure Settled (names : List String) (s : State) : Prop where
  joined_le : s.joined ≤ s.workers.length
  isOver : ∀ w worker, w < s.joined → s.workers[w]? = some worker → worker.activity.isOver = true
  results : s.results =
    handOver (names.map fun _ => none) ((s.workers.take s.joined).flatMap Worker.handed)

namespace Settled

theorem joined_le_of_running (h : Settled names s) {w : Nat} {a : Activity}
    (hw : s.activity? w = some a) (ha : a.isOver = false) : s.joined ≤ w := by
  obtain ⟨worker, hworker, rfl⟩ := worker_of_activity? hw
  apply Nat.le_of_not_lt
  intro hlt
  rw [h.isOver w worker hlt hworker] at ha
  cases ha

theorem modify (h : Settled names s) {w : Nat} {a : Activity} (hw : s.activity? w = some a)
    (ha : a.isOver = false) (f : Worker → Worker) :
    Settled names { s with workers := s.workers.modify w f } := by
  -- A running worker stands behind all those whose reports are in the slots.
  have hle := h.joined_le_of_running hw ha
  have htake : (s.workers.modify w f).take s.joined = s.workers.take s.joined := by
    rw [List.take_modify, List.modify_eq_self]
    exact Nat.le_trans (List.length_take_le _ _) hle
  refine ⟨?_, ?_, ?_⟩
  · simpa using h.joined_le
  · intro v worker hv hworker
    have hne : w ≠ v := Nat.ne_of_gt (Nat.lt_of_lt_of_le hv hle)
    rw [List.getElem?_modify_ne f s.workers hne] at hworker
    exact h.isOver v worker hv hworker
  · rw [htake]
    exact h.results

theorem join (h : Settled names s) {worker : Worker} (hw : s.workers[s.joined]? = some worker)
    (hover : worker.activity.isOver = true) :
    s.joined + 1 ≤ s.workers.length ∧
      (∀ v other, v < s.joined + 1 → s.workers[v]? = some other → other.activity.isOver = true) ∧
      handOver s.results worker.handed = handOver (names.map fun _ => none)
        ((s.workers.take (s.joined + 1)).flatMap Worker.handed) := by
  refine ⟨(List.getElem?_eq_some_iff.mp hw).1, ?_, ?_⟩
  · intro v other hv hother
    rcases Nat.lt_succ_iff_lt_or_eq.mp hv with hv | rfl
    · exact h.isOver v other hv hother
    · rw [hw] at hother
      cases hother
      exact hover
  · rw [List.take_add_one, hw, Option.toList_some, List.flatMap_append, handOver_append, ← h.results]
    simp

theorem step {e : Event} (h : Settled names s) (hm : Move names s e s') : Settled names s' := by
  cases hm with
  | feed | close | stopFeeding | cancel => exact ⟨h.joined_le, h.isOver, h.results⟩
  | approach hw => exact h.modify hw rfl _
  | @take w place queue hw hq =>
    have hrest : Settled names { s with queue } := ⟨h.joined_le, h.isOver, h.results⟩
    exact hrest.modify hw rfl _
  | dry hw => exact h.modify hw rfl _
  | leave hc hw =>
    rcases hw with hw | ⟨place, hw⟩
    · exact h.modify hw rfl _
    · exact h.modify hw rfl _
  | report hw => exact h.modify hw rfl _
  | fail hw =>
    have hrest : Settled names { s with guarded := true, cancelled := true } :=
      ⟨h.joined_le, h.isOver, h.results⟩
    exact hrest.modify hw rfl _
  | failLater hw => exact h.modify hw rfl _
  | crash hw => exact h.modify hw rfl _
  | joinEnded hw =>
    obtain ⟨hle, hover, hresults⟩ := h.join hw rfl
    exact ⟨hle, hover, hresults⟩
  | joinCrashed hw =>
    obtain ⟨hle, hover, hresults⟩ := h.join hw rfl
    exact ⟨hle, hover, hresults⟩

end Settled

theorem settled_start (concurrency : Nat) : Settled names (start concurrency names) where
  joined_le := Nat.zero_le _
  isOver := by simp [start]
  results := rfl

end Settled

section Recorded

theorem getElem?_modify_eq_some {α : Type} {l : List α} {i j : Nat} {f : α → α} {x y : α}
    (hx : l[i]? = some x) (h : (l.modify i f)[j]? = some y) :
    j = i ∧ y = f x ∨ j ≠ i ∧ l[j]? = some y := by
  by_cases hij : i = j
  · subst hij
    rw [List.getElem?_modify_eq, hx] at h
    exact .inl ⟨rfl, (Option.some.inj h).symm⟩
  · rw [List.getElem?_modify_ne f l hij] at h
    exact .inr ⟨Ne.symm hij, h⟩

variable {names : List String} {noted : List (Nat × Finished)} {s s' : State}

def Finished.report? (names : List String) (f : Finished) : Option (Nat × Report) :=
  match f.outcome with
  | .ok results => some (f.place, Report.ofResults (names[f.place]?.getD "") results f.time)
  | .error _ => none

def reportsOf (names : List String) (w : Nat) (noted : List (Nat × Finished)) :
    List (Nat × Report) :=
  noted.filterMap fun n => if n.1 = w then n.2.report? names else none

/-- A worker holds the reports on all its checks that returned, and is broken down from the first
of its checks on that broke down. -/
structure Recorded (names : List String) (noted : List (Nat × Finished)) (s : State) : Prop where
  done : ∀ w worker, s.workers[w]? = some worker → worker.done = reportsOf names w noted
  crashed : ∀ w text, s.activity? w = some (.crashed text) ↔
    ∃ f : Finished, (w, f) ∈ noted ∧ f.outcome = .error (.crashed text)
  lt_of_noted : ∀ n ∈ noted, n.1 < s.workers.length

theorem reportsOf_append (w : Nat) (n : Nat × Finished) :
    reportsOf names w (noted ++ [n]) =
      reportsOf names w noted ++ (if n.1 = w then n.2.report? names else none).toList := by
  rw [reportsOf, List.filterMap_append, List.filterMap_cons, List.filterMap_nil, reportsOf]
  cases if n.1 = w then n.2.report? names else none <;> rfl

theorem mem_reportsOf {w : Nat} {d : Nat × Report} :
    d ∈ reportsOf names w noted ↔ ∃ f : Finished, (w, f) ∈ noted ∧ f.report? names = some d := by
  simp only [reportsOf, List.mem_filterMap, Prod.exists]
  constructor
  · rintro ⟨v, f, hmem, hd⟩
    split at hd
    · subst v
      exact ⟨f, hmem, hd⟩
    · cases hd
  · rintro ⟨f, hmem, hd⟩
    exact ⟨w, f, hmem, by simpa using hd⟩

namespace Recorded

theorem become (h : Recorded names noted s) {w : Nat} {a b : Activity}
    (hw : s.activity? w = some b) (hb : b.isOver = false) (ha : ∀ text, a ≠ .crashed text) :
    Recorded names noted (s.become w a) := by
  obtain ⟨worker, hworker, rfl⟩ := worker_of_activity? hw
  refine ⟨?_, ?_, by simpa [State.become] using h.lt_of_noted⟩
  · intro v other hother
    rcases getElem?_modify_eq_some hworker hother with ⟨rfl, rfl⟩ | ⟨-, hother⟩
    · exact h.done v worker hworker
    · exact h.done v other hother
  · intro v text
    rw [← h.crashed, State.become, activity?_modify hworker]
    split
    · subst v
      rw [hw, Option.some.injEq, Option.some.injEq]
      refine iff_of_false (ha text) fun hcrashed => ?_
      rw [hcrashed] at hb
      cases hb
    · rfl

theorem finish (h : Recorded names noted s) {w place : Nat}
    (hw : s.activity? w = some (.checking place)) {f : Finished} {g : Worker → Worker}
    (hdone : ∀ worker, (g worker).done = worker.done ++ (f.report? names).toList)
    (hcrashed : ∀ worker text, (g worker).activity = .crashed text ↔
      f.outcome = .error (.crashed text)) :
    Recorded names (noted ++ [(w, f)]) { s with workers := s.workers.modify w g } := by
  obtain ⟨worker, hworker, ha⟩ := worker_of_activity? hw
  refine ⟨?_, ?_, ?_⟩
  · intro v other hother
    rw [reportsOf_append]
    rcases getElem?_modify_eq_some hworker hother with ⟨rfl, rfl⟩ | ⟨hv, hother⟩
    · rw [if_pos rfl, hdone, h.done v worker hworker]
    · rw [if_neg (Ne.symm hv), Option.toList_none, List.append_nil]
      exact h.done v other hother
  · intro v text
    have hold := h.crashed v text
    rw [activity?_modify hworker]
    split
    · subst v
      have hnone : ∀ f : Finished, (w, f) ∈ noted → f.outcome ≠ .error (.crashed text) := by
        intro f hmem hf
        have := hold.mpr ⟨f, hmem, hf⟩
        rw [hw] at this
        cases this
      rw [Option.some.injEq, hcrashed]
      constructor
      · intro hf
        exact ⟨f, by simp, hf⟩
      · rintro ⟨f', hmem, hf'⟩
        rcases List.mem_append.mp hmem with hmem | hmem
        · exact absurd hf' (hnone f' hmem)
        · cases List.mem_singleton.mp hmem
          exact hf'
    · rename_i hv
      rw [hold]
      simp [hv]
  · intro n hn
    rw [List.length_modify]
    rcases List.mem_append.mp hn with hn | hn
    · exact h.lt_of_noted n hn
    · rw [List.mem_singleton.mp hn]
      exact (List.getElem?_eq_some_iff.mp hworker).1

theorem step {e : Event} (h : Recorded names noted s) (hm : Move names s e s') :
    Recorded names (noted ++ (finishedBy? s e).toList) s' := by
  cases hm with
  | feed | close | stopFeeding | cancel | joinEnded | joinCrashed =>
    simp only [finishedBy?, Option.toList_none, List.append_nil]
    exact ⟨h.done, h.crashed, h.lt_of_noted⟩
  | approach hw =>
    simp only [finishedBy?, Option.toList_none, List.append_nil]
    exact h.become hw rfl (by simp)
  | @take w place queue hw hq =>
    simp only [finishedBy?, Option.toList_none, List.append_nil]
    have hrest : Recorded names noted { s with queue } := ⟨h.done, h.crashed, h.lt_of_noted⟩
    exact hrest.become hw rfl (by simp)
  | dry hw =>
    simp only [finishedBy?, Option.toList_none, List.append_nil]
    exact h.become hw rfl (by simp)
  | leave hc hw =>
    simp only [finishedBy?, Option.toList_none, List.append_nil]
    rcases hw with hw | ⟨place, hw⟩
    · exact h.become hw rfl (by simp)
    · exact h.become hw rfl (by simp)
  | report hw =>
    rw [finishedBy?_finish hw, Option.toList_some]
    exact h.finish hw (fun _ => rfl) (by simp)
  | fail hw =>
    rw [finishedBy?_finish hw, Option.toList_some]
    have hrest : Recorded names noted { s with guarded := true, cancelled := true } :=
      ⟨h.done, h.crashed, h.lt_of_noted⟩
    exact hrest.finish hw (fun _ => (List.append_nil _).symm) (by simp)
  | failLater hw =>
    rw [finishedBy?_finish hw, Option.toList_some]
    exact h.finish hw (fun _ => (List.append_nil _).symm) (by simp)
  | crash hw =>
    rw [finishedBy?_finish hw, Option.toList_some]
    exact h.finish hw (fun _ => (List.append_nil _).symm) (by simp)

end Recorded

theorem recorded_start (concurrency : Nat) : Recorded names [] (start concurrency names) := by
  have hfresh (w : Nat) (worker : Worker)
      (hw : (start concurrency names).workers[w]? = some worker) : worker = Worker.fresh :=
    List.eq_of_mem_replicate (List.mem_of_getElem? hw)
  refine ⟨?_, ?_, by simp⟩
  · intro w worker hw
    rw [hfresh w worker hw]
    rfl
  · intro w text
    refine iff_of_false (fun hcrashed => ?_) (by simp)
    obtain ⟨worker, hw, ha⟩ := worker_of_activity? hcrashed
    rw [hfresh w worker hw] at ha
    cases ha

end Recorded

section Finish

variable {names : List String} {noted : List (Nat × Finished)} {count : Nat} {s : State}

theorem all_joined (h : s.isFinished = true) : s.joined = s.workers.length ∧ s.feeder = .closed := by
  simpa [isFinished] using h

theorem Settled.results_of_finished (h : Settled names s) (hfin : s.isFinished = true) :
    s.results = handOver (names.map fun _ => none) (s.workers.flatMap Worker.handed) := by
  rw [h.results, (all_joined hfin).1, List.take_length]

theorem Settled.over_of_finished (h : Settled names s) (hfin : s.isFinished = true) :
    ∀ worker ∈ s.workers, worker.activity.isOver = true := by
  intro worker hmem
  obtain ⟨w, hw⟩ := List.mem_iff_getElem?.mp hmem
  refine h.isOver w worker ?_ hw
  rw [(all_joined hfin).1]
  exact (List.getElem?_eq_some_iff.mp hw).1

theorem Placed.lt_of_done (h : Placed names noted count s) {worker : Worker}
    (hmem : worker ∈ s.workers) {d : Nat × Report} (hd : d ∈ worker.done) :
    d.1 < names.length := by
  have hcount : 0 < (worker.done.map Prod.fst).count d.1 :=
    List.count_pos_iff.mpr (List.mem_map_of_mem hd)
  have hle := le_total (m := Worker.claims d.1) hmem
  have hlt := h.lt_of_claimed d.1 (by simp only [claims, Worker.claims] at hle ⊢; omega)
  exact Nat.lt_of_lt_of_le hlt h.count_le

theorem count_handed_le (s : State) (place : Nat) :
    ((s.workers.flatMap Worker.handed).map Prod.fst).count place ≤ s.claims place := by
  have hle : total _ s.workers ≤ total (Worker.claims place) s.workers :=
    total_mono fun worker _ => worker.count_handed_le place
  rw [count_handed, claims]
  omega

theorem Placed.nodup_handed (h : Placed names noted count s) :
    ((s.workers.flatMap Worker.handed).map Prod.fst).Nodup := by
  rw [List.nodup_iff_count]
  exact fun place => Nat.le_trans (s.count_handed_le place) (h.claims_le place)

theorem Placed.not_handed_of_crashed (h : Placed names noted count s) {worker : Worker}
    (hmem : worker ∈ s.workers) {text : String} (ha : worker.activity = .crashed text)
    {d : Nat × Report} (hd : d ∈ worker.done) :
    d.1 ∉ (s.workers.flatMap Worker.handed).map Prod.fst := by
  have hdone : 0 < (worker.done.map Prod.fst).count d.1 :=
    List.count_pos_iff.mpr (List.mem_map_of_mem hd)
  have hle : total _ s.workers + 1 ≤ total (Worker.claims d.1) s.workers :=
    total_add_le (fun worker _ => worker.count_handed_le d.1) hmem (by
      rw [Worker.handed_crashed ha, Worker.claims]
      simp only [List.map_nil, List.count_nil]
      omega)
  have hone := h.claims_le d.1
  rw [← List.count_eq_zero, count_handed]
  simp only [claims] at hone
  omega

theorem slot_of_handed (hsettled : Settled names s) (hplaced : Placed names noted count s)
    (hfin : s.isFinished = true) {worker : Worker} (hmem : worker ∈ s.workers) {i : Nat}
    {report : Report} (hd : (i, report) ∈ worker.handed) : s.results[i]? = some (some report) := by
  rw [hsettled.results_of_finished hfin]
  refine getElem?_handOver_of_mem hplaced.nodup_handed ?_ ?_
  · exact List.mem_flatMap.mpr ⟨worker, hmem, hd⟩
  · rw [List.length_map]
    exact hplaced.lt_of_done hmem (Worker.mem_done_of_handed hd)

theorem slot_of_not_handed (hsettled : Settled names s) (hfin : s.isFinished = true) {i : Nat}
    (hi : i < names.length) (hnot : i ∉ (s.workers.flatMap Worker.handed).map Prod.fst) :
    s.results[i]? = some none := by
  rw [hsettled.results_of_finished hfin, getElem?_handOver_of_not_mem hnot, List.getElem?_map,
    List.getElem?_eq_getElem hi]
  rfl

theorem handed_of_slot (hsettled : Settled names s) (hfin : s.isFinished = true) {i : Nat}
    {report : Report} (h : s.results[i]? = some (some report)) :
    ∃ worker ∈ s.workers, (i, report) ∈ worker.handed := by
  rw [hsettled.results_of_finished hfin] at h
  rcases mem_of_handOver h with h | h
  · rw [List.getElem?_map, Option.map_eq_some_iff] at h
    obtain ⟨name, -, hname⟩ := h
    cases hname
  · exact List.mem_flatMap.mp h

theorem worker_of_report (hrecorded : Recorded names noted s) {w : Nat} {f : Finished}
    (hmem : (w, f) ∈ noted) {d : Nat × Report} (hd : f.report? names = some d) :
    ∃ worker, s.workers[w]? = some worker ∧ d ∈ worker.done := by
  have hworker := List.getElem?_eq_getElem (hrecorded.lt_of_noted _ hmem)
  refine ⟨_, hworker, ?_⟩
  rw [hrecorded.done w _ hworker]
  exact mem_reportsOf.mpr ⟨f, hmem, hd⟩

theorem slot_of_kept (hsettled : Settled names s) (hplaced : Placed names noted count s)
    (hrecorded : Recorded names noted s) (hfin : s.isFinished = true) {w i : Nat} {f : Finished}
    (hmem : (w, f) ∈ noted) {report : Report} (hf : f.report? names = some (i, report))
    (hw : ∀ text, s.activity? w ≠ some (.crashed text)) : s.results[i]? = some (some report) := by
  obtain ⟨worker, hworker, hd⟩ := worker_of_report hrecorded hmem hf
  refine slot_of_handed hsettled hplaced hfin (List.mem_of_getElem? hworker) ?_
  rw [Worker.handed_of_not_crashed]
  · exact hd
  · intro text ha
    exact hw text (by rw [activity?_eq hworker, ha])

theorem slot_of_lost (hsettled : Settled names s) (hplaced : Placed names noted count s)
    (hrecorded : Recorded names noted s) (hfin : s.isFinished = true) {w i : Nat} {f : Finished}
    (hmem : (w, f) ∈ noted) {report : Report} (hf : f.report? names = some (i, report))
    {text : String} (hw : s.activity? w = some (.crashed text)) :
    s.results[i]? = some none := by
  obtain ⟨worker, hworker, hd⟩ := worker_of_report hrecorded hmem hf
  have ha : worker.activity = .crashed text := by
    rw [activity?_eq hworker, Option.some.injEq] at hw
    exact hw
  have hmem := List.mem_of_getElem? hworker
  exact slot_of_not_handed hsettled hfin (hplaced.lt_of_done hmem hd)
    (hplaced.not_handed_of_crashed hmem ha hd)

theorem kept_of_slot (hsettled : Settled names s) (hrecorded : Recorded names noted s)
    (hfin : s.isFinished = true) {i : Nat} {report : Report}
    (h : s.results[i]? = some (some report)) :
    ∃ w f, (w, f) ∈ noted ∧ f.report? names = some (i, report) ∧
      ∀ text, s.activity? w ≠ some (.crashed text) := by
  obtain ⟨worker, hmem, hd⟩ := handed_of_slot hsettled hfin h
  obtain ⟨w, hworker⟩ := List.mem_iff_getElem?.mp hmem
  have hdone := Worker.mem_done_of_handed hd
  rw [hrecorded.done w worker hworker] at hdone
  obtain ⟨f, hf, hreport⟩ := mem_reportsOf.mp hdone
  refine ⟨w, f, hf, hreport, fun text hw => ?_⟩
  rw [activity?_eq hworker, Option.some.injEq] at hw
  rw [Worker.handed_crashed hw] at hd
  simp at hd

theorem of_report?_eq_some {f : Finished} {i : Nat} {report : Report}
    (h : f.report? names = some (i, report)) : ∃ results, f = ⟨i, .ok results, f.time⟩ := by
  obtain ⟨place, outcome, time⟩ := f
  cases outcome with
  | error halt => cases h
  | ok results =>
    cases h
    exact ⟨results, rfl⟩

end Finish

end NameScout.Batch.State

namespace NameScout.Batch

def finishedIn (names : List String) (concurrency : Nat) (events : List Event) :
    List (Nat × State.Finished) :=
  State.trace names State.finishedBy? (.start concurrency names) events

section Run

variable {names : List String} {concurrency : Nat} {events : List Event} {s : State}

theorem placed_run (h : State.run? names (.start concurrency names) events = some s) :
    ∃ count, State.Placed names (finishedIn names concurrency events) count s :=
  State.trace_induction names State.finishedBy? (P := fun noted s => ∃ count,
    State.Placed names noted count s) (fun _ _ _ _ ⟨_, hs⟩ hm => hs.step hm)
    ⟨0, State.placed_start concurrency⟩ h

theorem settled_run (h : State.run? names (.start concurrency names) events = some s) :
    State.Settled names s :=
  @State.trace_induction _ names State.finishedBy? (fun _ s => State.Settled names s)
    (fun _ _ _ _ hs hm => hs.step hm) [] _ _ _ (State.settled_start concurrency) h

theorem recorded_run (h : State.run? names (.start concurrency names) events = some s) :
    State.Recorded names (finishedIn names concurrency events) s :=
  State.trace_induction names State.finishedBy? (fun _ _ _ _ hs hm => hs.step hm)
    (State.recorded_start concurrency) h

end Run

def BreaksDown (noted : List (Nat × State.Finished)) (w : Nat) : Prop :=
  ∃ text, ∃ f : State.Finished, (w, f) ∈ noted ∧ f.outcome = .error (.crashed text)

/-- When a batch returns, the result of every check that returned is in its slot, unless a later
check of the same worker breaks down: then the slot is empty. A slot is empty for no other
reason than that no check of its name returned to a worker that did not break down. -/
theorem keeps_unless_broken_down (names : List String) (concurrency : Nat) (events : List Event)
    {s : State} (h : State.run? names (.start concurrency names) events = some s)
    (hfin : s.isFinished = true) :
    (∀ w i results time, (w, ⟨i, .ok results, time⟩) ∈ finishedIn names concurrency events →
      (BreaksDown (finishedIn names concurrency events) w →
        s.outcome.results[i]? = some none) ∧
      (¬ BreaksDown (finishedIn names concurrency events) w → ∃ name, names[i]? = some name ∧
        s.outcome.results[i]? = some (some (Report.ofResults name results time)))) ∧
    ∀ i, i < names.length → (s.outcome.results[i]? = some none ↔
      ∀ w results time, (w, ⟨i, .ok results, time⟩) ∈ finishedIn names concurrency events →
        BreaksDown (finishedIn names concurrency events) w) := by
  obtain ⟨count, hplaced⟩ := placed_run h
  have hsettled := settled_run h
  have hrecorded := recorded_run h
  have hbroken (w : Nat) : BreaksDown (finishedIn names concurrency events) w ↔
      ∃ text, s.activity? w = some (.crashed text) := by
    simp only [BreaksDown, hrecorded.crashed]
  refine ⟨fun w i results time hmem => ⟨fun hw => ?_, fun hw => ?_⟩, fun i hi => ⟨?_, ?_⟩⟩
  · obtain ⟨text, ha⟩ := (hbroken w).mp hw
    exact State.slot_of_lost hsettled hplaced hrecorded hfin hmem rfl ha
  · have hlt : i < names.length := Nat.lt_of_lt_of_le (hplaced.lt_of_noted _ hmem) hplaced.count_le
    have hname := List.getElem?_eq_getElem hlt
    have hslot := State.slot_of_kept hsettled hplaced hrecorded hfin hmem rfl
      fun text ha => hw ((hbroken w).mpr ⟨text, ha⟩)
    refine ⟨_, hname, ?_⟩
    rw [hname, Option.getD_some] at hslot
    exact hslot
  · intro hslot w results time hmem
    rw [hbroken]
    apply Classical.byContradiction
    intro hw
    have hkept := State.slot_of_kept hsettled hplaced hrecorded hfin hmem rfl
      fun text ha => hw ⟨text, ha⟩
    have hslot : s.results[i]? = some none := hslot
    rw [hkept] at hslot
    cases hslot
  · intro hall
    have hlen : s.results.length = names.length := (kept_run h).length
    obtain ⟨slot, hslot⟩ : ∃ slot, s.results[i]? = some slot :=
      ⟨_, List.getElem?_eq_getElem (hlen ▸ hi)⟩
    cases slot with
    | none => exact hslot
    | some report =>
      obtain ⟨w, f, hmem, hf, hw⟩ := State.kept_of_slot hsettled hrecorded hfin hslot
      obtain ⟨results, heq⟩ := State.of_report?_eq_some hf
      rw [heq] at hmem
      obtain ⟨text, ha⟩ := (hbroken w).mp (hall w results _ hmem)
      exact absurd ha (hw text)

def secondBreaksDown : List Event :=
  [.feed, .feed, .approach 0, .take 0, .approach 1, .take 1, .feed, .finish 0 (.ok []) .epoch,
    .finish 1 (.ok []) .epoch, .approach 1, .take 1, .feed,
    .finish 1 (.error (.crashed "boom")) .epoch, .approach 0, .take 0, .join, .join]

theorem keeps_unless_broken_down_secondWorker : ∃ s,
    State.run? ["left-pad", "right-pad", "pad"] (.start 2 ["left-pad", "right-pad", "pad"])
        secondBreaksDown = some s ∧ s.isFinished = true ∧
      s.outcome.results[0]? = some (some (Report.ofResults "left-pad" [] .epoch)) ∧
      s.outcome.results[1]? = some none := by
  obtain ⟨s, hs⟩ : ∃ s, State.run? ["left-pad", "right-pad", "pad"]
      (.start 2 ["left-pad", "right-pad", "pad"]) secondBreaksDown = some s := ⟨_, rfl⟩
  have hfin : s.isFinished = true := by
    cases hs
    rfl
  have hfinished : finishedIn ["left-pad", "right-pad", "pad"] 2 secondBreaksDown =
      [(0, ⟨0, .ok [], .epoch⟩), (1, ⟨1, .ok [], .epoch⟩),
        (1, ⟨2, .error (.crashed "boom"), .epoch⟩)] := rfl
  obtain ⟨hkept, -⟩ := keeps_unless_broken_down _ 2 secondBreaksDown hs hfin
  rw [hfinished] at hkept
  refine ⟨s, hs, hfin, ?_, ?_⟩
  · obtain ⟨name, hname, hslot⟩ := (hkept 0 0 [] .epoch (by simp)).2 (by simp [BreaksDown])
    cases hname
    exact hslot
  · exact (hkept 1 1 [] .epoch (by simp)).1 ⟨"boom", ⟨2, .error (.crashed "boom"), .epoch⟩, by simp, rfl⟩

def returnsThenBreaksDown : List Event :=
  [.feed, .approach 0, .take 0, .finish 0 (.ok []) .epoch, .feed, .approach 0, .take 0,
    .finish 0 (.error (.crashed "boom")) .epoch, .feed, .join]

theorem returned_check_is_lost : ∃ s,
    State.run? ["left-pad", "right-pad"] (.start 1 ["left-pad", "right-pad"])
        returnsThenBreaksDown = some s ∧ s.isFinished = true ∧
      (0, ⟨0, .ok [], .epoch⟩) ∈ finishedIn ["left-pad", "right-pad"] 1 returnsThenBreaksDown ∧
      s.outcome.results[0]? = some none := by
  have hfinished : finishedIn ["left-pad", "right-pad"] 1 returnsThenBreaksDown =
      [(0, ⟨0, .ok [], .epoch⟩), (0, ⟨1, .error (.crashed "boom"), .epoch⟩)] := rfl
  refine ⟨_, rfl, rfl, ?_, rfl⟩
  rw [hfinished]
  exact List.mem_cons_self

end NameScout.Batch
