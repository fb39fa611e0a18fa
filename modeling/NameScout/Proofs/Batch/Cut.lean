import NameScout.Proofs.Batch.Verdict

namespace NameScout.Batch

/-- How many names a worker may have taken without a report: the one that it is checking, or the
one that it has given up. -/
def Activity.holds : Activity → Nat
  | waiting | receiving => 0
  | checking _ | ended _ | crashed _ => 1

def Worker.share (worker : Worker) : Nat :=
  worker.done.length + worker.activity.holds

theorem Activity.holds_le_one (a : Activity) : a.holds ≤ 1 := by
  cases a <;> simp [holds]

theorem total_share_le (workers : List Worker) :
    total Worker.share workers ≤ total (fun worker => worker.done.length) workers +
      workers.length := by
  induction workers with
  | nil => exact Nat.le_refl 0
  | cons first rest ih =>
    have := first.activity.holds_le_one
    simp only [total, Worker.share, List.length_cons] at ih ⊢
    omega

theorem length_handed {workers : List Worker}
    (h : ∀ worker ∈ workers, ∀ text, worker.activity ≠ .crashed text) :
    (workers.flatMap Worker.handed).length = total (fun worker => worker.done.length) workers := by
  induction workers with
  | nil => rfl
  | cons first rest ih =>
    have hfirst := Worker.handed_of_not_crashed (h first List.mem_cons_self)
    have hrest := ih fun worker hmem => h worker (List.mem_cons_of_mem _ hmem)
    rw [List.flatMap_cons, List.length_append, hfirst, hrest, total]

namespace State

variable {names : List String} {taken more : List (Nat × Nat)} {noted : List (Nat × Finished)}
  {count : Nat} {s s' : State}

theorem length_workers_of_move {e : Event} (hm : Move names s e s') :
    s'.workers.length = s.workers.length := by
  cases hm <;> simp [become]

section Cut

/-- What the workers check and report on has been taken, and each worker has reported on all that
it took but one. -/
structure Cut (taken : List (Nat × Nat)) (s : State) : Prop where
  checking_lt : ∀ worker ∈ s.workers, ∀ place, worker.activity = .checking place →
    place < taken.length
  done_lt : ∀ worker ∈ s.workers, ∀ d ∈ worker.done, d.1 < taken.length
  le_shares : taken.length ≤ total Worker.share s.workers

theorem Fed.next_eq (h : Fed names taken s) {place : Nat} {queue : List Nat}
    (hq : s.queue = place :: queue) : place = taken.length := by
  obtain ⟨count, -, hrange, -⟩ := h
  have hget := congrArg (·[taken.length]?) hrange
  have hlt : taken.length < count := by
    have hlength := congrArg List.length hrange
    simp only [List.length_append, List.length_map, List.length_range, hq, List.length_cons]
      at hlength
    omega
  simpa [hq, List.getElem?_append_right, hlt] using hget

theorem Fed.length_le (h : Fed names taken s) : taken.length ≤ names.length := by
  obtain ⟨count, hle, hrange, -⟩ := h
  have hlength := congrArg List.length hrange
  simp only [List.length_append, List.length_map, List.length_range] at hlength
  omega

namespace Cut

theorem of_workers (h : Cut taken s) (hworkers : s'.workers = s.workers) : Cut taken s' := by
  refine ⟨?_, ?_, ?_⟩
  · rw [hworkers]
    exact h.checking_lt
  · rw [hworkers]
    exact h.done_lt
  · rw [hworkers]
    exact h.le_shares

theorem modify (h : Cut taken s) {w : Nat} {worker : Worker} (hw : s.workers[w]? = some worker)
    {f : Worker → Worker}
    (hchecking : ∀ place, (f worker).activity = .checking place →
      place < (taken ++ more).length)
    (hdone : ∀ d ∈ (f worker).done, d.1 < (taken ++ more).length)
    (hshare : worker.share + more.length ≤ (f worker).share) :
    Cut (taken ++ more) { s with workers := s.workers.modify w f } := by
  have hle : taken.length ≤ (taken ++ more).length := by simp
  refine ⟨fun other hmem place ha => ?_, fun other hmem d hd => ?_, ?_⟩
  · rcases mem_modify hmem with hmem | ⟨old, hold, rfl⟩
    · exact Nat.lt_of_lt_of_le (h.checking_lt other hmem place ha) hle
    · cases hw.symm.trans hold
      exact hchecking place ha
  · rcases mem_modify hmem with hmem | ⟨old, hold, rfl⟩
    · exact Nat.lt_of_lt_of_le (h.done_lt other hmem d hd) hle
    · cases hw.symm.trans hold
      exact hdone d hd
  · have htotal := total_modify (m := Worker.share) hw f
    have hshares := h.le_shares
    rw [List.length_append]
    simp only
    omega

theorem become (h : Cut taken s) {w : Nat} {a b : Activity} (hw : s.activity? w = some b)
    (ha : ∀ place, a ≠ .checking place) (hholds : b.holds ≤ a.holds) :
    Cut taken (s.become w a) := by
  obtain ⟨worker, hworker, rfl⟩ := worker_of_activity? hw
  have hmem := List.mem_of_getElem? hworker
  have hcut : Cut (taken ++ []) (s.become w a) := by
    refine h.modify hworker (fun place hplace => absurd hplace (ha place)) ?_ ?_
    · simpa using h.done_lt worker hmem
    · simp only [Worker.share, List.length_nil]
      omega
  rwa [List.append_nil] at hcut

theorem take (h : Cut taken s) (hfed : Fed names taken s) {w place : Nat} {queue : List Nat}
    (hw : s.activity? w = some .receiving) (hq : s.queue = place :: queue) :
    Cut (taken ++ [(w, place)]) ({ s with queue }.become w (.checking place)) := by
  obtain ⟨worker, hworker, ha⟩ := worker_of_activity? hw
  have hplace := hfed.next_eq hq
  have hrest : Cut taken { s with queue } := h.of_workers rfl
  refine hrest.modify hworker (fun p hp => ?_) (fun d hd => ?_) ?_
  · cases hp
    simp [hplace]
  · have := h.done_lt worker (List.mem_of_getElem? hworker) d hd
    rw [List.length_append]
    omega
  · simp [Worker.share, ha, Activity.holds]

theorem report (h : Cut taken s) {w place : Nat} (hw : s.activity? w = some (.checking place))
    (report : Report) :
    Cut taken { s with workers := s.workers.modify w fun worker =>
      { activity := .waiting, done := worker.done ++ [(place, report)] } } := by
  obtain ⟨worker, hworker, ha⟩ := worker_of_activity? hw
  have hmem := List.mem_of_getElem? hworker
  have hcut : Cut (taken ++ []) { s with workers := s.workers.modify w fun worker =>
      { activity := .waiting, done := worker.done ++ [(place, report)] } } := by
    refine h.modify hworker (fun p hp => by cases hp) (fun d hd => ?_) ?_
    · rw [List.append_nil]
      rcases List.mem_append.mp hd with hd | hd
      · exact h.done_lt worker hmem d hd
      · rw [List.mem_singleton.mp hd]
        exact h.checking_lt worker hmem place ha
    · simp [Worker.share, ha, Activity.holds]
  rwa [List.append_nil] at hcut

theorem step {e : Event} (h : Cut taken s) (hfed : Fed names taken s) (hm : Move names s e s') :
    Cut (taken ++ (taken? s e).toList) s' := by
  cases hm with
  | feed | close | stopFeeding | cancel | joinEnded | joinCrashed =>
    simp only [taken?, Option.toList_none, List.append_nil]
    exact h.of_workers rfl
  | approach hw =>
    simp only [taken?, Option.toList_none, List.append_nil]
    exact h.become hw (by simp) (Nat.le_refl _)
  | take hw hq =>
    rw [taken?_eq_some hw hq, Option.toList_some]
    exact h.take hfed hw hq
  | dry hw hq =>
    simp only [taken?, hw, hq, Option.toList_none, List.append_nil]
    exact h.become hw (by simp) (Nat.zero_le _)
  | leave hc hw =>
    simp only [taken?, Option.toList_none, List.append_nil]
    rcases hw with hw | ⟨place, hw⟩
    · exact h.become hw (by simp) (Nat.zero_le _)
    · exact h.become hw (by simp) (Nat.le_refl _)
  | report hw =>
    simp only [taken?, Option.toList_none, List.append_nil]
    exact h.report hw _
  | @fail w place failure time hw =>
    simp only [taken?, Option.toList_none, List.append_nil]
    have hrest : Cut taken { s with guarded := true, cancelled := true } := h.of_workers rfl
    exact hrest.become hw (by simp) (Nat.le_refl _)
  | failLater hw | crash hw =>
    simp only [taken?, Option.toList_none, List.append_nil]
    exact h.become hw (by simp) (Nat.le_refl _)

end Cut

theorem cut_start (concurrency : Nat) : Cut [] (start concurrency names) := by
  refine ⟨fun worker hmem place ha => ?_, fun worker hmem d hd => ?_, Nat.zero_le _⟩
  · rw [List.eq_of_mem_replicate hmem] at ha
    cases ha
  · rw [List.eq_of_mem_replicate hmem] at hd
    cases hd

end Cut

section Sole

/-- A single worker checks the name that was taken last, and takes none after a check that did
not return. -/
structure Sole (taken : List (Nat × Nat)) (noted : List (Nat × Finished)) (s : State) : Prop where
  checking_last : ∀ w place, s.activity? w = some (.checking place) → place + 1 = taken.length
  stopped : ∀ n ∈ noted, ∀ halt, n.2.outcome = .error halt →
    n.2.place + 1 = taken.length ∧ s.allOver = true

theorem isOver_of_allOver (h : s.allOver = true) {w : Nat} {a : Activity}
    (hw : s.activity? w = some a) : a.isOver = true := by
  obtain ⟨worker, hworker, rfl⟩ := worker_of_activity? hw
  exact List.all_eq_true.mp h worker (List.mem_of_getElem? hworker)

theorem activity?_become_sole (hsole : s.workers.length ≤ 1) {w : Nat} {b : Activity}
    (hw : s.activity? w = some b) (f : Worker → Worker) {v : Nat} {a : Activity}
    (hv : ({ s with workers := s.workers.modify w f } : State).activity? v = some a) :
    ∃ worker, worker.activity = b ∧ a = (f worker).activity := by
  obtain ⟨worker, hworker, hb⟩ := worker_of_activity? hw
  obtain ⟨other, hother, rfl⟩ := worker_of_activity? hv
  have hlt := (List.getElem?_eq_some_iff.mp hworker).1
  have hlt' := (List.getElem?_eq_some_iff.mp hother).1
  rw [List.length_modify] at hlt'
  obtain rfl : v = w := by omega
  rcases getElem?_modify_eq_some hworker hother with ⟨-, rfl⟩ | ⟨hne, -⟩
  · exact ⟨worker, hb, rfl⟩
  · exact absurd rfl hne

namespace Sole

theorem of_workers (h : Sole taken noted s) (hworkers : s'.workers = s.workers) :
    Sole taken noted s' := by
  refine ⟨fun w place hw => h.checking_last w place ?_, fun n hn halt hhalt => ?_⟩
  · rwa [activity?, hworkers] at hw
  · rw [allOver, hworkers]
    exact h.stopped n hn halt hhalt

theorem returned (h : Sole taken noted s) {w : Nat} {a : Activity} (hw : s.activity? w = some a)
    (ha : a.isOver = false) : ∀ n ∈ noted, ∀ halt, n.2.outcome ≠ .error halt := by
  intro n hn halt hhalt
  rw [isOver_of_allOver (h.stopped n hn halt hhalt).2 hw] at ha
  cases ha

theorem modify (h : Sole taken noted s) (hsole : s.workers.length ≤ 1) {w : Nat} {b : Activity}
    (hw : s.activity? w = some b) (hb : b.isOver = false) {f : Worker → Worker}
    (hf : ∀ worker place, (f worker).activity ≠ .checking place) :
    Sole taken noted { s with workers := s.workers.modify w f } := by
  refine ⟨fun v place hv => ?_, fun n hn halt hhalt => absurd hhalt (h.returned hw hb n hn halt)⟩
  obtain ⟨worker, -, ha⟩ := activity?_become_sole hsole hw f hv
  exact absurd ha.symm (hf worker place)

theorem take (h : Sole taken noted s) (hsole : s.workers.length ≤ 1) (hfed : Fed names taken s)
    {w place : Nat} {queue : List Nat} (hw : s.activity? w = some .receiving)
    (hq : s.queue = place :: queue) :
    Sole (taken ++ [(w, place)]) noted ({ s with queue }.become w (.checking place)) := by
  refine ⟨fun v p hv => ?_, fun n hn halt hhalt => absurd hhalt (h.returned hw rfl n hn halt)⟩
  obtain ⟨worker, -, ha⟩ := activity?_become_sole (s := { s with queue }) hsole hw _ hv
  cases ha
  rw [hfed.next_eq hq, List.length_append, List.length_singleton]

theorem finish (h : Sole taken noted s) (hsole : s.workers.length ≤ 1) {w place : Nat}
    (hw : s.activity? w = some (.checking place)) {outcome : Except Halt (List CheckResult)}
    (time : Instant) {f : Worker → Worker}
    (hf : ∀ worker p, (f worker).activity ≠ .checking p)
    (hover : ∀ halt, outcome = .error halt → ∀ worker, (f worker).activity.isOver = true) :
    Sole taken (noted ++ [(w, ⟨place, outcome, time⟩)])
      { s with workers := s.workers.modify w f } := by
  have hrest := h.modify hsole hw rfl hf
  refine ⟨hrest.checking_last, fun n hn halt hhalt => ?_⟩
  rcases List.mem_append.mp hn with hn | hn
  · exact hrest.stopped n hn halt hhalt
  · cases List.mem_singleton.mp hn
    refine ⟨h.checking_last w place hw, ?_⟩
    rw [allOver, List.all_eq_true]
    intro other hmem
    obtain ⟨v, hv⟩ := activity?_of_mem hmem
    obtain ⟨worker, -, ha⟩ := activity?_become_sole hsole hw f hv
    rw [ha]
    exact hover halt hhalt worker

theorem step {e : Event} (h : Sole taken noted s) (hsole : s.workers.length ≤ 1)
    (hfed : Fed names taken s) (hm : Move names s e s') :
    Sole (taken ++ (taken? s e).toList) (noted ++ (finishedBy? s e).toList) s' := by
  cases hm with
  | feed | close | stopFeeding | cancel | joinEnded | joinCrashed =>
    simp only [taken?, finishedBy?, Option.toList_none, List.append_nil]
    exact h.of_workers rfl
  | approach hw =>
    simp only [taken?, finishedBy?, Option.toList_none, List.append_nil]
    exact h.modify hsole hw rfl (by simp)
  | take hw hq =>
    rw [taken?_eq_some hw hq, Option.toList_some]
    simp only [finishedBy?, Option.toList_none, List.append_nil]
    exact h.take hsole hfed hw hq
  | dry hw hq =>
    simp only [taken?, finishedBy?, hw, hq, Option.toList_none, List.append_nil]
    exact h.modify hsole hw rfl (by simp)
  | leave hc hw =>
    simp only [taken?, finishedBy?, Option.toList_none, List.append_nil]
    rcases hw with hw | ⟨place, hw⟩
    · exact h.modify hsole hw rfl (by simp)
    · exact h.modify hsole hw rfl (by simp)
  | report hw =>
    rw [finishedBy?_finish hw, Option.toList_some]
    simp only [taken?, Option.toList_none, List.append_nil]
    exact h.finish hsole hw _ (by simp) (by simp)
  | @fail w place failure time hw =>
    rw [finishedBy?_finish hw, Option.toList_some]
    simp only [taken?, Option.toList_none, List.append_nil]
    have hrest : Sole taken noted { s with guarded := true, cancelled := true } :=
      h.of_workers rfl
    exact hrest.finish hsole hw time (by simp) fun _ _ _ => rfl
  | failLater hw | crash hw =>
    rw [finishedBy?_finish hw, Option.toList_some]
    simp only [taken?, Option.toList_none, List.append_nil]
    exact h.finish hsole hw _ (by simp) fun _ _ _ => rfl

end Sole

theorem sole_start (concurrency : Nat) : Sole [] [] (start concurrency names) := by
  refine ⟨fun w place hw => ?_, by simp⟩
  obtain ⟨worker, hworker, ha⟩ := worker_of_activity? hw
  rw [List.eq_of_mem_replicate (List.mem_of_getElem? hworker)] at ha
  cases ha

end Sole

section Finish

theorem countP_handOver (results : List (Option Report)) (done : List (Nat × Report)) {k : Nat}
    (hnodup : (done.map Prod.fst).Nodup) (hlt : ∀ d ∈ done, d.1 < k) (hk : k ≤ results.length)
    (hfree : ∀ d ∈ done, results[d.1]? = some none) :
    ((handOver results done).take k).countP Option.isNone + done.length =
      (results.take k).countP Option.isNone := by
  induction done generalizing results with
  | nil => rfl
  | cons d done ih =>
    rw [List.map_cons, List.nodup_cons] at hnodup
    have hdlt := hlt d List.mem_cons_self
    have hfirst : (results.take k)[d.1]? = some none := by
      rw [List.getElem?_take_of_lt hdlt]
      exact hfree d List.mem_cons_self
    obtain ⟨hd, hnone⟩ := List.getElem?_eq_some_iff.mp hfirst
    have hrest := ih (results.set d.1 (some d.2)) hnodup.2
      (fun d' hd' => hlt d' (List.mem_cons_of_mem _ hd')) (by simpa using hk) fun d' hd' => by
        have hne : d.1 ≠ d'.1 := fun heq => hnodup.1 (heq ▸ List.mem_map_of_mem hd')
        rw [List.getElem?_set_ne hne]
        exact hfree d' (List.mem_cons_of_mem _ hd')
    have hpos : 0 < (results.take k).countP Option.isNone :=
      List.countP_pos_iff.mpr ⟨_, List.getElem_mem hd, by rw [hnone]; rfl⟩
    have hset : ((results.set d.1 (some d.2)).take k).countP Option.isNone + 1 =
        (results.take k).countP Option.isNone := by
      rw [List.take_set, List.countP_set hd, hnone]
      simp only [Option.isNone_none, Option.isNone_some, if_true, Bool.false_eq_true, if_false]
      omega
    have hcons : handOver results (d :: done) = handOver (results.set d.1 (some d.2)) done := rfl
    rw [hcons, List.length_cons]
    omega

theorem not_crashed_of_noted (hrecorded : Recorded names noted s)
    (hwhole : ∀ n ∈ noted, ∀ text, n.2.outcome ≠ .error (.crashed text)) :
    ∀ worker ∈ s.workers, ∀ text, worker.activity ≠ .crashed text := by
  intro worker hmem text ha
  obtain ⟨w, hw⟩ := activity?_of_mem hmem
  rw [ha] at hw
  obtain ⟨f, hf, hcrashed⟩ := (hrecorded.crashed w text).mp hw
  exact hwhole _ hf text hcrashed

theorem Cut.handed_lt (h : Cut taken s) :
    ∀ d ∈ s.workers.flatMap Worker.handed, d.1 < taken.length := by
  intro d hd
  obtain ⟨worker, hmem, hd⟩ := List.mem_flatMap.mp hd
  exact h.done_lt worker hmem d (Worker.mem_done_of_handed hd)

theorem Cut.slot_of_le (h : Cut taken s) (hsettled : Settled names s) (hfin : s.isFinished = true)
    {i : Nat} (hle : taken.length ≤ i) (hi : i < names.length) : s.results[i]? = some none := by
  refine slot_of_not_handed hsettled hfin hi fun hmem => ?_
  obtain ⟨d, hd, rfl⟩ := List.mem_map.mp hmem
  exact Nat.not_lt.mpr hle (h.handed_lt d hd)

theorem Cut.lost_le (h : Cut taken s) (hfed : Fed names taken s) (hsettled : Settled names s)
    (hplaced : Placed names noted count s) (hrecorded : Recorded names noted s)
    (hfin : s.isFinished = true)
    (hwhole : ∀ n ∈ noted, ∀ text, n.2.outcome ≠ .error (.crashed text)) :
    (s.results.take taken.length).countP Option.isNone ≤ s.workers.length := by
  have hempty : ((names.map fun _ => (none : Option Report)).take taken.length).countP
      Option.isNone = taken.length := by
    rw [← List.map_take, List.countP_map, List.countP_eq_length.mpr (by simp), List.length_take]
    exact Nat.min_eq_left hfed.length_le
  have hcount := countP_handOver (names.map fun _ => none) (s.workers.flatMap Worker.handed)
    hplaced.nodup_handed h.handed_lt (by simpa using hfed.length_le) fun d hd => by
      have hlt := Nat.lt_of_lt_of_le (h.handed_lt d hd) hfed.length_le
      rw [List.getElem?_map, List.getElem?_eq_getElem hlt]
      rfl
  have hhanded := length_handed (not_crashed_of_noted hrecorded hwhole)
  have hshares := h.le_shares
  have htotal := total_share_le s.workers
  rw [← hsettled.results_of_finished hfin, hempty] at hcount
  omega

theorem slot_of_lost_le_one {results : List (Option Report)} {k p i : Nat}
    (hlost : (results.take k).countP Option.isNone ≤ 1) (hk : k ≤ results.length)
    (hp : results[p]? = some none) (hpk : p < k) (hi : i < k) (hne : i ≠ p) :
    ∃ report, results[i]? = some (some report) := by
  obtain ⟨slot, hslot⟩ : ∃ slot, results[i]? = some slot :=
    ⟨_, List.getElem?_eq_getElem (Nat.lt_of_lt_of_le hi hk)⟩
  cases slot with
  | some report => exact ⟨report, hslot⟩
  | none =>
    -- Two empty slots could be filled one after the other.
    let report := Report.ofResults "" [] .epoch
    have hcount := countP_handOver results [(p, report), (i, report)]
      (by simp [Ne.symm hne]) (by simp [hpk, hi]) hk (by simp [hp, hslot])
    simp only [List.length_cons, List.length_nil] at hcount
    omega

end Finish

end State

section Run

variable {names : List String} {concurrency : Nat} {events : List Event} {s : State}

theorem length_workers_run (h : State.run? names (.start concurrency names) events = some s) :
    s.workers.length = workerCount concurrency names.length :=
  @State.trace_induction _ names State.finishedBy?
    (fun _ s => s.workers.length = workerCount concurrency names.length)
    (fun _ _ _ _ hs hm => (State.length_workers_of_move hm).trans hs) [] _ _ _
    (by simp [State.start]) h

theorem cut_run (h : State.run? names (.start concurrency names) events = some s) :
    ∃ taken, State.Fed names taken s ∧ State.Cut taken s ∧
      (s.workers.length ≤ 1 → State.Sole taken (finishedIn names concurrency events) s) :=
  State.trace_induction names State.finishedBy? (P := fun noted s => ∃ taken,
    State.Fed names taken s ∧ State.Cut taken s ∧
      (s.workers.length ≤ 1 → State.Sole taken noted s))
    (fun _ _ _ _ ⟨_, hfed, hcut, hsole⟩ hm => ⟨_, hfed.step hm, hcut.step hfed hm, fun hone =>
      have hone := State.length_workers_of_move hm ▸ hone
      (hsole hone).step hone hfed hm⟩)
    ⟨[], State.fed_start concurrency, State.cut_start concurrency,
      fun _ => State.sole_start concurrency⟩ h

theorem sole_verdict (h : State.run? names (.start concurrency names) events = some s)
    (hfin : s.isFinished = true)
    (hwhole : ∀ n ∈ finishedIn names concurrency events, ∀ text,
      n.2.outcome ≠ .error (.crashed text))
    (hone : concurrency ≤ 1) {n : Nat × State.Finished}
    (hn : n ∈ finishedIn names concurrency events) {e : Failure}
    (he : n.2.outcome = .error (.failed e)) :
    n.2.place < names.length ∧
      ∀ i, i < names.length → ((∃ report, s.results[i]? = some (some report)) ↔ i < n.2.place) := by
  obtain ⟨taken, hfed, hcut, hsole⟩ := cut_run h
  obtain ⟨count, hplaced⟩ := placed_run h
  have hsettled := settled_run h
  have hrecorded := recorded_run h
  have hstaff : s.workers.length ≤ 1 := by
    rw [length_workers_run h, workerCount]
    omega
  have hlast := ((hsole hstaff).stopped n hn _ he).1
  have hlost := hcut.lost_le hfed hsettled hplaced hrecorded hfin hwhole
  have hlength := (kept_run h).length
  have hlt : n.2.place < names.length :=
    Nat.lt_of_lt_of_le (hplaced.lt_of_noted n hn) hplaced.count_le
  have hempty : s.results[n.2.place]? = some none := by
    refine State.slot_of_not_handed hsettled hfin hlt ?_
    rw [← List.count_eq_zero, ← Nat.le_zero, ← hplaced.released n hn _ he]
    exact s.count_handed_le n.2.place
  refine ⟨hlt, fun i hi => ⟨fun hslot => ?_, fun hbefore => ?_⟩⟩
  · obtain ⟨report, hreport⟩ := hslot
    apply Classical.byContradiction
    intro hle
    rcases Nat.lt_or_eq_of_le (Nat.not_lt.mp hle) with hafter | rfl
    · rw [hcut.slot_of_le hsettled hfin (by omega) hi] at hreport
      cases hreport
    · rw [hempty] at hreport
      cases hreport
  · refine State.slot_of_lost_le_one (Nat.le_trans hlost hstaff) ?_ hempty ?_ ?_ (by omega)
    · rw [hlength]
      exact hfed.length_le
    · omega
    · omega

theorem undisturbed (h : State.run? names (.start concurrency names) events = some s)
    (hfin : s.isFinished = true) (hcancel : .cancel ∉ events)
    (hreturned : AllReturned (finishedIn names concurrency events)) :
    s.error = none ∧ none ∉ s.results := by
  have hblamed := blamed_run h
  have herror : s.error = none :=
    Option.eq_none_iff_forall_ne_some.mpr fun e he =>
      (hblamed.raised e he).not_allReturned hreturned
  obtain ⟨hguarded, -⟩ := State.allReturned_of_error_eq_none hblamed (recorded_run h) hfin herror
  exact ⟨herror, full_of_undisturbed h hfin hcancel hguarded hreturned⟩

section Answers

variable {answer : Nat → Except Halt (List CheckResult)}

theorem answered_of_slot (h : State.run? names (.start concurrency names) events = some s)
    (hfin : s.isFinished = true)
    (hanswer : ∀ n ∈ finishedIn names concurrency events, n.2.outcome = answer n.2.place) {i : Nat}
    {report : Report} (hslot : s.results[i]? = some (some report)) :
    ∃ results, answer i = .ok results := by
  obtain ⟨w, f, hmem, hf, -⟩ := State.kept_of_slot (settled_run h) (recorded_run h) hfin hslot
  obtain ⟨results, heq⟩ := State.of_report?_eq_some hf
  have houtcome : f.outcome = answer f.place := hanswer _ hmem
  rw [heq] at houtcome
  exact ⟨results, houtcome.symm⟩

theorem sole_first (h : State.run? names (.start concurrency names) events = some s)
    (hfin : s.isFinished = true)
    (hwhole : ∀ n ∈ finishedIn names concurrency events, ∀ text,
      n.2.outcome ≠ .error (.crashed text))
    (hone : concurrency ≤ 1)
    (hanswer : ∀ n ∈ finishedIn names concurrency events, n.2.outcome = answer n.2.place)
    {j : Nat} {e e' : Failure} (hj : j < names.length) (hfails : answer j = .error (.failed e))
    (hbefore : ∀ i < j, ∃ results, answer i = .ok results) {n : Nat × State.Finished}
    (hn : n ∈ finishedIn names concurrency events) (he : n.2.outcome = .error (.failed e')) :
    n.2.place = j ∧ e' = e := by
  obtain ⟨-, hslots⟩ := sole_verdict h hfin hwhole hone hn he
  have houtcome := hanswer n hn
  rw [he] at houtcome
  have hplace : n.2.place = j := by
    rcases Nat.lt_trichotomy n.2.place j with hlt | heq | hgt
    · obtain ⟨results, hresults⟩ := hbefore _ hlt
      rw [hresults] at houtcome
      cases houtcome
    · exact heq
    · obtain ⟨report, hreport⟩ := (hslots j hj).mpr hgt
      obtain ⟨results, hresults⟩ := answered_of_slot h hfin hanswer hreport
      rw [hfails] at hresults
      cases hresults
  rw [hplace, hfails] at houtcome
  cases houtcome
  exact ⟨hplace, rfl⟩

theorem exists_failed (hwhole : ∀ n ∈ finishedIn names concurrency events, ∀ text,
      n.2.outcome ≠ .error (.crashed text))
    (hreturned : ¬ AllReturned (finishedIn names concurrency events)) :
    ∃ n ∈ finishedIn names concurrency events, ∃ e, n.2.outcome = .error (.failed e) := by
  simp only [AllReturned, Classical.not_forall] at hreturned
  obtain ⟨n, hn, hnone⟩ := hreturned
  refine ⟨n, hn, ?_⟩
  cases houtcome : n.2.outcome with
  | ok results => exact absurd ⟨results, houtcome⟩ hnone
  | error halt =>
    cases halt with
    | failed e => exact ⟨e, rfl⟩
    | crashed text => exact absurd houtcome (hwhole n hn text)

theorem sole_failed (h : State.run? names (.start concurrency names) events = some s)
    (hfin : s.isFinished = true)
    (hwhole : ∀ n ∈ finishedIn names concurrency events, ∀ text,
      n.2.outcome ≠ .error (.crashed text))
    (hone : concurrency ≤ 1) (hcancel : .cancel ∉ events)
    (hanswer : ∀ n ∈ finishedIn names concurrency events, n.2.outcome = answer n.2.place)
    {j : Nat} {e : Failure} (hj : j < names.length) (hfails : answer j = .error (.failed e))
    (hbefore : ∀ i < j, ∃ results, answer i = .ok results) :
    s.error = some e ∧ ∀ i, i < names.length →
      ((∃ report, s.results[i]? = some (some report)) ↔ i < j) := by
  have hfirst {n : Nat × State.Finished} {e' : Failure}
      (hn : n ∈ finishedIn names concurrency events) (he : n.2.outcome = .error (.failed e')) :
      n.2.place = j ∧ e' = e :=
    sole_first h hfin hwhole hone hanswer hj hfails hbefore hn he
  have hblamed := blamed_run h
  -- Had every check returned, the slot of the failing name would be filled.
  have hnot : ¬ AllReturned (finishedIn names concurrency events) := by
    intro hreturned
    obtain ⟨slot, hslot⟩ : ∃ slot, s.results[j]? = some slot :=
      ⟨_, List.getElem?_eq_getElem ((kept_run h).length.symm ▸ hj)⟩
    cases slot with
    | none => exact (undisturbed h hfin hcancel hreturned).2 (List.mem_of_getElem? hslot)
    | some report =>
      obtain ⟨results, hresults⟩ := answered_of_slot h hfin hanswer hslot
      rw [hfails] at hresults
      cases hresults
  obtain ⟨n, hn, e', he⟩ := exists_failed hwhole hnot
  obtain ⟨hplace, -⟩ := hfirst hn he
  refine ⟨?_, hplace ▸ (sole_verdict h hfin hwhole hone hn he).2⟩
  obtain ⟨e'', he''⟩ := Option.isSome_iff_exists.mp
    (State.error_of_guarded hblamed hfin (hblamed.guarded_of_failed n hn e' he))
  obtain ⟨n', hn', hraised | ⟨text, hcrashed, -⟩⟩ := hblamed.raised e'' he''
  · rw [he'', (hfirst hn' hraised).2]
  · exact absurd hcrashed (hwhole n' hn' text)

end Answers

end Run

/-- Unless a check breaks down, a batch leaves empty the slots from some place on, and before that
place one slot for each of its workers at most. With one worker, and a caller who does not cancel,
the slots before the first name whose check fails are filled and no others, and the failure of that
name is the batch's; if none fails, all are filled. -/
theorem loses_one_per_worker (names : List String) (concurrency : Nat) (events : List Event)
    {s : State} (h : State.run? names (.start concurrency names) events = some s)
    (hfin : s.isFinished = true)
    (hwhole : ∀ n ∈ finishedIn names concurrency events, ∀ text,
      n.2.outcome ≠ .error (.crashed text)) :
    s.outcome.results.length = names.length ∧
    (∃ k, k ≤ names.length ∧
      (∀ i, k ≤ i → i < names.length → s.outcome.results[i]? = some none) ∧
      (s.outcome.results.take k).countP Option.isNone ≤ min (max concurrency 1) names.length) ∧
    (concurrency ≤ 1 → .cancel ∉ events → ∀ answer : Nat → Except Halt (List CheckResult),
      (∀ n ∈ finishedIn names concurrency events, n.2.outcome = answer n.2.place) →
      (∀ j e, j < names.length → answer j = .error (.failed e) →
        (∀ i < j, ∃ results, answer i = .ok results) →
        s.outcome.error = some e ∧ ∀ i, i < names.length →
          ((∃ report, s.outcome.results[i]? = some (some report)) ↔ i < j)) ∧
      ((∀ i < names.length, ∃ results, answer i = .ok results) →
        s.outcome.error = none ∧ ∀ slot ∈ s.outcome.results, slot.isSome = true)) := by
  obtain ⟨taken, hfed, hcut, -⟩ := cut_run h
  obtain ⟨count, hplaced⟩ := placed_run h
  have hsettled := settled_run h
  refine ⟨(kept_run h).length, ⟨taken.length, hfed.length_le,
    fun i hle hi => hcut.slot_of_le hsettled hfin hle hi, ?_⟩,
    fun hone hcancel answer hanswer => ⟨fun j e hj hfails hbefore => ?_, fun hall => ?_⟩⟩
  · have hlost := hcut.lost_le hfed hsettled hplaced (recorded_run h) hfin hwhole
    rwa [length_workers_run h, workerCount] at hlost
  · obtain ⟨herror, hslots⟩ := sole_failed h hfin hwhole hone hcancel hanswer hj hfails hbefore
    exact ⟨State.outcome_error_of_some herror, hslots⟩
  · have hreturned : AllReturned (finishedIn names concurrency events) := by
      intro n hn
      rw [hanswer n hn]
      exact hall _ (Nat.lt_of_lt_of_le (hplaced.lt_of_noted n hn) hplaced.count_le)
    obtain ⟨herror, hfull⟩ := undisturbed h hfin hcancel hreturned
    refine ⟨?_, State.full_outcome_iff.mpr hfull⟩
    rw [State.outcome_error_of_none herror, if_neg hfull]

def secondOfThreeFails : List Event :=
  [.feed, .approach 0, .take 0, .feed, .finish 0 (.ok []) .epoch, .approach 0, .take 0, .feed,
    .finish 0 (.error (.failed (.other (.said "offline")))) .epoch, .stopFeeding, .join]

theorem loses_one_per_worker_secondOfThree : ∃ s,
    State.run? ["left-pad", "right-pad", "pad"] (.start 1 ["left-pad", "right-pad", "pad"])
        secondOfThreeFails = some s ∧ s.isFinished = true ∧
      s.outcome.error = some (.other (.said "offline")) ∧
      (∃ report, s.outcome.results[0]? = some (some report)) ∧
      (∃ k, k ≤ 3 ∧ (∀ i, k ≤ i → i < 3 → s.outcome.results[i]? = some none) ∧
        (s.outcome.results.take k).countP Option.isNone ≤ 1) := by
  obtain ⟨s, hs⟩ : ∃ s, State.run? ["left-pad", "right-pad", "pad"]
      (.start 1 ["left-pad", "right-pad", "pad"]) secondOfThreeFails = some s := ⟨_, rfl⟩
  have hfin : s.isFinished = true := by
    cases hs
    rfl
  have hfinished : finishedIn ["left-pad", "right-pad", "pad"] 1 secondOfThreeFails =
      [(0, ⟨0, .ok [], .epoch⟩), (0, ⟨1, .error (.failed (.other (.said "offline"))), .epoch⟩)] :=
    rfl
  let answer (i : Nat) : Except Halt (List CheckResult) :=
    if i = 1 then .error (.failed (.other (.said "offline"))) else .ok []
  obtain ⟨-, hcut, hsole⟩ := loses_one_per_worker _ 1 secondOfThreeFails hs hfin
    (by simp [hfinished])
  obtain ⟨hfailed, -⟩ := hsole (Nat.le_refl 1) (by simp [secondOfThreeFails]) answer
    (by simp [hfinished, answer])
  obtain ⟨herror, hslots⟩ := hfailed 1 (.other (.said "offline")) (by decide) rfl
    fun i hi => ⟨[], if_neg (Nat.ne_of_lt hi)⟩
  exact ⟨s, hs, hfin, herror, (hslots 0 (by decide)).mpr Nat.zero_lt_one, hcut⟩

end NameScout.Batch
