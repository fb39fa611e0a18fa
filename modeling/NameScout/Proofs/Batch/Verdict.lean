import NameScout.Proofs.Batch.Progress

namespace NameScout.Batch

/-- A failure that stops a batch: one that a check raised, or the end of a worker whose check
broke down. -/
def Raised (noted : List (Nat × State.Finished)) (e : Failure) : Prop :=
  ∃ n ∈ noted, n.2.outcome = .error (.failed e) ∨
    ∃ text, n.2.outcome = .error (.crashed text) ∧ e = .other (.workerAborted text)

def AllReturned (noted : List (Nat × State.Finished)) : Prop :=
  ∀ n ∈ noted, ∃ results, n.2.outcome = .ok results

theorem Raised.append {noted : List (Nat × State.Finished)} {e : Failure} (h : Raised noted e)
    (more : List (Nat × State.Finished)) : Raised (noted ++ more) e := by
  obtain ⟨n, hmem, hn⟩ := h
  exact ⟨n, List.mem_append_left more hmem, hn⟩

theorem AllReturned.of_append {noted more : List (Nat × State.Finished)}
    (h : AllReturned (noted ++ more)) : AllReturned noted :=
  fun n hn => h n (List.mem_append_left more hn)

theorem Raised.not_allReturned {noted : List (Nat × State.Finished)} {e : Failure}
    (h : Raised noted e) : ¬ AllReturned noted := by
  intro hreturned
  obtain ⟨n, hmem, hn⟩ := h
  obtain ⟨results, hresults⟩ := hreturned n hmem
  simp [hresults] at hn

namespace State

variable {names : List String} {noted : List (Nat × Finished)} {s s' : State}

section Whole

def fedIn (names : List String) (s : State) : Nat :=
  match s.feeder with
  | .feeding next => next
  | .closed => names.length

theorem fedIn_of_feeding {next : Nat} (h : s.feeder = .feeding next) : s.fedIn names = next := by
  simp [fedIn, h]

theorem fedIn_of_closed (h : s.feeder = .closed) : s.fedIn names = names.length := by
  simp [fedIn, h]

/-- No name has been dropped: those that were fed are all claimed, and the first worker to be
over found the queue closed and empty. -/
structure Whole (names : List String) (s : State) : Prop where
  claimed : ∀ place, place < s.fedIn names → 0 < s.claims place
  dry : ∀ worker ∈ s.workers, worker.activity.isOver = true → s.feeder = .closed ∧ s.queue = []
  staffed : s.workers = [] → names = []

namespace Whole

theorem feed (h : Whole names s) {next : Nat} (hf : s.feeder = .feeding next) :
    Whole names { s with feeder := .feeding (next + 1), queue := s.queue ++ [next] } := by
  refine ⟨fun place hplace => ?_, fun worker hmem hover => ?_, h.staffed⟩
  · have hold := h.claimed place
    rw [fedIn_of_feeding hf] at hold
    rw [fedIn_of_feeding rfl] at hplace
    simp only [claims, List.count_append, List.count_singleton, beq_iff_eq] at hold ⊢
    split
    · omega
    · have := hold (by omega)
      omega
  · have := (h.dry worker hmem hover).1
    rw [hf] at this
    cases this

theorem close (h : Whole names s) {next : Nat} (hf : s.feeder = .feeding next)
    (hend : names.length ≤ next ∨ s.allOver = true) : Whole names { s with feeder := .closed } := by
  -- While the feeder is at work no worker is over, so it closes the queue after the last name.
  have hle : names.length ≤ next := by
    rcases hend with hle | hover
    · exact hle
    cases hworkers : s.workers with
    | nil => simp [h.staffed hworkers]
    | cons worker workers =>
      have hmem : worker ∈ s.workers := by simp [hworkers]
      have hclosed := (h.dry worker hmem (List.all_eq_true.mp hover worker hmem)).1
      rw [hf] at hclosed
      cases hclosed
  refine ⟨fun place hplace => ?_, fun worker hmem hover => ⟨rfl, (h.dry worker hmem hover).2⟩,
    h.staffed⟩
  rw [fedIn_of_closed rfl] at hplace
  exact h.claimed place (by rw [fedIn_of_feeding hf]; omega)

theorem modify (h : Whole names s) {w : Nat} {f : Worker → Worker} {queue : List Nat}
    (hqueue : s.queue = [] → queue = [])
    (hclaims : ∀ place, ({ s with queue, workers := s.workers.modify w f } : State).claims place =
      s.claims place)
    (hover : ∀ worker, (f worker).activity.isOver = true → s.feeder = .closed ∧ queue = []) :
    Whole names { s with queue, workers := s.workers.modify w f } := by
  refine ⟨fun place hplace => ?_, fun worker hmem hworker => ?_, fun hnil => h.staffed ?_⟩
  · rw [hclaims]
    exact h.claimed place hplace
  · rcases mem_modify hmem with hmem | ⟨old, -, rfl⟩
    · obtain ⟨hfeeder, hempty⟩ := h.dry worker hmem hworker
      exact ⟨hfeeder, hqueue hempty⟩
    · exact hover old hworker
  · simpa using hnil

theorem step {e : Event} (h : Whole names s) (hm : Move names s e s')
    (hcancelled : s'.cancelled = false) (hreturned : AllReturned (finishedBy? s e).toList) :
    Whole names s' := by
  cases hm with
  | feed hf hlt hover hroom => exact h.feed hf
  | close hf hend => exact h.close hf hend
  | stopFeeding hc => exact absurd (hc.symm.trans hcancelled) (by simp)
  | @approach w hw =>
    have hclaims (p : Nat) : (s.become w .receiving).claims p = s.claims p := by
      simpa using claims_become hw .receiving p
    exact h.modify id hclaims fun _ hover => by cases hover
  | take hw hq =>
    exact h.modify (fun hempty => by simp [hq] at hempty) (claims_take hw hq)
      fun _ hover => by cases hover
  | @dry w hw hq hf =>
    have hclaims (p : Nat) : (s.become w (.ended none)).claims p = s.claims p := by
      simpa [Activity.claims] using claims_become hw (.ended none) p
    exact h.modify id hclaims fun _ _ => ⟨hf, hq⟩
  | leave hc => exact absurd (hc.symm.trans hcancelled) (by simp)
  | report hw => exact h.modify id (claims_report hw _) fun _ hover => by cases hover
  | fail => cases hcancelled
  | failLater hw | crash hw =>
    rw [finishedBy?_finish hw, Option.toList_some] at hreturned
    obtain ⟨results, hresults⟩ := hreturned _ List.mem_cons_self
    cases hresults
  | cancel => cases hcancelled
  | joinEnded => exact ⟨h.claimed, h.dry, h.staffed⟩
  | joinCrashed => cases hcancelled

end Whole

theorem cancelled_of_move {e : Event} (hm : Move names s e s') (h : s'.cancelled = false) :
    s.cancelled = false := by
  cases hm <;> first | exact h | cases h

theorem whole_start (concurrency : Nat) : Whole names (start concurrency names) where
  claimed place hplace := absurd hplace (Nat.not_lt_zero place)
  dry worker hmem hover := by
    rw [List.eq_of_mem_replicate hmem] at hover
    cases hover
  staffed hnil := by
    have hcount : workerCount concurrency names.length = 0 := by simpa [start] using hnil
    rw [← List.length_eq_zero_iff]
    simp only [workerCount] at hcount
    omega

end Whole

section Blamed

/-- Who is to blame when a batch stops early: a guarded batch names a failure or is about to,
each failure it names was raised, and it is cancelled by the caller or by a failure only. -/
structure Blamed (noted : List (Nat × Finished)) (s : State) : Prop where
  guarded_of_failed : ∀ n ∈ noted, ∀ failure, n.2.outcome = .error (.failed failure) →
    s.guarded = true
  guarded_of_crashed : ∀ w text, w < s.joined → s.activity? w = some (.crashed text) →
    s.guarded = true
  named : s.guarded = true → s.error.isSome = true ∨
    ∃ w failure, s.joined ≤ w ∧ s.activity? w = some (.ended (some failure))
  raised : ∀ e, s.error = some e → Raised noted e
  ended : ∀ w failure, s.activity? w = some (.ended (some failure)) → Raised noted failure
  cancelled : s.cancelled = true → s.callerCancelled = true ∨ s.guarded = true

namespace Blamed

theorem modify (h : Blamed noted s) (hsettled : Settled names s) {w : Nat} {a : Activity}
    (hw : s.activity? w = some a) (ha : a.isOver = false) {f : Worker → Worker}
    (hf : ∀ worker failure, (f worker).activity ≠ .ended (some failure)) :
    Blamed noted { s with workers := s.workers.modify w f } := by
  have hle := hsettled.joined_le_of_running hw ha
  obtain ⟨worker, hworker, rfl⟩ := worker_of_activity? hw
  refine ⟨h.guarded_of_failed, ?_, ?_, h.raised, ?_, h.cancelled⟩
  · intro v text hv hcrashed
    rw [activity?_modify hworker, if_neg (Nat.ne_of_lt (Nat.lt_of_lt_of_le hv hle))] at hcrashed
    exact h.guarded_of_crashed v text hv hcrashed
  · intro hguarded
    rcases h.named hguarded with herror | ⟨v, failure, hv, hended⟩
    · exact .inl herror
    · refine .inr ⟨v, failure, hv, ?_⟩
      rw [activity?_modify hworker, if_neg, hended]
      rintro rfl
      rw [hw, Option.some.injEq] at hended
      rw [hended] at ha
      cases ha
  · intro v failure hended
    rw [activity?_modify hworker] at hended
    split at hended
    · exact absurd (Option.some.inj hended) (hf worker failure)
    · exact h.ended v failure hended

theorem note (h : Blamed noted s) {n : Nat × Finished}
    (hn : ∀ failure, n.2.outcome = .error (.failed failure) → s.guarded = true) :
    Blamed (noted ++ [n]) s where
  guarded_of_failed k hk := by
    rcases List.mem_append.mp hk with hk | hk
    · exact h.guarded_of_failed k hk
    · rw [List.mem_singleton.mp hk]
      exact hn
  guarded_of_crashed := h.guarded_of_crashed
  named := h.named
  raised e he := (h.raised e he).append _
  ended w failure hw := (h.ended w failure hw).append _
  cancelled := h.cancelled

theorem fail (h : Blamed noted s) (hsettled : Settled names s) {w place : Nat} {failure : Failure}
    {time : Instant} (hw : s.activity? w = some (.checking place)) :
    Blamed (noted ++ [(w, ⟨place, .error (.failed failure), time⟩)])
      ({ s with guarded := true, cancelled := true }.become w (.ended (some failure))) := by
  have hle := hsettled.joined_le_of_running hw rfl
  obtain ⟨worker, hworker, -⟩ := worker_of_activity? hw
  have hactivity := activity?_modify (s := { s with guarded := true, cancelled := true }) hworker
    fun worker => { worker with activity := .ended (some failure) }
  refine ⟨fun _ _ _ _ => rfl, fun _ _ _ _ => rfl, fun _ => .inr ⟨w, failure, hle, ?_⟩,
    fun e he => (h.raised e he).append _, ?_, fun _ => .inr rfl⟩
  · exact (hactivity w).trans (if_pos rfl)
  · intro v other hended
    have hv := (hactivity v).symm.trans hended
    split at hv
    · cases hv
      exact ⟨_, List.mem_append_right _ List.mem_cons_self, .inl rfl⟩
    · exact (h.ended v other hv).append _

theorem named_beyond (h : Blamed noted s) (hguarded : s.guarded = true) {a : Activity}
    (hjoined : s.activity? s.joined = some a) (ha : ∀ failure, a ≠ .ended (some failure)) :
    s.error.isSome = true ∨
      ∃ w failure, s.joined + 1 ≤ w ∧ s.activity? w = some (.ended (some failure)) := by
  rcases h.named hguarded with herror | ⟨w, failure, hle, hended⟩
  · exact .inl herror
  · refine .inr ⟨w, failure, Nat.lt_of_le_of_ne hle ?_, hended⟩
    rintro rfl
    rw [hjoined, Option.some.injEq] at hended
    exact ha failure hended

theorem joinEnded (h : Blamed noted s) {error : Option Failure} {done : List (Nat × Report)}
    (hw : s.workers[s.joined]? = some { activity := .ended error, done })
    (results : List (Option Report)) :
    Blamed noted { s with
      joined := s.joined + 1
      results
      error := if error.isSome then error else s.error } := by
  have hjoined : s.activity? s.joined = some (.ended error) := activity?_eq hw
  refine ⟨h.guarded_of_failed, ?_, ?_, ?_, h.ended, h.cancelled⟩
  · intro v text hv hcrashed
    rcases Nat.lt_succ_iff_lt_or_eq.mp hv with hv | rfl
    · exact h.guarded_of_crashed v text hv hcrashed
    · exact absurd (hjoined.symm.trans hcrashed) (by simp)
  · intro hguarded
    cases error with
    | some failure => exact .inl rfl
    | none => exact h.named_beyond hguarded hjoined (by simp)
  · intro e he
    cases error with
    | some failure =>
      cases he
      exact h.ended _ _ hjoined
    | none => exact h.raised e he

theorem joinCrashed (h : Blamed noted s) (hrecorded : Recorded names noted s) {text : String}
    {done : List (Nat × Report)}
    (hw : s.workers[s.joined]? = some { activity := .crashed text, done }) :
    Blamed noted { s with
      joined := s.joined + 1
      cancelled := true
      guarded := true
      error := if s.guarded then s.error else some (.other (.workerAborted text)) } := by
  have hjoined : s.activity? s.joined = some (.crashed text) := activity?_eq hw
  refine ⟨fun _ _ _ _ => rfl, fun _ _ _ _ => rfl, ?_, ?_, h.ended, fun _ => .inr rfl⟩
  · intro _
    cases hguarded : s.guarded with
    | false => exact .inl rfl
    | true => exact h.named_beyond hguarded hjoined (by simp)
  · intro e he
    cases hguarded : s.guarded with
    | true =>
      simp only [hguarded, if_true] at he
      exact h.raised e he
    | false =>
      simp only [hguarded, Bool.false_eq_true, if_false, Option.some.injEq] at he
      obtain ⟨f, hmem, hf⟩ := (hrecorded.crashed _ _).mp hjoined
      exact ⟨_, hmem, .inr ⟨text, hf, he.symm⟩⟩

theorem step {e : Event} (h : Blamed noted s) (hsettled : Settled names s)
    (hrecorded : Recorded names noted s) (hm : Move names s e s') :
    Blamed (noted ++ (finishedBy? s e).toList) s' := by
  cases hm with
  | feed | close | stopFeeding =>
    simp only [finishedBy?, Option.toList_none, List.append_nil]
    exact ⟨h.guarded_of_failed, h.guarded_of_crashed, h.named, h.raised, h.ended, h.cancelled⟩
  | approach hw | dry hw =>
    simp only [finishedBy?, Option.toList_none, List.append_nil]
    exact h.modify hsettled hw rfl (by simp)
  | @take w place queue hw hq =>
    simp only [finishedBy?, Option.toList_none, List.append_nil]
    have hrest : Blamed noted { s with queue } :=
      ⟨h.guarded_of_failed, h.guarded_of_crashed, h.named, h.raised, h.ended, h.cancelled⟩
    have hsettled : Settled names { s with queue } :=
      ⟨hsettled.joined_le, hsettled.isOver, hsettled.results⟩
    exact hrest.modify hsettled hw rfl (by simp)
  | leave hc hw =>
    simp only [finishedBy?, Option.toList_none, List.append_nil]
    rcases hw with hw | ⟨place, hw⟩
    · exact h.modify hsettled hw rfl (by simp)
    · exact h.modify hsettled hw rfl (by simp)
  | report hw =>
    rw [finishedBy?_finish hw, Option.toList_some]
    exact (h.modify hsettled hw rfl (by simp)).note (by simp)
  | fail hw =>
    rw [finishedBy?_finish hw, Option.toList_some]
    exact h.fail hsettled hw
  | failLater hw hg =>
    rw [finishedBy?_finish hw, Option.toList_some]
    exact (h.modify hsettled hw rfl (by simp)).note fun _ _ => hg
  | crash hw =>
    rw [finishedBy?_finish hw, Option.toList_some]
    exact (h.modify hsettled hw rfl (by simp)).note (by simp)
  | cancel =>
    simp only [finishedBy?, Option.toList_none, List.append_nil]
    exact ⟨h.guarded_of_failed, h.guarded_of_crashed, h.named, h.raised, h.ended,
      fun _ => .inl rfl⟩
  | joinEnded hw =>
    simp only [finishedBy?, Option.toList_none, List.append_nil]
    exact h.joinEnded hw _
  | joinCrashed hw =>
    simp only [finishedBy?, Option.toList_none, List.append_nil]
    exact h.joinCrashed hrecorded hw

end Blamed

theorem blamed_start (concurrency : Nat) : Blamed [] (start concurrency names) where
  guarded_of_failed := by simp
  guarded_of_crashed w text hw := absurd hw (Nat.not_lt_zero w)
  named hguarded := by cases hguarded
  raised e he := by cases he
  ended w failure hw := by
    obtain ⟨worker, hworker, ha⟩ := worker_of_activity? hw
    rw [List.eq_of_mem_replicate (List.mem_of_getElem? hworker)] at ha
    cases ha
  cancelled hcancelled := by cases hcancelled

end Blamed

section Finish

variable {count : Nat}

theorem hole_of_raised (hsettled : Settled names s) (hplaced : Placed names noted count s)
    (hfin : s.isFinished = true) {e : Failure} (h : Raised noted e) : none ∈ s.results := by
  obtain ⟨n, hmem, hn⟩ := h
  obtain ⟨halt, hhalt⟩ : ∃ halt, n.2.outcome = .error halt := by
    rcases hn with hn | ⟨text, hn, -⟩
    · exact ⟨_, hn⟩
    · exact ⟨_, hn⟩
  have hzero := hplaced.released n hmem halt hhalt
  have hlt := Nat.lt_of_lt_of_le (hplaced.lt_of_noted n hmem) hplaced.count_le
  refine List.mem_of_getElem? (slot_of_not_handed hsettled hfin hlt ?_)
  rw [← List.count_eq_zero, ← Nat.le_zero, ← hzero]
  exact s.count_handed_le n.2.place

theorem slot_of_whole (hsettled : Settled names s) (hplaced : Placed names noted count s)
    (hrecorded : Recorded names noted s) (hwhole : Whole names s) (hreturned : AllReturned noted)
    (hfin : s.isFinished = true) {i : Nat} (hi : i < names.length) :
    ∃ report, s.results[i]? = some (some report) := by
  have hclosed := (all_joined hfin).2
  have hover := hsettled.over_of_finished hfin
  have hempty : s.queue = [] := by
    cases hworkers : s.workers with
    | nil =>
      rw [hwhole.staffed hworkers] at hi
      exact absurd hi (Nat.not_lt_zero i)
    | cons worker workers =>
      have hmem : worker ∈ s.workers := by simp [hworkers]
      exact (hwhole.dry worker hmem (hover worker hmem)).2
  -- The queue is empty and no worker is busy: what is claimed is reported on.
  have hclaimed := hwhole.claimed i (by rw [fedIn_of_closed hclosed]; exact hi)
  rw [claims, hempty, List.count_nil, Nat.zero_add] at hclaimed
  obtain ⟨worker, hmem, hworker⟩ := exists_of_total_pos hclaimed
  rw [Worker.claims, Activity.claims_of_isOver (hover worker hmem), Nat.zero_add,
    List.count_pos_iff, List.mem_map] at hworker
  obtain ⟨⟨_, report⟩, hd, rfl⟩ := hworker
  refine ⟨report, slot_of_handed hsettled hplaced hfin hmem ?_⟩
  rw [Worker.handed_of_not_crashed]
  · exact hd
  · intro text hcrashed
    obtain ⟨w, hw⟩ := activity?_of_mem hmem
    rw [hcrashed] at hw
    obtain ⟨f, hf, houtcome⟩ := (hrecorded.crashed w text).mp hw
    obtain ⟨results, hresults⟩ := hreturned _ hf
    rw [houtcome] at hresults
    cases hresults

theorem full_outcome_iff : (∀ slot ∈ s.outcome.results, slot.isSome = true) ↔ none ∉ s.results := by
  simp [outcome, Option.isSome_iff_ne_none, List.forall_mem_ne']

theorem outcome_error_of_some {e : Failure} (h : s.error = some e) : s.outcome.error = some e := by
  simp [outcome, h]

theorem outcome_error_of_none (h : s.error = none) :
    s.outcome.error = if none ∈ s.results then some .cancelled else none := by
  have hany : s.results.any Option.isNone = true ↔ none ∈ s.results := by simp
  simp only [outcome, h, Option.isNone_none, true_and, hany]

theorem error_of_guarded (h : Blamed noted s) (hfin : s.isFinished = true)
    (hguarded : s.guarded = true) : s.error.isSome = true := by
  rcases h.named hguarded with herror | ⟨w, failure, hle, hw⟩
  · exact herror
  · obtain ⟨worker, hworker, -⟩ := worker_of_activity? hw
    have hlt := (List.getElem?_eq_some_iff.mp hworker).1
    rw [← (all_joined hfin).1] at hlt
    omega

theorem allReturned_of_error_eq_none (h : Blamed noted s) (hrecorded : Recorded names noted s)
    (hfin : s.isFinished = true) (herror : s.error = none) :
    s.guarded = false ∧ AllReturned noted := by
  have hguarded : s.guarded = false := by
    rw [← Bool.not_eq_true]
    intro hguarded
    have hsome := error_of_guarded h hfin hguarded
    rw [herror] at hsome
    cases hsome
  refine ⟨hguarded, fun n hn => ?_⟩
  cases houtcome : n.2.outcome with
  | ok results => exact ⟨results, rfl⟩
  | error halt =>
    exfalso
    cases halt with
    | failed failure =>
      have := h.guarded_of_failed n hn failure houtcome
      rw [hguarded] at this
      cases this
    | crashed text =>
      have hw := (hrecorded.crashed n.1 text).mpr ⟨n.2, hn, houtcome⟩
      have hlt := hrecorded.lt_of_noted n hn
      rw [← (all_joined hfin).1] at hlt
      have := h.guarded_of_crashed n.1 text hlt hw
      rw [hguarded] at this
      cases this

end Finish

end State

section Run

variable {names : List String} {concurrency : Nat} {events : List Event} {s : State}

theorem blamed_run (h : State.run? names (.start concurrency names) events = some s) :
    State.Blamed (finishedIn names concurrency events) s :=
  (State.trace_induction names State.finishedBy? (P := fun noted s =>
    State.Settled names s ∧ State.Recorded names noted s ∧ State.Blamed noted s)
    (fun _ _ _ _ ⟨hsettled, hrecorded, hblamed⟩ hm =>
      ⟨hsettled.step hm, hrecorded.step hm, hblamed.step hsettled hrecorded hm⟩)
    ⟨State.settled_start concurrency, State.recorded_start concurrency,
      State.blamed_start concurrency⟩ h).2.2

theorem whole_run (h : State.run? names (.start concurrency names) events = some s)
    (hcancelled : s.cancelled = false)
    (hreturned : AllReturned (finishedIn names concurrency events)) : State.Whole names s :=
  @State.trace_induction _ names State.finishedBy?
    (fun noted s => s.cancelled = false → AllReturned noted → State.Whole names s)
    (fun _ _ _ _ hs hm hcancelled hreturned =>
      (hs (State.cancelled_of_move hm hcancelled) hreturned.of_append).step hm hcancelled
        fun n hn => hreturned n (List.mem_append_right _ hn))
    [] _ _ _ (fun _ _ => State.whole_start concurrency) h hcancelled hreturned

theorem full_of_undisturbed (h : State.run? names (.start concurrency names) events = some s)
    (hfin : s.isFinished = true) (hcancel : .cancel ∉ events)
    (hguarded : s.guarded = false)
    (hreturned : AllReturned (finishedIn names concurrency events)) :
    none ∉ s.results := by
  obtain ⟨count, hplaced⟩ := placed_run h
  have hcancelled : s.cancelled = false := by
    rw [← Bool.not_eq_true]
    intro hcancelled
    rcases (blamed_run h).cancelled hcancelled with hcaller | hguard
    · exact hcancel ((cancelled_iff h).mp hcaller)
    · rw [hguarded] at hguard
      cases hguard
  intro hnone
  obtain ⟨i, hi⟩ := List.mem_iff_getElem?.mp hnone
  have hlt : i < names.length := by
    rw [← (kept_run h).length]
    exact (List.getElem?_eq_some_iff.mp hi).1
  obtain ⟨report, hreport⟩ := State.slot_of_whole (settled_run h) hplaced (recorded_run h)
    (whole_run h hcancelled hreturned) hreturned hfin hlt
  rw [hi] at hreport
  cases hreport

end Run

/-- A batch that returns has named a failure exactly when some slot is empty. It was raised by a
check or by the end of a broken down worker, or nothing failed and the caller has cancelled, which
the batch never does for them. Before a batch returns, one of its tasks can go on, if only the
checks that run come to an end, in whichever way; and it cannot go on for ever. -/
theorem complete_or_blamed (names : List String) (concurrency : Nat) (events : List Event)
    {s : State} (h : State.run? names (.start concurrency names) events = some s) :
    (s.isFinished = true →
      s.outcome.results.length = names.length ∧
      (s.outcome.error = none ↔ ∀ slot ∈ s.outcome.results, slot.isSome = true) ∧
      (AllReturned (finishedIn names concurrency events) → .cancel ∉ events →
        ∀ slot ∈ s.outcome.results, slot.isSome = true) ∧
      ∀ e, s.outcome.error = some e →
        Raised (finishedIn names concurrency events) e ∨
          e = .cancelled ∧ .cancel ∈ events ∧
            AllReturned (finishedIn names concurrency events)) ∧
    (s.callerCancelled = true ↔ .cancel ∈ events) ∧
    (s.isFinished = false →
      (∃ w place, s.activity? w = some (.checking place)) ∨
        ∃ e, e.ofTask = true ∧ (s.step? names e).isSome = true) ∧
    (∀ w place, s.activity? w = some (.checking place) → ∀ outcome time,
      (s.step? names (.finish w outcome time)).isSome = true) ∧
    events.length ≤ 4 * names.length + 3 * workerCount concurrency names.length + 2 := by
  obtain ⟨count, hplaced⟩ := placed_run h
  have hsettled := settled_run h
  have hrecorded := recorded_run h
  have hblamed := blamed_run h
  refine ⟨fun hfin => ?_, cancelled_iff h, State.progress hsettled, fun w place hw _ _ => ?_,
    length_le_of_run h⟩
  · have hfull (herror : s.error = none) (hcancel : .cancel ∉ events) : none ∉ s.results := by
      obtain ⟨hguarded, hreturned⟩ :=
        State.allReturned_of_error_eq_none hblamed hrecorded hfin herror
      exact full_of_undisturbed h hfin hcancel hguarded hreturned
    refine ⟨(kept_run h).length, ?_, fun hreturned hcancel => ?_, fun e he => ?_⟩
    · rw [State.full_outcome_iff]
      cases herror : s.error with
      | none => simp [State.outcome_error_of_none herror]
      | some e =>
        have hhole := State.hole_of_raised hsettled hplaced hfin (hblamed.raised e herror)
        simp [State.outcome_error_of_some herror, hhole]
    · rw [State.full_outcome_iff]
      refine hfull (Option.eq_none_iff_forall_ne_some.mpr fun e he => ?_) hcancel
      exact (hblamed.raised e he).not_allReturned hreturned
    · cases herror : s.error with
      | some e' =>
        rw [State.outcome_error_of_some herror, Option.some.injEq] at he
        exact .inl (he ▸ hblamed.raised e' herror)
      | none =>
        rw [State.outcome_error_of_none herror, Option.ite_none_right_eq_some,
          Option.some.injEq] at he
        refine .inr ⟨he.2.symm, Classical.byContradiction fun hcancel => ?_,
          (State.allReturned_of_error_eq_none hblamed hrecorded hfin herror).2⟩
        exact hfull herror hcancel he.1
  · simp [State.step?, State.finish?, hw]

def secondFails : List Event :=
  [.feed, .feed, .approach 0, .take 0, .approach 1, .take 1,
    .finish 1 (.error (.failed (.other (.said "offline")))) .epoch, .leave 0, .stopFeeding, .join,
    .join]

theorem complete_or_blamed_secondFails : ∃ s,
    State.run? ["left-pad", "right-pad", "pad"] (.start 2 ["left-pad", "right-pad", "pad"])
        secondFails = some s ∧ s.isFinished = true ∧
      s.outcome.error = some (.other (.said "offline")) ∧
      ¬ (∀ slot ∈ s.outcome.results, slot.isSome = true) ∧ s.callerCancelled = false := by
  obtain ⟨s, hs⟩ : ∃ s, State.run? ["left-pad", "right-pad", "pad"]
      (.start 2 ["left-pad", "right-pad", "pad"]) secondFails = some s := ⟨_, rfl⟩
  have hend : s.isFinished = true ∧ s.outcome.error = some (.other (.said "offline")) := by
    cases hs
    exact ⟨rfl, rfl⟩
  obtain ⟨hreturned, hcaller, -⟩ := complete_or_blamed _ 2 secondFails hs
  obtain ⟨-, hfull, -⟩ := hreturned hend.1
  refine ⟨s, hs, hend.1, hend.2, ?_, ?_⟩
  · rw [← hfull, hend.2]
    simp
  · rw [← Bool.not_eq_true, hcaller]
    simp [secondFails]

end NameScout.Batch
