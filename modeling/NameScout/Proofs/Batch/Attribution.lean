import NameScout.Batch.OneByOne
import NameScout.Batch.Rehearsal
import NameScout.Proofs.Batch.Trace

namespace NameScout.Batch.State

variable {names : List String}

theorem worker_of_activity? {s : State} {w : Nat} {a : Activity} (h : s.activity? w = some a) :
    ∃ worker, s.workers[w]? = some worker ∧ worker.activity = a :=
  Option.map_eq_some_iff.mp h

theorem taken?_eq_some {s : State} {w place : Nat} {queue : List Nat}
    (hw : s.activity? w = some .receiving) (hq : s.queue = place :: queue) :
    taken? s (.take w) = some (w, place) := by
  simp [taken?, hw, hq]

/-- The places taken so far and those in the queue are the first ones, in their order. -/
def Fed (names : List String) (taken : List (Nat × Nat)) (s : State) : Prop :=
  ∃ count, count ≤ names.length ∧ taken.map Prod.snd ++ s.queue = List.range count ∧
    ∀ next, s.feeder = .feeding next → next = count

theorem Fed.step {taken : List (Nat × Nat)} {s s' : State} {e : Event} (h : Fed names taken s)
    (hm : Move names s e s') : Fed names (taken ++ (taken? s e).toList) s' := by
  obtain ⟨count, hle, hrange, hnext⟩ := h
  cases hm with
  | feed hf hlt =>
      have := hnext _ hf
      subst this
      refine ⟨_, hlt, ?_, fun next hn => ?_⟩
      · rw [List.range_succ, ← hrange]
        simp [taken?]
      · cases hn
        rfl
  | close hf hend => exact ⟨count, hle, by simpa [taken?] using hrange, by simp⟩
  | stopFeeding => exact ⟨count, hle, by simpa [taken?] using hrange, by simp⟩
  | approach | leave | report | fail | failLater | crash | cancel | joinEnded | joinCrashed =>
      exact ⟨count, hle, by simpa [taken?] using hrange, hnext⟩
  | take hw hq =>
      refine ⟨count, hle, ?_, hnext⟩
      rw [taken?_eq_some hw hq, ← hrange, hq]
      simp [become]
  | dry hw hq =>
      refine ⟨count, hle, ?_, hnext⟩
      simpa [taken?, hw, hq, become] using hrange

def Returned (names : List String) (finished : List Finished) (place : Nat) (report : Report) :
    Prop :=
  ∃ name results time, names[place]? = some name ∧ ⟨place, .ok results, time⟩ ∈ finished ∧
    report = Report.ofResults name results time

theorem Returned.append {finished more : List Finished} {place : Nat} {report : Report}
    (h : Returned names finished place report) :
    Returned names (finished ++ more) place report := by
  obtain ⟨name, results, time, hname, hmem, hreport⟩ := h
  exact ⟨name, results, time, hname, List.mem_append_left _ hmem, hreport⟩

theorem length_handOver (results : List (Option Report)) (done : List (Nat × Report)) :
    (handOver results done).length = results.length := by
  induction done generalizing results with
  | nil => rfl
  | cons d done ih =>
      rw [handOver, List.foldl_cons]
      exact (ih _).trans List.length_set

theorem mem_of_handOver {results : List (Option Report)} {done : List (Nat × Report)} {i : Nat}
    {report : Report} (h : (handOver results done)[i]? = some (some report)) :
    results[i]? = some (some report) ∨ (i, report) ∈ done := by
  induction done generalizing results with
  | nil => exact .inl h
  | cons d done ih =>
      obtain ⟨place, r⟩ := d
      have hrest : (handOver (results.set place (some r)) done)[i]? = some (some report) := h
      rcases ih hrest with hset | hmem
      · by_cases hp : place = i
        · subst hp
          have hr : r = report := by
            rw [List.getElem?_set_self'] at hset
            cases hx : results[place]? <;> simp_all
          exact .inr (by simp [hr])
        · rw [List.getElem?_set_ne hp] at hset
          exact .inl hset
      · exact .inr (List.mem_cons_of_mem _ hmem)

/-- Every report that a worker holds or has handed over is made of what its checks returned. -/
structure Kept (names : List String) (finished : List Finished) (s : State) : Prop where
  length : s.results.length = names.length
  queue_lt : ∀ place ∈ s.queue, place < names.length
  checking_lt : ∀ worker ∈ s.workers, ∀ place, worker.activity = .checking place →
    place < names.length
  done : ∀ worker ∈ s.workers, ∀ d ∈ worker.done, Returned names finished d.1 d.2
  slots : ∀ i report, s.results[i]? = some (some report) → Returned names finished i report

namespace Kept

variable {finished : List Finished} {s : State}

theorem append (h : Kept names finished s) (more : List Finished) :
    Kept names (finished ++ more) s :=
  { h with
    done := fun worker hw d hd => (h.done worker hw d hd).append
    slots := fun i report hi => (h.slots i report hi).append }

theorem modify (h : Kept names finished s) {w : Nat} {f : Worker → Worker}
    (hchecking : ∀ worker ∈ s.workers, ∀ place, (f worker).activity = .checking place →
      place < names.length)
    (hdone : ∀ worker, s.workers[w]? = some worker → ∀ d ∈ (f worker).done,
      Returned names finished d.1 d.2) :
    Kept names finished { s with workers := s.workers.modify w f } where
  length := h.length
  queue_lt := h.queue_lt
  checking_lt := by
    intro worker hw place ha
    rcases mem_modify hw with hw | ⟨y, hy, rfl⟩
    · exact h.checking_lt worker hw place ha
    · exact hchecking y (List.mem_of_getElem? hy) place ha
  done := by
    intro worker hw d hd
    rcases mem_modify hw with hw | ⟨y, hy, rfl⟩
    · exact h.done worker hw d hd
    · exact hdone y hy d hd
  slots := h.slots

theorem become (h : Kept names finished s) (w : Nat) {a : Activity}
    (ha : ∀ place, a = .checking place → place < names.length) :
    Kept names finished (s.become w a) :=
  h.modify (fun _ _ place hp => ha place hp)
    fun worker hw d hd => h.done worker (List.mem_of_getElem? hw) d hd

theorem name_of_checking (h : Kept names finished s) {w place : Nat}
    (hw : s.activity? w = some (.checking place)) :
    names[place]? = some (names[place]?.getD "") := by
  obtain ⟨worker, hworker, ha⟩ := worker_of_activity? hw
  have hlt := h.checking_lt worker (List.mem_of_getElem? hworker) place ha
  rw [List.getElem?_eq_getElem hlt, Option.getD_some]

theorem report (h : Kept names finished s) {w place : Nat} {results : List CheckResult}
    {time : Instant} (hw : s.activity? w = some (.checking place)) :
    Kept names (finished ++ [⟨place, .ok results, time⟩])
      { s with workers := s.workers.modify w fun worker =>
          { activity := .waiting
            done := worker.done ++
              [(place, Report.ofResults (names[place]?.getD "") results time)] } } := by
  have hname := h.name_of_checking hw
  refine (h.append _).modify (fun _ _ _ hp => by cases hp) fun worker hworker d hd => ?_
  rcases List.mem_append.mp hd with hd | hd
  · exact (h.done worker (List.mem_of_getElem? hworker) d hd).append
  · rw [List.mem_singleton.mp hd]
    exact ⟨_, results, time, hname, by simp, rfl⟩

theorem step {s' : State} {e : Event} (h : Kept names finished s) (hm : Move names s e s') :
    Kept names (finished ++ (finished? s e).toList) s' := by
  cases hm with
  | feed hf hlt =>
      simp only [finished?, Option.toList_none, List.append_nil]
      refine { h with queue_lt := fun place hp => ?_ }
      rcases List.mem_append.mp hp with hp | hp
      · exact h.queue_lt place hp
      · rw [List.mem_singleton.mp hp]
        exact hlt
  | close | stopFeeding | cancel | joinCrashed => exact { h.append _ with }
  | approach => exact (h.append _).become _ (by simp)
  | @take w place queue hw hq =>
      have hlt : ∀ p ∈ place :: queue, p < names.length := hq ▸ h.queue_lt
      have hrest : Kept names (finished ++ (finished? s (.take w)).toList) { s with queue } :=
        { h.append _ with queue_lt := fun p hp => hlt p (List.mem_cons_of_mem _ hp) }
      refine hrest.become _ fun p hp => ?_
      cases hp
      exact hlt place List.mem_cons_self
  | dry | leave => exact (h.append _).become _ (by simp)
  | report hw =>
      simp only [finished?, hw, Option.toList_some]
      exact h.report hw
  | @fail w place failure time hw hg =>
      have hrest := h.append (finished? s (.finish w (.error (.failed failure)) time)).toList
      have hrest' : Kept names _ { s with guarded := true, cancelled := true } := { hrest with }
      exact hrest'.become w (by simp)
  | failLater | crash => exact (h.append _).become _ (by simp)
  | joinEnded hw =>
      refine { h.append _ with
        length := (length_handOver _ _).trans h.length
        slots := fun i report hi => ?_ }
      rcases mem_of_handOver hi with hi | hi
      · exact (h.slots i report hi).append
      · exact (h.done _ (List.mem_of_getElem? hw) _ hi).append

end Kept

theorem fed_start (concurrency : Nat) : Fed names [] (start concurrency names) := by
  refine ⟨0, Nat.zero_le _, rfl, fun next hn => ?_⟩
  cases hn
  rfl

theorem kept_start (concurrency : Nat) : Kept names [] (start concurrency names) where
  length := by simp [start]
  queue_lt := by simp [start]
  checking_lt := by
    intro worker hw place ha
    rw [List.eq_of_mem_replicate hw] at ha
    cases ha
  done := by
    intro worker hw d hd
    rw [List.eq_of_mem_replicate hw] at hd
    cases hd
  slots := by
    intro i report hi
    have hmem : some report ∈ (start concurrency names).results := List.mem_of_getElem? hi
    obtain ⟨_, -, hnone⟩ := List.mem_map.mp hmem
    cases hnone

end NameScout.Batch.State

namespace NameScout.Batch

theorem mapM_id_eq_some_iff {α : Type} {l : List (Option α)} {as : List α} :
    l.mapM id = some as ↔ l = as.map some := by
  induction l generalizing as with
  | nil => cases as <;> simp
  | cons o l ih =>
      rw [List.mapM_cons]
      cases o with
      | none => cases as <;> simp
      | some a =>
          cases hm : l.mapM id with
          | none =>
              cases as with
              | nil => simp
              | cons b as =>
                  have : ¬ l = as.map some := fun hl => by simp [← ih, hm] at hl
                  simp [this]
          | some bs =>
              have hl := ih.mp hm
              cases as with
              | nil => simp
              | cons b as => simp [hl, List.map_inj_right]

theorem Outcome.whole_eq_ok_iff {o : Outcome} {reports : List Report} :
    o.whole = .ok reports ↔ o.error = none ∧ o.results = reports.map some := by
  rw [Outcome.whole, ← mapM_id_eq_some_iff]
  cases o.error <;> cases o.results.mapM id <;> simp

theorem eq_map_of_getElem? {α β : Type} {l : List α} {r : List β} {f : α → β}
    (hlen : r.length = l.length)
    (h : ∀ (i : Nat) (b : β), r[i]? = some b → ∃ a, l[i]? = some a ∧ b = f a) : r = l.map f := by
  apply List.ext_getElem?
  intro i
  rw [List.getElem?_map]
  cases hi : r[i]? with
  | none =>
      rw [List.getElem?_eq_none_iff, hlen, ← List.getElem?_eq_none_iff] at hi
      rw [hi]
      rfl
  | some b =>
      obtain ⟨a, ha, hb⟩ := h i b hi
      rw [ha, hb]
      rfl

section Steady

variable {σ : Type} [Clock σ]

/-- While the clock shows a time, the checks of a name give the same answer in every state and
leave the clock alone. -/
def Steady (survey : Survey σ) (profile : Profile) (t : Instant)
    (answer : String → Except Halt (List CheckResult)) : Prop :=
  ∀ name st, Clock.now st = t → ((survey.check name profile).run st).1 = answer name ∧
    Clock.now ((survey.check name profile).run st).2 = t

/-- What came to an end was the checks of a name, begun at a time. -/
def Finished.Plays (survey : Survey σ) (profile : Profile) (names : List String) (t : Instant)
    (f : State.Finished) : Prop :=
  ∃ name st, names[f.place]? = some name ∧ Clock.now st = t ∧
    f.outcome = ((survey.check name profile).run st).1 ∧
    f.time = Clock.now ((survey.check name profile).run st).2

theorem run_checkFrom_cons {survey : Survey σ} {profile : Profile} {name : String}
    {results : List CheckResult} {st st₁ : σ} (names : List String)
    (h : (survey.check name profile).run st = (.ok results, st₁)) :
    ((checkFrom survey profile (name :: names)).run st).1 =
      (Report.ofResults name results (Clock.now st₁) ::
        ((checkFrom survey profile names).run st₁).1.1,
        ((checkFrom survey profile names).run st₁).1.2) := by
  rw [checkFrom, StateT.run_bind]
  have hrun : StateT.run (survey.check name profile).run st = (.ok results, st₁) := h
  rw [hrun]
  rfl

theorem checkFrom_eq {survey : Survey σ} {profile : Profile} {t : Instant}
    {answer : String → Except Halt (List CheckResult)} (hsteady : Steady survey profile t answer)
    {results : String → List CheckResult} {names : List String} {st : σ} (hst : Clock.now st = t)
    (h : ∀ name ∈ names, answer name = .ok (results name)) :
    ((checkFrom survey profile names).run st).1 =
      (names.map fun name => Report.ofResults name (results name) t, none) := by
  induction names generalizing st with
  | nil => rfl
  | cons name names ih =>
      obtain ⟨hanswer, hclock⟩ := hsteady name st hst
      rw [h name List.mem_cons_self] at hanswer
      have hrun : (survey.check name profile).run st =
          (.ok (results name), ((survey.check name profile).run st).2) :=
        Prod.ext hanswer rfl
      rw [run_checkFrom_cons names hrun, hclock,
        ih hclock fun n hn => h n (List.mem_cons_of_mem _ hn)]
      rfl

theorem run_oneByOne {survey : Survey σ} {profile : Profile} {names : List String} {st : σ}
    {reports : List Report}
    (h : ((checkFrom survey profile names).run st).1 = (reports, none)) :
    ((oneByOne survey profile names).run st).1 =
      { results := reports.map some, error := none } := by
  have hrun : (checkFrom survey profile names).run st =
      ((reports, none), ((checkFrom survey profile names).run st).2) := Prod.ext h rfl
  simp only [oneByOne]
  rw [StateT.run_bind, hrun]
  rfl

theorem Finished.Plays.eq_answer {survey : Survey σ} {profile : Profile} {names : List String}
    {answer : String → Except Halt (List CheckResult)} {t : Instant} {f : State.Finished}
    {name : String} (hf : Finished.Plays survey profile names t f)
    (hsteady : Steady survey profile t answer) (hname : names[f.place]? = some name) :
    f.outcome = answer name ∧ f.time = t := by
  obtain ⟨name', st, hname', hst, houtcome, htime⟩ := hf
  rw [hname, Option.some.injEq] at hname'
  subst hname'
  obtain ⟨hanswer, hclock⟩ := hsteady name st hst
  exact ⟨houtcome.trans hanswer, htime.trans hclock⟩

theorem answer_of_returned {survey : Survey σ} {profile : Profile} {names : List String}
    {answer : String → Except Halt (List CheckResult)} {t : Instant}
    {finished : List State.Finished} {i : Nat} {report : Report}
    (h : State.Returned names finished i report) (hsteady : Steady survey profile t answer)
    (hplays : ∀ f ∈ finished, Finished.Plays survey profile names t f) :
    ∃ name results, names[i]? = some name ∧ answer name = .ok results ∧
      report = Report.ofResults name results t := by
  obtain ⟨name, results, time, hname, hmem, hreport⟩ := h
  obtain ⟨hanswer, htime⟩ := (hplays _ hmem).eq_answer hsteady hname
  have htime : time = t := htime
  exact ⟨name, results, hname, hanswer.symm, htime ▸ hreport⟩

theorem whole_oneByOne {survey : Survey σ} {profile : Profile} {names : List String}
    {answer : String → Except Halt (List CheckResult)} {t : Instant} {reports : List Report}
    {st : σ} (hsteady : Steady survey profile t answer) (hst : Clock.now st = t)
    (hlen : reports.length = names.length)
    (hall : ∀ (i : Nat) (report : Report), reports[i]? = some report → ∃ name results,
      names[i]? = some name ∧ answer name = .ok results ∧
        report = Report.ofResults name results t) :
    ((oneByOne survey profile names).run st).1.whole = .ok reports := by
  let results (name : String) := (answer name).toOption.getD []
  have hreport : ∀ (i : Nat) (report : Report), reports[i]? = some report → ∃ name,
      names[i]? = some name ∧ answer name = .ok (results name) ∧
        report = Report.ofResults name (results name) t := by
    intro i report hi
    obtain ⟨name, rs, hname, hanswer, hreport⟩ := hall i report hi
    have hrs : results name = rs := by simp [results, hanswer, Except.toOption]
    exact ⟨name, hname, hrs ▸ hanswer, hrs ▸ hreport⟩
  have hanswers : ∀ name ∈ names, answer name = .ok (results name) := by
    intro name hmem
    obtain ⟨i, hi, rfl⟩ := List.mem_iff_getElem.mp hmem
    obtain ⟨name, hname, hanswer, -⟩ :=
      hreport i _ (List.getElem?_eq_getElem (hlen.symm ▸ hi))
    rw [List.getElem?_eq_getElem hi, Option.some.injEq] at hname
    rw [hname]
    exact hanswer
  have hreports : reports = names.map fun name => Report.ofResults name (results name) t :=
    eq_map_of_getElem? hlen fun i report hi =>
      let ⟨name, hname, _, hreport⟩ := hreport i report hi
      ⟨name, hname, hreport⟩
  rw [Outcome.whole_eq_ok_iff, run_oneByOne (checkFrom_eq hsteady hst hanswers), ← hreports]
  exact ⟨rfl, rfl⟩

end Steady

section Run

variable {names : List String} {concurrency : Nat} {events : List Event} {s : State}

theorem fed_run (h : State.run? names (.start concurrency names) events = some s) :
    State.Fed names (State.trace names State.taken? (.start concurrency names) events) s :=
  State.trace_induction names State.taken? (fun _ _ _ _ hs hm => hs.step hm)
    (State.fed_start concurrency) h

theorem kept_run (h : State.run? names (.start concurrency names) events = some s) :
    State.Kept names (State.trace names State.finished? (.start concurrency names) events) s :=
  State.trace_induction names State.finished? (fun _ _ _ _ hs hm => hs.step hm)
    (State.kept_start concurrency) h

theorem returned_of_whole (h : State.run? names (.start concurrency names) events = some s)
    {reports : List Report} (hw : s.outcome.whole = .ok reports) :
    reports.length = names.length ∧ ∀ i report, reports[i]? = some report →
      State.Returned names
        (State.trace names State.finished? (.start concurrency names) events) i report := by
  have hkept := kept_run h
  have hresults : s.results = reports.map some := (Outcome.whole_eq_ok_iff.mp hw).2
  refine ⟨?_, fun i report hi => hkept.slots i report ?_⟩
  · rw [← hkept.length, hresults, List.length_map]
  · rw [hresults, List.getElem?_map, hi]
    rfl

end Run

/-- A name is taken by one worker at most, a report in a place is on the name of that place and
made of what its checks returned, and a whole batch has one report for each name. When the
answers depend on the names alone and the clock stands still, a whole batch is what checking the
names one by one gives, whatever the schedule. -/
theorem attribution (names : List String) (concurrency : Nat) (events : List Event) {s : State}
    (h : State.run? names (.start concurrency names) events = some s) :
    ((State.trace names State.taken? (.start concurrency names) events).map Prod.snd).Nodup ∧
      (∀ i report, s.outcome.results[i]? = some (some report) → ∃ name results time,
        names[i]? = some name ∧ report.name = name ∧ report.results = results ∧
          ⟨i, .ok results, time⟩ ∈
            State.trace names State.finished? (.start concurrency names) events) ∧
      (∀ reports, s.outcome.whole = .ok reports →
        s.outcome.results = reports.map some ∧ reports.map Report.name = names) ∧
      ∀ (σ : Type) [Clock σ] (survey : Survey σ) (profile : Profile)
        (answer : String → Except Halt (List CheckResult)) (t : Instant),
        Steady survey profile t answer →
        (∀ f ∈ State.trace names State.finished? (.start concurrency names) events,
          Finished.Plays survey profile names t f) →
        ∀ reports, s.outcome.whole = .ok reports → ∀ st, Clock.now st = t →
          ((oneByOne survey profile names).run st).1.whole = .ok reports := by
  refine ⟨?_, ?_, ?_, ?_⟩
  · obtain ⟨count, -, hrange, -⟩ := fed_run h
    have hnodup : (List.range count).Nodup := List.nodup_range
    rw [← hrange, List.nodup_append] at hnodup
    exact hnodup.1
  · intro i report hi
    obtain ⟨name, results, time, hname, hmem, rfl⟩ := (kept_run h).slots i report hi
    exact ⟨name, results, time, hname, rfl, rfl, hmem⟩
  · intro reports hw
    refine ⟨(Outcome.whole_eq_ok_iff.mp hw).2, ?_⟩
    obtain ⟨hlen, hall⟩ := returned_of_whole h hw
    have hnames : reports.map Report.name = names.map id :=
      eq_map_of_getElem? (by rw [List.length_map, hlen]) fun i name hi => by
        rw [List.getElem?_map, Option.map_eq_some_iff] at hi
        obtain ⟨report, hi, rfl⟩ := hi
        obtain ⟨name, results, time, hname, -, rfl⟩ := hall i report hi
        exact ⟨name, hname, rfl⟩
    rw [hnames, List.map_id]
  · intro σ _ survey profile answer t hsteady hplays reports hw st hst
    obtain ⟨hlen, hall⟩ := returned_of_whole h hw
    exact whole_oneByOne hsteady hst hlen fun i report hi =>
      answer_of_returned (hall i report hi) hsteady hplays

def npmOnly : Profile :=
  { name := "npm", tlds := [], registries := ["npm"], handles := [] }

def oneTaken : Checker Rehearsal :=
  { checkType := .npm
    supportsName := fun _ => true
    check := fun name =>
      return .new name .npm (if name = "left-pad" then .taken else .available) }

def oneTakenSurvey : Survey Rehearsal :=
  { panel := Panel.empty.register oneTaken, strict := true }

def atEpoch : Rehearsal :=
  { clock := .epoch, wakes := [], calls := [], asleep := none }

theorem steady_oneTakenSurvey : Steady oneTakenSurvey npmOnly .epoch fun name =>
    ((oneTakenSurvey.check name npmOnly).run atEpoch).1 := by
  intro name st hst
  simp only [Survey.check]
  split
  · exact ⟨rfl, hst⟩
  · have hclock : st.clock = .epoch := hst
    obtain ⟨clock, wakes, calls, asleep⟩ := st
    subst hclock
    exact ⟨rfl, rfl⟩

def oneTakenAnswer (name : String) : CheckResult :=
  Survey.completed { name, checkType := .npm, tld := none }
    (.new name .npm (if name = "left-pad" then .taken else .available)) .epoch .epoch

/-- Two workers; the second name is done before the first. -/
def overtaking : List Event :=
  [.feed, .approach 0, .feed, .take 0, .approach 1, .take 1, .feed,
    .finish 1 (.ok [oneTakenAnswer "right-pad"]) .epoch,
    .finish 0 (.ok [oneTakenAnswer "left-pad"]) .epoch,
    .approach 1, .take 1, .approach 0, .take 0, .join, .join]

theorem attribution_overtaking : ∃ s reports,
    State.run? ["left-pad", "right-pad"] (.start 2 ["left-pad", "right-pad"]) overtaking = some s ∧
      s.outcome.whole = .ok reports ∧ reports.map Report.name = ["left-pad", "right-pad"] ∧
      ((oneByOne oneTakenSurvey npmOnly ["left-pad", "right-pad"]).run atEpoch).1.whole =
        .ok reports := by
  obtain ⟨s, hs⟩ : ∃ s, State.run? ["left-pad", "right-pad"]
      (.start 2 ["left-pad", "right-pad"]) overtaking = some s := ⟨_, rfl⟩
  obtain ⟨reports, hw⟩ : ∃ reports, s.outcome.whole = .ok reports := by
    cases hs
    exact ⟨_, rfl⟩
  obtain ⟨-, -, hnames, hsame⟩ := attribution _ 2 overtaking hs
  refine ⟨s, reports, hs, hw, (hnames reports hw).2, ?_⟩
  refine hsame Rehearsal oneTakenSurvey npmOnly _ .epoch steady_oneTakenSurvey ?_ reports hw
    atEpoch rfl
  intro f hf
  have hfinished : State.trace ["left-pad", "right-pad"] State.finished?
      (.start 2 ["left-pad", "right-pad"]) overtaking =
        [⟨1, .ok [oneTakenAnswer "right-pad"], .epoch⟩,
          ⟨0, .ok [oneTakenAnswer "left-pad"], .epoch⟩] := rfl
  rw [hfinished] at hf
  simp only [List.mem_cons, List.not_mem_nil, or_false] at hf
  rcases hf with rfl | rfl
  · exact ⟨"right-pad", atEpoch, rfl, rfl, rfl, rfl⟩
  · exact ⟨"left-pad", atEpoch, rfl, rfl, rfl, rfl⟩

end NameScout.Batch
