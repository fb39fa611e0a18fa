import NameScout.Batch.System

namespace NameScout.Batch.State

inductive Move (names : List String) (s : State) : Event → State → Prop
  | feed {next : Nat} (hf : s.feeder = .feeding next) (hlt : next < names.length)
      (hover : s.allOver = false) (hroom : s.hasRoom = true) :
      Move names s .feed { s with feeder := .feeding (next + 1), queue := s.queue ++ [next] }
  | close {next : Nat} (hf : s.feeder = .feeding next)
      (hend : names.length ≤ next ∨ s.allOver = true) :
      Move names s .feed { s with feeder := .closed }
  | stopFeeding (hc : s.cancelled = true) (hf : s.feeder ≠ .closed) :
      Move names s .stopFeeding { s with feeder := .closed }
  | approach {w : Nat} (hw : s.activity? w = some .waiting) (hfree : s.headIsFree = true) :
      Move names s (.approach w) (s.become w .receiving)
  | take {w place : Nat} {queue : List Nat} (hw : s.activity? w = some .receiving)
      (hq : s.queue = place :: queue) :
      Move names s (.take w) ({ s with queue }.become w (.checking place))
  | dry {w : Nat} (hw : s.activity? w = some .receiving) (hq : s.queue = [])
      (hf : s.feeder = .closed) : Move names s (.take w) (s.become w (.ended none))
  | leave {w : Nat} (hc : s.cancelled = true)
      (hw : s.activity? w = some .receiving ∨ ∃ place, s.activity? w = some (.checking place)) :
      Move names s (.leave w) (s.become w (.ended none))
  | report {w place : Nat} {results : List CheckResult} {time : Instant}
      (hw : s.activity? w = some (.checking place)) :
      Move names s (.finish w (.ok results) time)
        { s with workers := s.workers.modify w fun worker =>
            { activity := .waiting
              done := worker.done ++
                [(place, Report.ofResults (names[place]?.getD "") results time)] } }
  | fail {w place : Nat} {failure : Failure} {time : Instant}
      (hw : s.activity? w = some (.checking place)) (hg : s.guarded = false) :
      Move names s (.finish w (.error (.failed failure)) time)
        ({ s with guarded := true, cancelled := true }.become w (.ended (some failure)))
  | failLater {w place : Nat} {failure : Failure} {time : Instant}
      (hw : s.activity? w = some (.checking place)) (hg : s.guarded = true) :
      Move names s (.finish w (.error (.failed failure)) time) (s.become w (.ended none))
  | crash {w place : Nat} {text : String} {time : Instant}
      (hw : s.activity? w = some (.checking place)) :
      Move names s (.finish w (.error (.crashed text)) time) (s.become w (.crashed text))
  | cancel (hc : s.callerCancelled = false) :
      Move names s .cancel { s with callerCancelled := true, cancelled := true }
  | joinEnded {error : Option Failure} {done : List (Nat × Report)}
      (hw : s.workers[s.joined]? = some { activity := .ended error, done }) :
      Move names s .join
        { s with
          joined := s.joined + 1
          results := handOver s.results done
          error := if error.isSome then error else s.error }
  | joinCrashed {text : String} {done : List (Nat × Report)}
      (hw : s.workers[s.joined]? = some { activity := .crashed text, done }) :
      Move names s .join
        { s with
          joined := s.joined + 1
          cancelled := true
          guarded := true
          error := if s.guarded then s.error else some (.other (.workerAborted text)) }

variable {names : List String} {s s' : State}

theorem move_of_finish? {w : Nat} {outcome : Except Halt (List CheckResult)} {time : Instant}
    (h : s.finish? names w outcome time = some s') : Move names s (.finish w outcome time) s' := by
  simp only [finish?] at h
  split at h
  · rename_i place hw
    cases h
    rcases outcome with (failure | text) | results
    · by_cases hg : s.guarded = true
      · simp only [afterChecks, if_pos hg]
        exact .failLater hw hg
      · simp only [afterChecks, if_neg hg]
        exact .fail hw (Bool.eq_false_iff.mpr hg)
    · exact .crash hw
    · exact .report hw
  · cases h

theorem move_of_step? {e : Event} (h : s.step? names e = some s') : Move names s e s' := by
  cases e with
  | feed =>
      simp only [step?, feed?] at h
      split at h
      · cases h
      · rename_i next hf
        split at h
        · cases h
          exact .close hf ‹_›
        · rename_i hend
          rw [not_or] at hend
          split at h
          · cases h
            exact .feed hf (by omega) (Bool.eq_false_iff.mpr hend.2) ‹_›
          · cases h
  | stopFeeding =>
      simp only [step?] at h
      split at h
      · rename_i hc
        cases h
        exact .stopFeeding hc.1 hc.2
      · cases h
  | approach w =>
      simp only [step?] at h
      split at h
      · rename_i hw
        cases h
        exact .approach hw.1 hw.2
      · cases h
  | take w =>
      simp only [step?, take?] at h
      split at h
      · rename_i place queue hw hq
        cases h
        exact .take hw hq
      · rename_i hw hq
        split at h
        · cases h
          exact .dry hw hq ‹_›
        · cases h
      · cases h
  | leave w =>
      simp only [step?, leave?] at h
      split at h
      · rename_i hc hw
        cases h
        exact .leave hc (.inl hw)
      · rename_i place hc hw
        cases h
        exact .leave hc (.inr ⟨place, hw⟩)
      · cases h
  | finish w outcome time => exact move_of_finish? h
  | cancel =>
      simp only [step?] at h
      split at h
      · cases h
      · cases h
        exact .cancel (Bool.eq_false_iff.mpr ‹_›)
  | join =>
      simp only [step?, join?] at h
      split at h
      · cases h
        exact .joinEnded ‹_›
      · cases h
        exact .joinCrashed ‹_›
      · cases h

end NameScout.Batch.State
