import NameScout.Proofs.Survey.FanOut

namespace NameScout

namespace Probe

variable {σ α β : Type}

theorem of_bind_ok {p : Probe σ α} {f : α → Probe σ β} {st st'' : σ} {b : β}
    (h : (p >>= f).run st = (.ok b, st'')) :
    ∃ a st', p.run st = (.ok a, st') ∧ (f a).run st' = (.ok b, st'') := by
  cases hp : p.run st with
  | mk result st' =>
      cases result with
      | error halt =>
          rw [run_bind_error hp] at h
          cases h
      | ok a =>
          rw [run_bind_ok hp] at h
          exact ⟨a, st', rfl, h⟩

theorem of_attempt_ok {p : Probe σ α} {st st' : σ} {outcome : Except Failure α}
    (h : p.attempt.run st = (.ok outcome, st')) :
    p.run st = (outcome.mapError Halt.failed, st') := by
  cases hp : p.run st with
  | mk result st₁ =>
      have hrun : StateT.run p.run st = (result, st₁) := hp
      change StateT.run (p.run >>= _) st = _ at h
      rw [StateT.run_bind, hrun] at h
      rcases result with (failure | text) | a <;> cases h <;> rfl

end Probe

namespace Survey

section Inversion

variable {σ : Type} [Clock σ] {survey : Survey σ} {st st' : σ}

def report? (survey : Survey σ) (v : Visit σ) : Option CheckResult :=
  if survey.strict then some ((answer? v).getD (unsupported survey.panel v)) else answer? v

theorem report?_of_answer? {v : Visit σ} {r : CheckResult} (h : answer? v = some r) :
    survey.report? v = some r := by
  rw [report?, h, Option.getD_some, ite_self]

theorem exists_visit_of_run {t : Target} {reported : Option CheckResult}
    (h : (survey.visit t).run st = (.ok reported, st')) :
    ∃ v, Visited survey.panel v ∧ v.target = t ∧ v.before = st := by
  rw [visit] at h
  cases husable : survey.usable? t with
  | none =>
      rw [usable?, Option.filter_eq_none_iff] at husable
      refine ⟨⟨t, st, none, st⟩, .skipped fun c hget => ?_, rfl, rfl⟩
      exact Bool.eq_false_iff.mpr (husable c hget)
  | some c =>
      rw [husable] at h
      obtain ⟨hget, hsupports⟩ := Option.filter_eq_some_iff.mp husable
      obtain ⟨r, st₁, hcall, -⟩ := Probe.of_bind_ok h
      rw [call, Probe.run_bind_ok (run_now st)] at hcall
      obtain ⟨outcome, st₂, hattempt, -⟩ := Probe.of_bind_ok hcall
      exact ⟨_, .called hget hsupports (Probe.of_attempt_ok hattempt), rfl, rfl⟩

theorem exists_visited_of_run {t : Target} {reported : Option CheckResult}
    (h : (survey.visit t).run st = (.ok reported, st')) :
    ∃ v, Visited survey.panel v ∧ v.target = t ∧ v.before = st ∧ v.after = st' ∧
      survey.report? v = reported := by
  obtain ⟨v, hv, rfl, rfl⟩ := exists_visit_of_run h
  obtain ⟨panel, strict⟩ := survey
  cases strict with
  | false =>
      have hrun := (run_visit_lenient hv).symm.trans h
      cases hrun
      exact ⟨v, hv, rfl, rfl, rfl, rfl⟩
  | true =>
      by_cases hfails : ∃ failure, Fails v failure
      · obtain ⟨failure, hfails⟩ := hfails
        cases (run_visit_failed hv hfails).symm.trans h
      · have hrun := (run_visit_strict hv fun failure hf => hfails ⟨failure, hf⟩).symm.trans h
        cases hrun
        exact ⟨v, hv, rfl, rfl, rfl, rfl⟩

theorem exists_round_of_run {targets : List Target} {results : List CheckResult}
    (h : (survey.visitAll targets).run st = (.ok results, st')) :
    ∃ visits, Round survey.panel st visits st' ∧ visits.map Visit.target = targets ∧
      results = visits.filterMap survey.report? := by
  induction targets generalizing st results with
  | nil =>
      cases h
      exact ⟨[], .nil, rfl, rfl⟩
  | cons t targets ih =>
      rw [visitAll] at h
      obtain ⟨reported, st₁, hvisit, h⟩ := Probe.of_bind_ok h
      obtain ⟨rest, st₂, hrest, hpure⟩ := Probe.of_bind_ok h
      cases hpure
      obtain ⟨v, hv, rfl, rfl, rfl, rfl⟩ := exists_visited_of_run hvisit
      obtain ⟨visits, hround, rfl, rfl⟩ := ih hrest
      refine ⟨v :: visits, .cons hv hround, rfl, ?_⟩
      rw [List.filterMap_cons]
      cases survey.report? v <;> rfl

theorem exists_round_of_check {name : String} {p : Profile} {results : List CheckResult}
    (h : (survey.check name p).run st = (.ok results, st')) :
    ∃ visits, Round survey.panel st visits st' ∧
      visits.map Visit.target = Target.plan (Text.trim name) p ∧
      results = visits.filterMap survey.report? := by
  by_cases hname : Text.trim name = ""
  · simp only [check, if_pos hname] at h
    cases h
  cases hp : p.isEmpty with
  | true =>
      simp only [check, if_neg hname, hp] at h
      cases h
  | false =>
      rw [check_eq hname hp] at h
      exact exists_round_of_run h

end Inversion

section Run

variable {σ : Type} {panel : Panel σ} {st st' : σ} {visits : List (Visit σ)}

theorem Round.head {v : Visit σ} (h : Round panel st (v :: visits) st') :
    Visited panel v ∧ v.before = st := by
  cases h with
  | cons hv hrest => exact ⟨hv, rfl⟩

/-- A relation that every visit keeps to, from a state of some kind to one of that kind, holds
from before each visit of a round to the end. -/
theorem Round.related {P : σ → Prop} {R : σ → σ → Prop} (hrefl : ∀ s, R s s)
    (htrans : ∀ {s s' s''}, R s s' → R s' s'' → R s s'')
    (hvisit : ∀ v, Visited panel v → P v.before → P v.after ∧ R v.before v.after)
    (h : Round panel st visits st') (hst : P st) :
    R st st' ∧ ∀ v ∈ visits, P v.before ∧ R v.after st' := by
  induction h with
  | nil => exact ⟨hrefl _, fun v hv => absurd hv List.not_mem_nil⟩
  | @cons v visits st' hv hrest ih =>
      obtain ⟨hafter, hstep⟩ := hvisit v hv hst
      obtain ⟨hall, hvisits⟩ := ih hafter
      refine ⟨htrans hstep hall, fun u hu => ?_⟩
      rcases List.mem_cons.mp hu with rfl | hu
      · exact ⟨hst, hall⟩
      · exact hvisits u hu

end Run

end Survey

end NameScout
