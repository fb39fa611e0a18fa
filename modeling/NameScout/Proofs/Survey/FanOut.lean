import NameScout.Survey

namespace NameScout

namespace Probe

variable {σ α β : Type}

theorem run_bind_ok {p : Probe σ α} {st st' : σ} {a : α} (h : p.run st = (.ok a, st'))
    (f : α → Probe σ β) : (p >>= f).run st = (f a).run st' := by
  change (ExceptT.bindCont f (p.run st).1 : StateM σ _) (p.run st).2 = _
  rw [h]
  rfl

theorem run_bind_error {p : Probe σ α} {st st' : σ} {halt : Halt}
    (h : p.run st = (.error halt, st')) (f : α → Probe σ β) :
    (p >>= f).run st = (.error halt, st') := by
  change (ExceptT.bindCont f (p.run st).1 : StateM σ _) (p.run st).2 = _
  rw [h]
  rfl

theorem run_attempt {p : Probe σ α} {st st' : σ} {outcome : Except Failure α}
    (h : p.run st = (outcome.mapError Halt.failed, st')) :
    p.attempt.run st = (.ok outcome, st') := by
  have hrun : StateT.run p.run st = (outcome.mapError Halt.failed, st') := h
  change StateT.run (p.run >>= _) st = _
  rw [StateT.run_bind, hrun]
  cases outcome <;> rfl

end Probe

namespace Panel

variable {σ : Type} (panel : Panel σ)

def lenient : Survey σ :=
  { panel, strict := false }

def strict : Survey σ :=
  { panel, strict := true }

def NeverBreaksDown : Prop :=
  ∀ t c, panel.get? t = some c → ∀ name st text,
    ((c.check name).run st).1 ≠ .error (.crashed text)

def WritesTo (log : σ → List (CheckType × String)) : Prop :=
  ∀ t c, panel.get? t = some c → ∀ name st,
    log ((c.check name).run st).2 = log st ++ [(t, name)]

def calls (targets : List Target) : List (CheckType × String) :=
  (targets.filter fun t => (panel.get? t.checkType).any (·.supportsName t.name)).map fun t =>
    (t.checkType, t.name)

end Panel

namespace Survey

section Visit

variable {σ : Type}

/-- What came of one target; no outcome if no checker was called for it. -/
structure Visit (σ : Type) where
  target : Target
  before : σ
  outcome : Option (Except Failure CheckResult)
  after : σ

inductive Visited (panel : Panel σ) : Visit σ → Prop
  | called {target : Target} {c : Checker σ} {before after : σ}
      {outcome : Except Failure CheckResult} (hget : panel.get? target.checkType = some c)
      (hsupports : c.supportsName target.name = true)
      (hrun : (c.check target.name).run before = (outcome.mapError Halt.failed, after)) :
      Visited panel { target, before, outcome := some outcome, after }
  | skipped {target : Target} {before : σ} (hnone : ∀ c, panel.get? target.checkType = some c →
      c.supportsName target.name = false) :
      Visited panel { target, before, outcome := none, after := before }

/-- One visit after another, each in the state that the one before has left. -/
inductive Round (panel : Panel σ) : σ → List (Visit σ) → σ → Prop
  | nil {st : σ} : Round panel st [] st
  | cons {v : Visit σ} {visits : List (Visit σ)} {st : σ} (hv : Visited panel v)
      (hrest : Round panel v.after visits st) : Round panel v.before (v :: visits) st

def Fails (v : Visit σ) (failure : Failure) : Prop :=
  v.outcome = some (.error failure)

def answerOf (t : Target) (requestedAt resolvedAt : Instant) :
    Except Failure CheckResult → CheckResult
  | .ok r => completed t r requestedAt resolvedAt
  | .error failure => synthetic t .error failure.message requestedAt resolvedAt

def answer? [Clock σ] (v : Visit σ) : Option CheckResult :=
  v.outcome.map (answerOf v.target (Clock.now v.before) (Clock.now v.after))

def unsupported [Clock σ] (panel : Panel σ) (v : Visit σ) : CheckResult :=
  synthetic v.target .unsupported (panel.strict.unsupportedMessage v.target) (Clock.now v.before)
    (Clock.now v.before)

variable {panel : Panel σ} {st : σ}

theorem usable?_of_called {s : Survey σ} {t : Target} {c : Checker σ}
    (hget : s.panel.get? t.checkType = some c) (hsupports : c.supportsName t.name = true) :
    s.usable? t = some c := by
  rw [usable?, hget, Option.filter_some, if_pos hsupports]

theorem usable?_of_skipped {s : Survey σ} {t : Target}
    (h : ∀ c, s.panel.get? t.checkType = some c → c.supportsName t.name = false) :
    s.usable? t = none := by
  cases hget : s.panel.get? t.checkType with
  | none => simp [usable?, hget]
  | some c => simp [usable?, hget, h c hget]

theorem exists_visited (hsound : panel.NeverBreaksDown) (t : Target) (st : σ) :
    ∃ v, Visited panel v ∧ v.target = t ∧ v.before = st := by
  by_cases h : ∃ c, panel.get? t.checkType = some c ∧ c.supportsName t.name = true
  · obtain ⟨c, hget, hsupports⟩ := h
    cases hrun : (c.check t.name).run st with
    | mk result after =>
      rcases result with (failure | text) | r
      · have hfailed : (c.check t.name).run st =
            ((Except.error failure).mapError Halt.failed, after) := hrun
        exact ⟨_, .called hget hsupports hfailed, rfl, rfl⟩
      · exact absurd (congrArg Prod.fst hrun) (hsound _ c hget _ st text)
      · have hanswered : (c.check t.name).run st =
            ((Except.ok r).mapError Halt.failed, after) := hrun
        exact ⟨_, .called hget hsupports hanswered, rfl, rfl⟩
  · have hnone (c : Checker σ) (hget : panel.get? t.checkType = some c) :
        c.supportsName t.name = false := by
      rw [← Bool.not_eq_true]
      exact fun hsupports => h ⟨c, hget, hsupports⟩
    exact ⟨{ target := t, before := st, outcome := none, after := st }, .skipped hnone, rfl, rfl⟩

theorem exists_round (hsound : panel.NeverBreaksDown) (targets : List Target) (st : σ) :
    ∃ visits st', Round panel st visits st' ∧ visits.map Visit.target = targets := by
  induction targets generalizing st with
  | nil => exact ⟨[], st, .nil, rfl⟩
  | cons t targets ih =>
    obtain ⟨v, hv, rfl, rfl⟩ := exists_visited hsound t st
    obtain ⟨visits, st', hround, rfl⟩ := ih v.after
    exact ⟨v :: visits, st', .cons hv hround, rfl⟩

theorem log_visited {log : σ → List (CheckType × String)} (hlog : panel.WritesTo log)
    {v : Visit σ} (hv : Visited panel v) : log v.after = log v.before ++ panel.calls [v.target] := by
  cases hv with
  | @called target c before after outcome hget hsupports hrun =>
    have hafter := hlog _ c hget target.name before
    rw [hrun] at hafter
    simpa [Panel.calls, hget, hsupports] using hafter
  | @skipped target before hnone =>
    have hany : (panel.get? target.checkType).any (·.supportsName target.name) = false := by
      cases hget : panel.get? target.checkType with
      | none => rfl
      | some c => exact hnone c hget
    simp [Panel.calls, hany]

theorem calls_append (xs ys : List Target) :
    panel.calls (xs ++ ys) = panel.calls xs ++ panel.calls ys := by
  rw [Panel.calls, List.filter_append, List.map_append]
  rfl

theorem log_round {log : σ → List (CheckType × String)} (hlog : panel.WritesTo log)
    {visits : List (Visit σ)} {st' : σ} (h : Round panel st visits st') :
    log st' = log st ++ panel.calls (visits.map Visit.target) := by
  induction h with
  | nil => simp [Panel.calls]
  | @cons v visits st' hv hrest ih =>
    rw [ih, log_visited hlog hv, List.map_cons, List.append_assoc, ← calls_append]
    rfl

theorem Round.visited {visits : List (Visit σ)} {st' : σ} (h : Round panel st visits st') :
    ∀ v ∈ visits, Visited panel v := by
  induction h with
  | nil => simp
  | @cons v visits st' hv hrest ih => simpa using ⟨hv, ih⟩

theorem Round.upTo {passed rest : List (Visit σ)} {v : Visit σ} {st' : σ}
    (h : Round panel st (passed ++ v :: rest) st') :
    Round panel st (passed ++ [v]) v.after := by
  induction passed generalizing st with
  | nil =>
    cases h with
    | cons hv hrest => exact .cons hv .nil
  | cons u passed ih =>
    cases h with
    | cons hu hrest => exact .cons hu (ih hrest)

end Visit

section Run

variable {σ : Type} [Clock σ] {panel : Panel σ} {st st' : σ} {v : Visit σ}
  {visits : List (Visit σ)}

theorem run_now (st : σ) : (now : Probe σ Instant).run st = (.ok (Clock.now st), st) := rfl

theorem run_call {s : Survey σ} {t : Target} {c : Checker σ}
    {outcome : Except Failure CheckResult}
    (hrun : (c.check t.name).run st = (outcome.mapError Halt.failed, st'))
    (hanswered : s.strict = false ∨ ∃ r, outcome = .ok r) :
    (s.call t c).run st = (.ok (answerOf t (Clock.now st) (Clock.now st') outcome), st') := by
  rw [call, Probe.run_bind_ok (run_now st), Probe.run_bind_ok (Probe.run_attempt hrun)]
  cases outcome with
  | ok r => rfl
  | error failure =>
    rcases hanswered with hlenient | ⟨r, hr⟩
    · simp only [hlenient, Bool.false_eq_true, if_false]
      rfl
    · cases hr

theorem run_call_failed {t : Target} {c : Checker σ} {failure : Failure}
    (hrun : (c.check t.name).run st = (.error (.failed failure), st')) :
    (panel.strict.call t c).run st = (.error (.failed failure), st') := by
  have hattempt := @Probe.run_attempt _ _ _ _ _ (.error failure) hrun
  rw [call, Probe.run_bind_ok (run_now st), Probe.run_bind_ok hattempt]
  rfl

theorem run_visit_lenient (hv : Visited panel v) :
    (panel.lenient.visit v.target).run v.before = (.ok (answer? v), v.after) := by
  cases hv with
  | called hget hsupports hrun =>
    rw [visit, usable?_of_called hget hsupports]
    exact Probe.run_bind_ok (run_call hrun (.inl rfl)) _
  | skipped hnone =>
    rw [visit, usable?_of_skipped hnone]
    rfl

theorem run_visit_strict (hv : Visited panel v) (hok : ∀ failure, ¬ Fails v failure) :
    (panel.strict.visit v.target).run v.before =
      (.ok (some ((answer? v).getD (unsupported panel v))), v.after) := by
  cases hv with
  | @called target c before after outcome hget hsupports hrun =>
    rw [visit, usable?_of_called hget hsupports]
    refine Probe.run_bind_ok (run_call hrun (.inr ?_)) _
    cases outcome with
    | ok r => exact ⟨r, rfl⟩
    | error failure => exact absurd rfl (hok failure)
  | skipped hnone =>
    rw [visit, usable?_of_skipped hnone]
    rfl

theorem run_visit_failed (hv : Visited panel v) {failure : Failure} (hfails : Fails v failure) :
    (panel.strict.visit v.target).run v.before = (.error (.failed failure), v.after) := by
  cases hv with
  | called hget hsupports hrun =>
    cases hfails
    rw [visit, usable?_of_called hget hsupports]
    exact Probe.run_bind_error (run_call_failed hrun) _
  | skipped => cases hfails

theorem run_visitAll_lenient (h : Round panel st visits st') :
    (panel.lenient.visitAll (visits.map Visit.target)).run st =
      (.ok (visits.filterMap answer?), st') := by
  induction h with
  | nil => rfl
  | @cons v visits st' hv hrest ih =>
    rw [List.map_cons, visitAll, Probe.run_bind_ok (run_visit_lenient hv), Probe.run_bind_ok ih,
      List.filterMap_cons]
    cases answer? v <;> rfl

theorem run_visitAll_strict (h : Round panel st visits st')
    (hok : ∀ v ∈ visits, ∀ failure, ¬ Fails v failure) :
    (panel.strict.visitAll (visits.map Visit.target)).run st =
      (.ok (visits.map fun v => (answer? v).getD (unsupported panel v)), st') := by
  induction h with
  | nil => rfl
  | @cons v visits st' hv hrest ih =>
    have hvisit := run_visit_strict hv (hok v List.mem_cons_self)
    have hvisits := ih fun u hu => hok u (List.mem_cons_of_mem _ hu)
    rw [List.map_cons, visitAll, Probe.run_bind_ok hvisit, Probe.run_bind_ok hvisits]
    rfl

theorem run_visitAll_failed {passed rest : List (Visit σ)} {failure : Failure}
    (h : Round panel st (passed ++ v :: rest) st')
    (hok : ∀ u ∈ passed, ∀ failure, ¬ Fails u failure) (hfails : Fails v failure) :
    (panel.strict.visitAll ((passed ++ v :: rest).map Visit.target)).run st =
      (.error (.failed failure), v.after) := by
  induction passed generalizing st with
  | nil =>
    cases h with
    | cons hv hrest =>
      rw [List.nil_append, List.map_cons, visitAll]
      exact Probe.run_bind_error (run_visit_failed hv hfails) _
  | cons u passed ih =>
    cases h with
    | cons hu hrest =>
      have hvisit := run_visit_strict hu (hok u List.mem_cons_self)
      have hvisits := ih hrest fun w hw => hok w (List.mem_cons_of_mem _ hw)
      rw [List.cons_append, List.map_cons, visitAll, Probe.run_bind_ok hvisit]
      exact Probe.run_bind_error hvisits _

theorem check_eq {s : Survey σ} {name : String} {p : Profile} (hname : Text.trim name ≠ "")
    (hp : p.isEmpty = false) : s.check name p = s.visitAll (Target.plan (Text.trim name) p) := by
  simp only [check, if_neg hname, hp, Bool.false_eq_true, if_false]

theorem plan_eq (name : String) (p : Profile) : Target.plan name p =
    ((p.tlds.map Text.normalizeKey).filter (· ≠ "")).map (fun tld =>
        { name := name ++ "." ++ tld, checkType := .domain, tld := some tld }) ++
      (p.registries.filterMap CheckType.ofKey? ++ p.handles.filterMap CheckType.ofKey?).map
        fun t => { name, checkType := t, tld := none } := by
  have htlds (tlds : List String) : tlds.filterMap (Target.ofTld? name) =
      ((tlds.map Text.normalizeKey).filter (· ≠ "")).map (fun tld =>
        { name := name ++ "." ++ tld, checkType := .domain, tld := some tld }) := by
    induction tlds with
    | nil => rfl
    | cons tld tlds ih =>
      by_cases hblank : Text.normalizeKey tld = ""
      · simp [Target.ofTld?, hblank, ih]
      · simp [Target.ofTld?, hblank, ih]
  have hkeys (keys : List String) : keys.filterMap (Target.ofKey? name) =
      (keys.filterMap CheckType.ofKey?).map fun t => { name, checkType := t, tld := none } := by
    rw [List.map_filterMap]
    rfl
  rw [Target.plan, htlds, hkeys, List.filterMap_append]

end Run

structure Diary where
  clock : Instant
  checks : List (CheckType × String)

instance : Clock Diary where
  now d := d.clock

def diarist (checkType : CheckType) (outcome : String → Except Failure CheckResult) :
    Checker Diary :=
  { checkType
    supportsName := fun _ => true
    check := fun name => ExceptT.mk fun d =>
      ((outcome name).mapError Halt.failed,
        { d with checks := d.checks ++ [(checkType, name)] }) }

def offlineDomains : Panel Diary :=
  (Panel.empty.register (diarist .domain fun _ => .error (.other (.said "offline")))).register
    (diarist .npm fun name => .ok (.new name .npm .available))

def mixedProfile : Profile :=
  { name := "mixed", tlds := [".COM", " "], registries := ["npm", "unknown"], handles := ["x"] }

theorem of_get?_offlineDomains {t : CheckType} {c : Checker Diary}
    (h : offlineDomains.get? t = some c) : ∃ outcome, c = diarist t outcome := by
  simp only [offlineDomains, Panel.get?_register] at h
  split at h
  · subst t
    cases h
    exact ⟨_, rfl⟩
  · split at h
    · subst t
      cases h
      exact ⟨_, rfl⟩
    · cases h

theorem fails_of_offlineDomains {v : Visit Diary} (hv : Visited offlineDomains v)
    (ht : v.target.checkType = .domain) : Fails v (.other (.said "offline")) := by
  cases hv with
  | @called target c before after outcome hget hsupports hrun =>
    rw [ht] at hget
    obtain rfl : diarist .domain (fun _ => .error (.other (.said "offline"))) = c :=
      Option.some.inj hget
    have houtcome : .error (.failed (.other (.said "offline"))) = outcome.mapError Halt.failed :=
      congrArg Prod.fst hrun
    cases outcome with
    | ok r => cases houtcome
    | error failure =>
      cases houtcome
      rfl
  | skipped hnone =>
    rw [ht] at hnone
    cases hnone _ rfl

end Survey

end NameScout
