import NameScout.Lookup.Checker
import NameScout.Proofs.Lookup.Repeat
import NameScout.Proofs.Survey.Round

namespace NameScout

open Text

theorem Text.length_normalizeKey_le {s : String} (h : ∀ c ∈ s.toList, IsPlain c) :
    (normalizeKey s).toList.length ≤ s.toList.length := by
  have htrim : trimChars s.toList = s.toList := trimChars_of_no_blank fun c hc => (h c hc).2
  have hdrop : ∀ {cs : List Char}, (∀ c ∈ cs, IsPlain c) →
      (∀ c ∈ dropDot cs, IsPlain c) ∧ (dropDot cs).length ≤ cs.length := by
    intro cs hcs
    rw [dropDot.eq_def]
    split
    · exact ⟨fun c hc => hcs c (List.mem_cons_of_mem _ hc), Nat.le_succ _⟩
    · exact ⟨hcs, Nat.le_refl _⟩
  obtain ⟨hplain, hle⟩ := hdrop h
  rw [normalizeKey, keyChars, htrim, trimChars_of_no_blank fun c hc => (hplain c hc).2, lowerChars,
    lowerFrom_of_ascii fun c hc => (hplain c hc).1, String.toList_ofList, List.length_map]
  exact hle

theorem CheckType.ofKey?_ne_domain (key : String) : ofKey? key ≠ some .domain := by
  have hkeys : ∀ entry ∈ keyTable, entry.2 ≠ domain := by decide
  intro h
  obtain ⟨entry, hfind, hdomain⟩ := Option.map_eq_some_iff.mp h
  exact hkeys entry (List.mem_of_find?_eq_some hfind) hdomain

theorem Target.exists_tld_of_mem_plan {t : Target} {name : String} {p : Profile}
    (h : t ∈ plan name p) (ht : t.checkType = .domain) :
    ∃ raw, t = ⟨name ++ "." ++ normalizeKey raw, .domain, some (normalizeKey raw)⟩ := by
  rw [Survey.plan_eq] at h
  rcases List.mem_append.mp h with h | h
  · obtain ⟨tld, htld, rfl⟩ := List.mem_map.mp h
    obtain ⟨raw, -, rfl⟩ := List.mem_map.mp (List.mem_filter.mp htld).1
    exact ⟨raw, rfl⟩
  · obtain ⟨checkType, hkey, rfl⟩ := List.mem_map.mp h
    obtain rfl : checkType = .domain := ht
    rw [← List.filterMap_append] at hkey
    obtain ⟨key, -, hkey⟩ := List.mem_filterMap.mp hkey
    exact absurd hkey (CheckType.ofKey?_ne_domain key)

namespace Lookup

variable {l : Lookup} {name tld : String}

theorem tldOf_append (hl : l.checkType = .domain) {first : List Char} (hfirst : '.' ∉ first)
    (hname : name.toList = first ++ '.' :: tld.toList) : l.tldOf name = some tld := by
  rw [tldOf, hl, hname, splitFirst?_append]
  · exact congrArg some String.ofList_toList
  · intro c hc
    refine beq_eq_false_iff_ne.mpr ?_
    rintro rfl
    exact hfirst hc
  · rfl

theorem tldOf_of_not_dotted (hl : l.checkType = .domain) (h : '.' ∉ name.toList) (tld : String) :
    l.tldOf (name ++ "." ++ tld) = some tld :=
  tldOf_append hl h (by simp)

theorem exists_tldOf_of_dotted (hl : l.checkType = .domain) (h : '.' ∈ name.toList)
    (tld : String) : ∃ rest, l.tldOf (name ++ "." ++ tld) = some (rest ++ "." ++ tld) := by
  obtain ⟨first, rest, hname, hfirst⟩ := List.eq_append_cons_of_mem h
  exact ⟨String.ofList rest, tldOf_append hl hfirst (by simp [hname])⟩

theorem key_ne_of_dotted (hl : l.checkType = .domain) (h : '.' ∈ name.toList)
    (hsupports : l.checkType.supports (name ++ "." ++ tld) = true) :
    CheckType.domain.normalizeTld (some tld) ≠
      l.checkType.normalizeTld ((l.tldOf (name ++ "." ++ tld)).map lowerAscii) := by
  obtain ⟨rest, htld⟩ := exists_tldOf_of_dotted hl h tld
  have hrule : NameRule.domain (name ++ "." ++ tld).toList = true := by
    rw [hl] at hsupports
    exact hsupports
  obtain ⟨first, cs, hsplit, -, hplain, hdot⟩ := NameRule.exists_tld_of_domain hrule
  obtain rfl : cs = (rest ++ "." ++ tld).toList := by
    rw [tldOf, hl, hsplit] at htld
    have hcs : String.ofList cs = rest ++ "." ++ tld := Option.some.inj htld
    rw [← hcs, String.toList_ofList]
  -- The two keys are told apart by their length.
  have hlong : normalizeKey (lowerAscii (rest ++ "." ++ tld)) = lowerAscii (rest ++ "." ++ tld) :=
    (normalizeKey_lowerAscii _).trans (normalizeKey_of_plain hplain hdot)
  have hshort : (normalizeKey tld).toList.length ≤ tld.toList.length :=
    length_normalizeKey_le fun c hc => hplain c (by simp [hc])
  rw [htld, hl, Option.map_some]
  intro hkey
  have hchars : (normalizeKey tld).toList = (lowerAscii (rest ++ "." ++ tld)).toList := by
    rw [← hlong]
    exact congrArg String.toList hkey
  have hlength := congrArg List.length hchars
  simp [lowerAscii] at hlength hshort
  omega

end Lookup

namespace Wired

variable {σ : Type} [Clock σ] [Http.Network σ] {w : Wired σ} {l : Lookup} {name : String}
  {s s' : σ} {replied : Except Failure (Option Http.Reply) × σ}
  {outcome : Except Failure CheckResult} {k : CacheKey}

theorem Course.get?_of_ne_key (h : w.Course l name s replied (outcome, s'))
    (hk : k ≠ Cache.key name l.checkType ((l.tldOf name).map lowerAscii)) :
    (w.view.tables s').entries.get? k = (w.view.tables s).entries.get? k := by
  cases h with
  | found hit still tables | unaskable missed url still tables
  | heldBack missed url_eq denied still tables => rw [tables]
  | failed missed url_eq allowed sent chain tables => rw [tables, Lookup.entries_counted]
  | @answered url reply _ _ _ missed url_eq allowed sent chain noticed tables =>
      have hanswers := l.answers_answer name (url.host?.getD "") reply
      rw [tables, Lookup.get?_kept_of_ne_key, Lookup.entries_noted, Lookup.entries_counted]
      rw [hanswers.checkType_eq, hanswers.tld_eq]
      exact hk

variable [Store σ]

theorem Later.get?_of_ne_key (h : w.Lawful) (hlater : w.Later s s') (hs : w.view.Sound s)
    (hk : ∀ (l : Lookup) (name : String),
      k ≠ Cache.key name l.checkType ((l.tldOf name).map lowerAscii)) :
    (w.view.tables s').entries.get? k = (w.view.tables s).entries.get? k :=
  hlater.preserves h hs
    (P := fun t => t.entries.get? k = (w.view.tables s).entries.get? k)
    (fun hcourse hkept => (hcourse.get?_of_ne_key (hk _ _)).trans hkept) rfl

end Wired

namespace Lookup

variable {σ : Type} [Store σ] [Clock σ] [Http.Network σ] {l : Lookup} {name : String} {st st' : σ}
  {outcome : Except Failure CheckResult}

theorem of_run_checker
    (h : (l.checker.check name).run st = (outcome.mapError Halt.failed, st')) :
    (l.check name).run st = (outcome, st') := by
  cases hcheck : (l.check name).run st with
  | mk result st₁ =>
      have hrun : StateT.run (l.check name).run st = (result, st₁) := hcheck
      change StateT.run ((l.check name).run >>= _) st = _ at h
      rw [StateT.run_bind, hrun] at h
      cases result <;> cases outcome <;> cases h <;> rfl

end Lookup

namespace Panel

variable {σ : Type} [Store σ] [Clock σ] [Http.Network σ]

def OnlyLooks (panel : Panel σ) (w : Wired σ) : Prop :=
  ∀ v, Survey.Visited panel v → w.view.Sound v.before → w.Later v.before v.after

theorem onlyLooks_of_lookups {panel : Panel σ}
    (h : ∀ t c, panel.get? t = some c → ∃ l : Lookup, c = l.checker) (w : Wired σ) :
    panel.OnlyLooks w := by
  intro v hv _
  cases hv with
  | @called target c before after outcome hget hsupports hrun =>
      obtain ⟨l, rfl⟩ := h _ c hget
      have hafter : after = ((l.check target.name).run before).2 := by rw [Lookup.of_run_checker hrun]
      rw [hafter]
      exact .check .start l target.name
  | skipped => exact .start

end Panel

namespace Survey

variable {σ : Type} [Store σ] [Clock σ] [Http.Network σ]

/-- A domain that was asked for and got an answer which is kept for some time. -/
structure AskedFor (w : Wired σ) (ttl : TtlSettings) (v : Visit σ) (r : CheckResult) : Prop where
  domain : v.target.checkType = .domain
  answered : v.outcome = some (.ok r)
  asked : w.seen v.after ≠ w.seen v.before
  kept : .zero < ttl.ttlFor r.available

variable {w : Wired σ} {l : Lookup} {ttl : TtlSettings} {survey : Survey σ} {panel : Panel σ}
  {v : Visit σ} {r : CheckResult} {s s' : σ}

theorem Visited.run_lookup (hv : Visited panel v)
    (hget : panel.get? v.target.checkType = some l.checker) {outcome : Except Failure CheckResult}
    (houtcome : v.outcome = some outcome) : l.checkType.supports v.target.name = true ∧
      (l.check v.target.name).run v.before = (outcome, v.after) := by
  cases hv with
  | @called target c before after outcome hget' hsupports hrun =>
      cases houtcome
      obtain rfl : l.checker = c := Option.some.inj (hget.symm.trans hget')
      exact ⟨hsupports, Lookup.of_run_checker hrun⟩
  | skipped => cases houtcome

omit [Store σ] [Clock σ] [Http.Network σ] in
theorem Visited.exists_outcome {c : Checker σ} (hv : Visited panel v)
    (hget : panel.get? v.target.checkType = some c) (hsupports : c.supportsName v.target.name = true) :
    ∃ outcome, v.outcome = some outcome := by
  cases hv with
  | @called target c before after outcome => exact ⟨outcome, rfl⟩
  | skipped hnone => cases (hnone c hget).symm.trans hsupports

def Finds (w : Wired σ) (name : String) (tld : Option String) (s : σ)
    (found : Option CheckResult) : Prop :=
  ∃ s', (Cache.get name .domain tld (Clock.now s)).run s = (.ok found, s') ∧ w.Still s s' ∧
    w.view.tables s' = w.view.tables s

omit [Store σ] [Http.Network σ] in
theorem answer?_of_ok (hok : v.outcome = some (.ok r)) :
    answer? v = some (completed v.target r (Clock.now v.before) (Clock.now v.after)) := by
  rw [answer?, hok]
  rfl

theorem completed_of_same {t : Target} {hit : CheckResult} (ht : t.checkType = .domain)
    (hsame : { hit with provenance := r.provenance } = r) (requestedAt resolvedAt : Instant) :
    { hit with
      tld := t.tld, provenance := (completed t r requestedAt resolvedAt).provenance } =
        completed t r requestedAt resolvedAt := by
  have htld : (completed t r requestedAt resolvedAt).tld = t.tld := if_pos ht
  have hcompleted := congrArg (fun found => { found with
    tld := (completed t r requestedAt resolvedAt).tld
    provenance := (completed t r requestedAt resolvedAt).provenance }) hsame
  rw [htld] at hcompleted
  exact hcompleted.trans (by rw [← htld]; rfl)

section Kept

variable {name raw : String} {replied : Except Failure (Option Http.Reply) × σ} {s₂ : σ}

theorem AskedFor.found (hv : AskedFor w ttl v r) (h : w.Lawful) (hl : l.checkType = .domain)
    (hcache : l.cache = some ttl) (hsupports : l.checkType.supports v.target.name = true)
    (hcourse : w.Course l v.target.name v.before replied (.ok r, v.after))
    (hlater : w.Later v.after s₂)
    (hbefore : Clock.now s₂ < (Clock.now v.after).addOrMax (ttl.ttlFor r.available)) :
    ∃ hit, Finds w v.target.name (l.tldOf v.target.name) s₂ (some hit) ∧
      hit.provenance.fromCache = true ∧ { hit with provenance := r.provenance } = r := by
  obtain ⟨hsound, hanswers, hstays⟩ :=
    hcourse.stays h hcache hv.asked hv.kept hlater hbefore
  have hfinds := h.get v.target.name .domain (l.tldOf v.target.name) hsound
  rw [hl] at hstays
  rw [Lookup.live?_of_get? hstays hbefore] at hfinds
  exact ⟨_, hfinds, rfl, hanswers.toResult_toEntry hsupports _ _ _⟩

theorem get?_of_dotted {t : Target} (h : w.Lawful) (hl : l.checkType = .domain)
    (ht : t = ⟨name ++ "." ++ normalizeKey raw, .domain, some (normalizeKey raw)⟩)
    (hname : '.' ∈ name.toList) (hsupports : l.checkType.supports t.name = true)
    (hs : w.view.Sound s) (hlater : w.Later s s₂) :
    (w.view.tables s₂).entries.get? (Cache.key t.name .domain t.tld) =
      (w.view.tables s).entries.get? (Cache.key t.name .domain t.tld) := by
  refine hlater.get?_of_ne_key h hs fun l' name' hkey => ?_
  rw [ht] at hkey hsupports
  rw [Cache.key, Cache.key, CacheKey.mk.injEq] at hkey
  obtain ⟨rfl, htype, htld⟩ := hkey
  rw [hl, htype] at hsupports
  exact Lookup.key_ne_of_dotted htype.symm hname hsupports htld

end Kept

/-- A domain that a survey asks for is reported under the top-level domain of the profile, and
kept under all that follows its first dot. It is found where it is reported if the name that is
checked has no dot; if it has one, the cache is there as it was before. -/
theorem reported_found_unless_dotted {name : String} {p : Profile} {results : List CheckResult}
    (h : w.Lawful) (hpanel : survey.panel.OnlyLooks w)
    (hget : survey.panel.get? .domain = some l.checker) (hl : l.checkType = .domain)
    (hcache : l.cache = some ttl) (hs : w.view.Sound s)
    (hcheck : (survey.check name p).run s = (.ok results, s')) :
    ∃ visits, Round survey.panel s visits s' ∧
      visits.map Visit.target = Target.plan (Text.trim name) p ∧
      results = visits.filterMap survey.report? ∧
      ∀ v ∈ visits, ∀ r, AskedFor w ttl v r → w.Later v.after s' ∧
        ∃ reported ∈ results, survey.report? v = some reported ∧
          reported.name = v.target.name ∧ reported.tld = v.target.tld ∧
          reported.available = r.available ∧
          ∀ s₂, w.Later v.after s₂ →
            Clock.now s₂ < (Clock.now v.after).addOrMax (ttl.ttlFor r.available) →
            (∃ hit, Finds w reported.name (l.tldOf reported.name) s₂ (some hit) ∧
              hit.provenance.fromCache = true ∧
              { hit with tld := reported.tld, provenance := reported.provenance } = reported) ∧
            ('.' ∉ (Text.trim name).toList → ∃ hit,
              Finds w reported.name reported.tld s₂ (some hit) ∧
              hit.provenance.fromCache = true ∧
              { hit with provenance := reported.provenance } = reported) ∧
            ('.' ∈ (Text.trim name).toList → Finds w reported.name reported.tld s₂
              (((w.view.tables v.before).live? (Cache.key reported.name .domain reported.tld)
                (Clock.now s₂)).map (Cache.toResult · (Clock.now s₂)))) := by
  obtain ⟨visits, hround, htargets, hresults⟩ := exists_round_of_check hcheck
  refine ⟨visits, hround, htargets, hresults, fun v hmem r hv => ?_⟩
  have hvisit (v : Visit σ) (hv : Visited survey.panel v) (hbefore : w.view.Sound v.before) :
      w.view.Sound v.after ∧ w.Later v.before v.after :=
    ⟨(hpanel v hv hbefore).sound h hbefore, hpanel v hv hbefore⟩
  obtain ⟨-, hvisits⟩ := hround.related (fun _ => .start) Wired.Later.trans hvisit hs
  obtain ⟨hbefore, hend⟩ := hvisits v hmem
  obtain ⟨raw, ht⟩ := Target.exists_tld_of_mem_plan
    (htargets ▸ List.mem_map_of_mem hmem) hv.domain
  have hvisited := hround.visited v hmem
  rw [← hv.domain] at hget
  obtain ⟨hsupports, hrun⟩ := hvisited.run_lookup hget hv.answered
  have hcourse := h.course l v.target.name hbefore
  rw [hrun] at hcourse
  have hanswers := (hcourse.exists_kept hv.asked hcache hv.kept).2.1
  have hreport : survey.report? v = _ := report?_of_answer? (answer?_of_ok hv.answered)
  have hname : (completed v.target r (Clock.now v.before) (Clock.now v.after)).name =
      v.target.name := hanswers.name_eq
  have htld : (completed v.target r (Clock.now v.before) (Clock.now v.after)).tld =
      v.target.tld := if_pos hv.domain
  refine ⟨hend, _, ?_, hreport, hname, htld, rfl, fun s₂ hlater htime => ?_⟩
  · rw [hresults]
    exact List.mem_filterMap.mpr ⟨v, hmem, hreport⟩
  rw [hname, htld]
  obtain ⟨hit, hfinds, hcached, hsame⟩ :=
    hv.found h hl hcache hsupports hcourse hlater htime
  have hcompleted := completed_of_same hv.domain hsame (Clock.now v.before) (Clock.now v.after)
  refine ⟨⟨hit, hfinds, hcached, hcompleted⟩, fun hplain => ?_, fun hdotted => ?_⟩
  · have htldOf : l.tldOf v.target.name = v.target.tld := by
      rw [ht]
      exact Lookup.tldOf_of_not_dotted hl hplain _
    have hshown : hit.tld = v.target.tld := calc
      hit.tld = r.tld := (congrArg CheckResult.tld hsame :)
      _ = (l.tldOf v.target.name).map lowerAscii := hanswers.tld_eq
      _ = v.target.tld := by
        rw [htldOf, ht]
        exact congrArg some (lowerAscii_normalizeKey raw)
    rw [htldOf] at hfinds
    rw [← hshown] at hcompleted
    exact ⟨hit, hfinds, hcached, hcompleted⟩
  · have hsince : w.Later v.before s₂ := (hpanel v hvisited hbefore).trans hlater
    have hfinds := h.get v.target.name .domain v.target.tld (hsince.sound h hbefore)
    rw [Tables.live?, get?_of_dotted h hl ht hdotted hsupports hbefore hsince, ← Tables.live?]
      at hfinds
    exact hfinds

def oneMinute : TtlSettings :=
  { available := 60, taken := 60, unknown := 0, error := 0, rateLimited := 0 }

def keeper : Lookup :=
  { World.patient with cache := some oneMinute }

def domainsAndNpm : Survey World :=
  ((Panel.empty.register keeper.checker).register World.atRegistry.checker).lenient

def missing : Http.Reply :=
  { status := 404, headers := [] }

def twoMissing : World :=
  World.replying [some missing, some missing]

def ukProfile : Profile :=
  { name := "uk", tlds := [" .CO.UK"], registries := ["npm"], handles := [] }

def surveyed (name : String) : Except Halt (List CheckResult) × World :=
  (domainsAndNpm.check name ukProfile).run twoMissing

theorem onlyLooks_domainsAndNpm (w : Wired World) : domainsAndNpm.panel.OnlyLooks w := by
  refine Panel.onlyLooks_of_lookups (fun t c hget => ?_) w
  simp only [domainsAndNpm, Panel.lenient, Panel.get?_register] at hget
  split at hget
  · exact ⟨_, (Option.some.inj hget).symm⟩
  split at hget
  · exact ⟨_, (Option.some.inj hget).symm⟩
  · cases hget

theorem reported_found_unless_dotted_ukProfile : ∃ results reported hit,
    (surveyed " acme").1 = .ok results ∧ reported ∈ results ∧ reported.tld = some "co.uk" ∧
      Finds (World.wired fun _ => True) reported.name reported.tld (surveyed " acme").2 (some hit) ∧
      hit.provenance.fromCache = true ∧ hit.available = .available := by
  let w := World.wired fun _ => True
  have hok : (surveyed " acme").1.isOk = true := by decide +kernel
  obtain ⟨results, hresults⟩ : ∃ results, (surveyed " acme").1 = .ok results := by
    generalize (surveyed " acme").1 = outcome at hok
    cases outcome with
    | ok results => exact ⟨results, rfl⟩
    | error halt => cases hok
  have hsound : w.view.Sound twoMissing := ⟨⟨.empty, rfl⟩, fun _ _ _ _ => trivial⟩
  have hplan : Target.plan (Text.trim " acme") ukProfile =
      [⟨"acme.co.uk", .domain, some "co.uk"⟩, ⟨"acme", .npm, none⟩] := by decide +kernel
  obtain ⟨visits, hround, htargets, -, hfound⟩ := reported_found_unless_dotted (w := w)
    (l := keeper) World.lawful_wired (onlyLooks_domainsAndNpm w) rfl rfl rfl hsound
    (eq_mk_of_fst hresults)
  obtain ⟨v, rest, rfl, hv, -⟩ := List.map_eq_cons_iff.mp (htargets.trans hplan)
  obtain ⟨hvisited, hbefore⟩ := hround.head
  have hget : domainsAndNpm.panel.get? v.target.checkType = some keeper.checker := by
    rw [hv]
    rfl
  obtain ⟨outcome, houtcome⟩ := hvisited.exists_outcome hget (by rw [hv]; decide +kernel)
  have hrun := (hvisited.run_lookup hget houtcome).2
  rw [hv, hbefore] at hrun
  have hafter : v.after = ((keeper.check "acme.co.uk").run twoMissing).2 :=
    (congrArg Prod.snd hrun).symm
  have hanswer : outcome = .ok (keeper.answer "acme.co.uk" "reg.test" missing) :=
    (congrArg Prod.fst hrun).symm.trans (by decide +kernel)
  have hasked : AskedFor w oneMinute v (keeper.answer "acme.co.uk" "reg.test" missing) :=
    { domain := by rw [hv]
      answered := by rw [houtcome, hanswer]
      asked := by
        rw [hafter, hbefore]
        decide +kernel
      kept := by decide +kernel }
  obtain ⟨hend, reported, hmem, -, -, htld, havailable, hreads⟩ :=
    hfound v List.mem_cons_self _ hasked
  obtain ⟨-, hreads, -⟩ := hreads _ hend (by
    rw [hafter]
    decide +kernel)
  obtain ⟨hit, hfinds, hcache, hsame⟩ := hreads (by decide +kernel)
  refine ⟨results, reported, hit, hresults, hmem, ?_, hfinds, hcache, ?_⟩
  · rw [htld, hv]
  · exact (congrArg CheckResult.available hsame).trans havailable

/-- The answer for a name with a dot is kept under a longer top-level domain than it has in the
report. -/
theorem reported_not_found_of_dotted :
    (surveyed "my.acme").1.map (List.map fun r => (r.name, r.tld, r.available)) =
        .ok [("my.acme.co.uk", some "co.uk", .available), ("my.acme", none, .available)] ∧
      ((Cache.get "my.acme.co.uk" .domain (some "co.uk") .epoch).run
        (surveyed "my.acme").2).1 = .ok none ∧
      ((Cache.get "my.acme.co.uk" .domain (some "acme.co.uk") .epoch).run
        (surveyed "my.acme").2).1.map (Option.map CheckResult.available) =
          .ok (some .available) := by
  decide +kernel

end Survey

end NameScout
