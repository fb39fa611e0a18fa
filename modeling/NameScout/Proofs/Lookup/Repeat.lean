import NameScout.Proofs.Lookup.Backoff
import NameScout.Proofs.Lookup.Later
import NameScout.Proofs.Lookup.Tld

namespace NameScout

open Text

namespace Lookup

variable {l : Lookup} {name e : String} {r : CheckResult}

/-- What the answers to a name have in common, whatever the reply was. -/
structure Answers (l : Lookup) (name : String) (r : CheckResult) : Prop where
  name_eq : r.name = name
  checkType_eq : r.checkType = l.checkType
  tld_eq : r.tld = (l.tldOf name).map lowerAscii
  storable : Json.isStorable Json.maxDepth (.object r.extraData) = true

namespace Answers

theorem result (l : Lookup) (name : String) (outcome : Availability) (e : String) :
    l.Answers name (l.result name outcome e) :=
  ⟨rfl, rfl, rfl, rfl⟩

theorem withMessage (h : l.Answers name r) (message : String) :
    l.Answers name (r.withMessage message) :=
  ⟨h.name_eq, h.checkType_eq, h.tld_eq, h.storable⟩

theorem withStatusCode (h : l.Answers name r) (code : UInt16) :
    l.Answers name (r.withStatusCode code) :=
  ⟨h.name_eq, h.checkType_eq, h.tld_eq, h.storable⟩

theorem withExtra (h : l.Answers name r) (hnone : r.extraData = []) (k : String) {n : Int}
    (hleast : -9223372036854775808 ≤ n) (hmost : n ≤ 9223372036854775807) :
    l.Answers name (r.withExtra k (.int n)) := by
  refine ⟨h.name_eq, h.checkType_eq, h.tld_eq, ?_⟩
  have hextra : (r.withExtra k (.int n)).extraData = [(k, .int n)] := by
    rw [CheckResult.withExtra, hnone]
    rfl
  have hint : n ≤ Json.maxUnsigned := Int.le_trans hmost (by decide)
  rw [hextra]
  simp [Json.isStorable, Json.allMembersStorable, Json.maxDepth, hleast, hint]

end Answers

theorem wholeSeconds_ofSeconds (n : Int) : (Duration.ofSeconds n).wholeSeconds = n := by
  rw [Duration.wholeSeconds, Duration.ofSeconds]
  exact Int.mul_tdiv_cancel n (by decide)

theorem answers_answer (l : Lookup) (name e : String) (reply : Http.Reply) :
    l.Answers name (l.answer name e reply) := by
  obtain ⟨n, hbackoff, hpos, hle⟩ := exists_seconds_backoffOf reply
  rw [answer]
  refine Answers.withStatusCode ?_ reply.status
  split
  · exact (Answers.result l name _ e).withMessage _
  split
  · rw [hbackoff, wholeSeconds_ofSeconds]
    exact ((Answers.result l name _ e).withMessage _).withExtra rfl _ (by omega) (by omega)
  split <;> exact (Answers.result l name _ e).withMessage _

section Entries

variable {ttl : Duration} {now later : Instant} {t : Tables}

theorem Answers.key_eq (h : l.Answers name r) :
    Cache.key name r.checkType r.tld = Cache.key name l.checkType (l.tldOf name) := by
  rw [Cache.key, Cache.key, h.checkType_eq, h.tld_eq, CheckType.normalizeTld_map_lowerAscii]

theorem Answers.toResult_toEntry (h : l.Answers name r)
    (hsupports : l.checkType.supports name = true) (ttl : Duration) (now later : Instant) :
    { Cache.toResult (Cache.toEntry name r ttl now) later with provenance := r.provenance } = r := by
  have htld : (Cache.toEntry name r ttl now).tld = l.checkType.normalizeTld (l.tldOf name) :=
    congrArg CacheKey.tld h.key_eq
  rw [Cache.toResult, htld, ← map_lowerAscii_tldOf hsupports, ← h.tld_eq]
  simp only [Cache.toEntry, Cache.extraData_compact h.storable, ← h.name_eq]

theorem entries_counted (l : Lookup) (e : String) (now : Instant) (t : Tables) :
    (l.counted e now t).entries = t.entries := by
  rw [counted]
  cases l.limiter <;> rfl

theorem entries_noted (l : Lookup) (e : String) (reply : Http.Reply) (now : Instant)
    (t : Tables) : (l.noted e reply now t).entries = t.entries := by
  rw [noted]
  split <;> rfl

theorem get?_kept {settings : TtlSettings} (hcache : l.cache = some settings) (r : CheckResult)
    (now : Instant) (t : Tables) (k : CacheKey) : (l.kept name r now t).entries.get? k =
      if k = Cache.key name r.checkType r.tld ∧ .zero < settings.ttlFor r.available
      then some (Cache.toEntry name r (settings.ttlFor r.available) now)
      else t.entries.get? k := by
  rw [kept, hcache, Option.elim_some]
  by_cases hnone : settings.ttlFor r.available ≤ .zero
  · rw [if_pos hnone, if_neg fun h => Duration.not_le.mpr h.2 hnone]
  · have hkey : (Cache.toEntry name r (settings.ttlFor r.available) now).key =
        Cache.key name r.checkType r.tld := rfl
    rw [if_neg hnone, Tables.putEntry, Table.get?_insert, hkey]
    simp only [Duration.not_le.mp hnone, and_true]

theorem get?_kept_of_ne_key {k : CacheKey} (h : k ≠ Cache.key name r.checkType r.tld)
    (l : Lookup) (now : Instant) (t : Tables) :
    (l.kept name r now t).entries.get? k = t.entries.get? k := by
  cases hcache : l.cache with
  | none =>
      rw [kept, hcache]
      rfl
  | some settings => rw [get?_kept hcache, if_neg fun heq => h heq.1]

theorem get?_kept_of_ne {k : CacheKey} (h : k.name ≠ name ∨ k.checkType ≠ r.checkType)
    (l : Lookup) (now : Instant) (t : Tables) :
    (l.kept name r now t).entries.get? k = t.entries.get? k := by
  refine get?_kept_of_ne_key ?_ l now t
  rintro rfl
  exact h.elim (fun hname => hname rfl) fun htype => htype rfl

theorem live?_of_get? {k : CacheKey} {entry : Entry} (hentry : t.entries.get? k = some entry)
    (hlive : now < entry.expiresAt) : t.live? k now = some entry := by
  have hisLive : entry.isLive now = true := decide_eq_true hlive
  rw [Tables.live?, hentry, Option.filter_some, if_pos hisLive]

theorem hit?_of_get? (hcache : l.cache.isSome = true) {entry : Entry}
    (hentry : t.entries.get? (Cache.key name l.checkType (l.tldOf name)) = some entry)
    (hlive : now < entry.expiresAt) : l.hit? name now t = some (Cache.toResult entry now) := by
  obtain ⟨settings, hsettings⟩ := Option.isSome_iff_exists.mp hcache
  rw [hit?, hsettings, Option.bind_some, live?_of_get? hentry hlive, Option.map_some]

end Entries

end Lookup

namespace Wired

variable {σ : Type} [Clock σ] [Http.Network σ] {w : Wired σ} {l l' : Lookup}
  {name name' : String} {s s' : σ} {replied : Except Failure (Option Http.Reply) × σ}
  {outcome : Except Failure CheckResult} {entry : Entry}

theorem Course.of_hit? {r : CheckResult} (h : w.Course l name s replied (outcome, s'))
    (hhit : l.hit? name (Clock.now s) (w.view.tables s) = some r) :
    outcome = .ok r ∧ w.Still s s' ∧ w.view.tables s' = w.view.tables s := by
  cases h with
  | found hit still tables =>
      rw [hit] at hhit
      cases hhit
      exact ⟨rfl, still, tables⟩
  | unaskable missed | heldBack missed | failed missed | answered missed =>
      rw [missed] at hhit
      cases hhit

theorem Course.get?_of_live (h : w.Course l' name' s replied (outcome, s'))
    (hentry : (w.view.tables s).entries.get? (Cache.key name l.checkType (l.tldOf name)) =
      some entry) (hlive : Clock.now s < entry.expiresAt) :
    (w.view.tables s').entries.get? (Cache.key name l.checkType (l.tldOf name)) = some entry := by
  cases h with
  | found hit still tables | unaskable missed url still tables
  | heldBack missed url_eq denied still tables =>
      rw [tables]
      exact hentry
  | failed missed url_eq allowed sent chain tables =>
      rw [tables, Lookup.entries_counted]
      exact hentry
  | @answered url reply _ _ _ missed url_eq allowed sent chain noticed tables =>
      rw [tables]
      cases hcache : l'.cache with
      | none =>
          rw [Lookup.kept, hcache, Option.elim_none, Lookup.entries_noted, Lookup.entries_counted]
          exact hentry
      | some settings =>
          have hother : name ≠ name' ∨ l.checkType ≠ l'.checkType := by
            refine Classical.or_iff_not_imp_left.mpr fun hname htype => ?_
            obtain rfl := Classical.not_not.mp hname
            rw [htype, ← Lookup.tldOf_congr htype.symm] at hentry
            have hhit := Lookup.hit?_of_get? (by rw [hcache]; rfl) hentry hlive
            rw [missed] at hhit
            cases hhit
          rw [Lookup.get?_kept_of_ne, Lookup.entries_noted, Lookup.entries_counted]
          · exact hentry
          · rw [(l'.answers_answer name' _ reply).checkType_eq]
            exact hother

theorem Course.exists_kept {r : CheckResult} (h : w.Course l name s replied (.ok r, s'))
    (hasked : w.seen s' ≠ w.seen s) {settings : TtlSettings} (hcache : l.cache = some settings)
    (hpos : .zero < settings.ttlFor r.available) : w.view.Sound s' ∧ l.Answers name r ∧
      (w.view.tables s').entries.get? (Cache.key name l.checkType (l.tldOf name)) =
        some (Cache.toEntry name r (settings.ttlFor r.available) (Clock.now s')) := by
  cases h with
  | found hit still | heldBack missed url_eq denied still => exact absurd still.seen_eq hasked
  | @answered url reply _ _ _ missed url_eq allowed sent chain noticed tables =>
      have hanswers := l.answers_answer name (url.host?.getD "") reply
      refine ⟨sent.sound, hanswers, ?_⟩
      rw [tables, Lookup.get?_kept hcache, if_pos ⟨hanswers.key_eq.symm, hpos⟩]

section Repeat

variable [Store σ]

theorem Course.stays {r : CheckResult} (hcourse : w.Course l name s replied (.ok r, s'))
    (h : w.Lawful) {settings : TtlSettings} (hcache : l.cache = some settings)
    (hasked : w.seen s' ≠ w.seen s) (hpos : .zero < settings.ttlFor r.available) {s₂ : σ}
    (hlater : w.Later s' s₂)
    (hbefore : Clock.now s₂ < (Clock.now s').addOrMax (settings.ttlFor r.available)) :
    w.view.Sound s₂ ∧ l.Answers name r ∧
      (w.view.tables s₂).entries.get? (Cache.key name l.checkType (l.tldOf name)) =
        some (Cache.toEntry name r (settings.ttlFor r.available) (Clock.now s')) := by
  obtain ⟨hsound, hanswers, hkept⟩ := hcourse.exists_kept hasked hcache hpos
  exact ⟨hlater.sound h hsound, hanswers, hlater.keeps h hsound
    (P := fun t => t.entries.get? (Cache.key name l.checkType (l.tldOf name)) =
      some (Cache.toEntry name r (settings.ttlFor r.available) (Clock.now s')))
    (fun hcourse' hlive hentry => hcourse'.get?_of_live hentry hlive) hkept hbefore⟩

/-- A name that a lookup has asked for and got an answer to is not asked for again as long as the
answer is kept. Every later check of the name finds all that the answer said and changes nothing,
whatever other checks there were before it. -/
theorem cached_like_live (h : w.Lawful) (hs : w.view.Sound s)
    (hsupports : l.checkType.supports name = true) {settings : TtlSettings}
    (hcache : l.cache = some settings) {r : CheckResult}
    (hcheck : (l.check name).run s = (.ok r, s')) (hasked : w.seen s' ≠ w.seen s)
    (hpos : .zero < settings.ttlFor r.available) {s₂ : σ} (hlater : w.Later s' s₂)
    (hbefore : Clock.now s₂ < (Clock.now s').addOrMax (settings.ttlFor r.available))
    (hsame : l'.checkType = l.checkType) (hcache' : l'.cache.isSome = true) :
    ∃ hit s₃, (l'.check name).run s₂ = (.ok hit, s₃) ∧ w.Still s₂ s₃ ∧
      w.view.tables s₃ = w.view.tables s₂ ∧ hit.provenance.fromCache = true ∧
      { hit with provenance := r.provenance } = r := by
  have hcourse := h.course l name hs
  rw [hcheck] at hcourse
  obtain ⟨hsound, hanswers, hstays⟩ :=
    hcourse.stays h hcache hasked hpos hlater hbefore
  rw [← Lookup.tldOf_congr hsame, ← hsame] at hstays
  have hhit := Lookup.hit?_of_get? hcache' hstays hbefore
  obtain ⟨hok, hstill, htables⟩ := (h.course l' name hsound).of_hit? hhit
  exact ⟨_, _, Prod.ext hok rfl, hstill, htables, rfl,
    hanswers.toResult_toEntry hsupports _ _ _⟩

end Repeat

end Wired

namespace World

def patient : Lookup :=
  { checkType := .domain, template := "https://reg.test/" ++ placeholder, token := none
    userAgent := none, limiter := none
    cache := some { available := 0, taken := 0, unknown := 0, error := 0, rateLimited := 300 } }

def elsewhere : Lookup :=
  { patient with template := "https://mirror.test/" ++ placeholder, limiter := some oneAMinute }

def answered : World :=
  ((patient.check "Acme.Co.UK" : Effect World _).run refusing).2

/-- The last second of five minutes, with a check of another spelling of the name in between. -/
def lastSecond : World :=
  ((elsewhere.check "acme.co.uk" : Effect World _).run answered).2.waited
    (Instant.epoch.addOrMax (.ofSeconds 299))

theorem cached_like_live_refusal :
    ∃ hit s, (elsewhere.check "Acme.Co.UK").run lastSecond = (.ok hit, s) ∧
      s.wire.seen.map (·.url.text) = ["https://reg.test/Acme.Co.UK", "https://mirror.test/acme.co.uk"] ∧
      hit.provenance.fromCache = true ∧ hit.tld = some "co.uk" ∧ hit.statusCode = some 429 ∧
      hit.extraData = [("retry_after_secs", .int 120)] := by
  let w := wired fun _ => True
  have hsound : w.view.Sound refusing := ⟨⟨.empty, rfl⟩, fun _ _ _ _ => trivial⟩
  have hcheck : (patient.check "Acme.Co.UK").run refusing =
      (.ok (patient.answer "Acme.Co.UK" "reg.test" refusal), answered) :=
    eq_mk_of_fst (by decide +kernel)
  have hanswered : w.Later refusing answered := .check .start patient "Acme.Co.UK"
  have hbetween : w.Later answered ((elsewhere.check "acme.co.uk").run answered).2 :=
    .check .start elsewhere "acme.co.uk"
  have hsound' := hanswered.sound lawful_wired hsound
  have hlater : w.Later answered lastSecond :=
    later_waited hbetween (hbetween.sound lawful_wired hsound') (by decide +kernel)
  obtain ⟨hit, s, hrun, hstill, -, hcache, hsame⟩ := Wired.cached_like_live (l := patient)
    lawful_wired hsound (by decide +kernel) rfl hcheck (by decide +kernel) (by decide +kernel)
    hlater (by decide +kernel) (by rfl : elsewhere.checkType = _) rfl
  have hseen : s.wire.seen = _ := hstill.seen_eq
  refine ⟨hit, s, hrun, ?_, hcache, ?_, ?_, ?_⟩
  · rw [hseen]
    decide +kernel
  · exact (congrArg CheckResult.tld hsame).trans (by decide +kernel)
  · exact (congrArg CheckResult.statusCode hsame).trans (by decide +kernel)
  · exact (congrArg CheckResult.extraData hsame).trans (by decide +kernel)

end World

end NameScout
