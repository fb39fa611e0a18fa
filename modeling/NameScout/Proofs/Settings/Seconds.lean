import NameScout.Proofs.Lookup.Wire
import NameScout.Proofs.RateLimit.Quota
import NameScout.Proofs.Time.Addition
import NameScout.Settings

namespace NameScout

namespace Duration

variable {n : UInt64}

theorem nanos_ofConfigured (n : UInt64) :
    (ofConfigured n).nanos = Min.min (n.toNat * 1000000000 : Int) max.nanos := by
  have hmin : min.nanos ≤ 0 := by decide
  rw [ofConfigured, ofSeconds?]
  by_cases h : (ofSeconds n.toNat).Representable
  · have hle : (n.toNat * 1000000000 : Int) ≤ max.nanos := h.2
    rw [if_pos h, Option.getD_some, Int.min_eq_left hle]
    rfl
  · have hlt : max.nanos < (n.toNat * 1000000000 : Int) := by
      refine Int.not_le.mp fun hle => h ⟨?_, hle⟩
      rw [le_iff]
      change min.nanos ≤ (n.toNat * 1000000000 : Int)
      omega
    rw [if_neg h, Option.getD_none, Int.min_eq_right (Int.le_of_lt hlt)]

theorem representable_ofConfigured (n : UInt64) : (ofConfigured n).Representable := by
  have hnanos := nanos_ofConfigured n
  have hmax : max.nanos = 9223372036854775807000000 := rfl
  have hmin : min.nanos = -9223372036854775807000000 := rfl
  refine ⟨?_, ?_⟩
  · rw [le_iff]
    omega
  · rw [le_iff]
    omega

theorem zero_lt_ofConfigured_iff : .zero < ofConfigured n ↔ 0 < n := by
  have hnanos := nanos_ofConfigured n
  have hmax : max.nanos = 9223372036854775807000000 := rfl
  have hzero : zero.nanos = 0 := rfl
  rw [lt_iff, UInt64.lt_iff_toNat_lt, UInt64.toNat_zero]
  omega

theorem ofConfigured_le_since_iff (n : UInt64) (t u : Instant) :
    ofConfigured n ≤ t - u ↔ (n.toNat * 1000000000 : Int) ≤ (t - u).nanos := by
  have hnanos := nanos_ofConfigured n
  have hmax : max.nanos = 9223372036854775807000000 := rfl
  have hle := Instant.since_le_ticks_add u t
  have hu := u.first_le_ticks
  have ht := t.le_last
  have htn := t.nano_lt
  rw [Instant.ticks] at hle
  rw [le_iff]
  omega

end Duration

namespace Instant

def addConfigured (now : Instant) (n : UInt64) : Instant :=
  now.addOrMax (.ofConfigured n)

variable {now : Instant} {n m : UInt64}

theorem ticks_addConfigured (hnow : now.inLeapSecond = false) (n : UInt64) :
    (now.addConfigured n).ticks = min (now.ticks + n.toNat * 1000000000) max.ticks ∧
      (now.addConfigured n).inLeapSecond = false := by
  have hnanos := Duration.nanos_ofConfigured n
  have hlimit : Duration.max.nanos = 9223372036854775807000000 := rfl
  have hmax : max.ticks = 8210266876799999999999 := rfl
  have hfirst := now.first_le_ticks
  obtain ⟨hticks, hnano⟩ := ticks_addOrMax (d := .ofConfigured n)
    (inLeapSecond_eq_false_iff.mp hnow) (by omega)
  rw [addConfigured]
  exact ⟨by omega, inLeapSecond_eq_false_iff.mpr hnano⟩

theorem addConfigured_mono (hnow : now.inLeapSecond = false) (h : n ≤ m) :
    now.addConfigured n ≤ now.addConfigured m := by
  obtain ⟨hn, hnleap⟩ := ticks_addConfigured hnow n
  obtain ⟨hm, hmleap⟩ := ticks_addConfigured hnow m
  have hle : n.toNat ≤ m.toNat := h
  rw [le_iff_ticks (inLeapSecond_eq_false_iff.mp hnleap) (inLeapSecond_eq_false_iff.mp hmleap)]
  omega

theorem lt_addConfigured (hnow : now.inLeapSecond = false) (hlast : now < max) (hn : 0 < n) :
    now < now.addConfigured n := by
  obtain ⟨hticks, hleap⟩ := ticks_addConfigured hnow n
  have hpos : 0 < n.toNat := hn
  rw [inLeapSecond_eq_false_iff] at hnow hleap
  rw [lt_iff_ticks hnow (by decide)] at hlast
  rw [lt_iff_ticks hnow hleap]
  omega

end Instant

theorem Limiter.withMargin_of_check {factor : Float} (h : checkMargin factor = .ok ())
    (l : Limiter) : ∃ l', l.withMargin factor = .ok l' ∧ l'.window = l.window := by
  rw [withMargin, h]
  exact ⟨_, rfl, rfl⟩

namespace LimitSettings

variable {settings : LimitSettings} {l : Limiter}

theorem check_eq_ok_iff : settings.check = .ok () ↔ settings.windowSeconds ≠ 0 ∧
    settings.defaultLimit ≠ 0 ∧ settings.overrides.toList.find? (·.2 = 0) = none ∧
      Limiter.checkMargin settings.margin = .ok () := by
  by_cases hwindow : settings.windowSeconds = 0
  · have hcheck : settings.check = .error (.config .zeroWindow) := by
      rw [check, if_pos hwindow]
      rfl
    rw [hcheck]
    exact ⟨nofun, fun h => absurd hwindow h.1⟩
  by_cases hlimit : settings.defaultLimit = 0
  · have hcheck : settings.check = .error (.config .zeroDefaultLimit) := by
      rw [check, if_neg hwindow, if_pos hlimit]
      rfl
    rw [hcheck]
    exact ⟨nofun, fun h => absurd hlimit h.2.1⟩
  cases hfind : settings.overrides.toList.find? (·.2 = 0) with
  | some entry =>
      have hcheck : settings.check = .error (.config (.zeroOverride entry.1)) := by
        rw [check, if_neg hwindow, if_neg hlimit, hfind]
        rfl
      rw [hcheck]
      exact ⟨nofun, fun h => nomatch h.2.2.1⟩
  | none =>
      have hcheck : settings.check = Limiter.checkMargin settings.margin := by
        rw [check, if_neg hwindow, if_neg hlimit, hfind]
      rw [hcheck]
      exact ⟨fun h => ⟨hwindow, hlimit, rfl, h⟩, fun h => h.2.2.2⟩

theorem check_withWindow (h : settings.check = .ok ()) {n : UInt64} (hn : 0 < n) :
    { settings with windowSeconds := n }.check = .ok () := by
  rw [check_eq_ok_iff] at h ⊢
  exact ⟨UInt64.pos_iff_ne_zero.mp hn, h.2⟩

theorem limiter_of_check (h : settings.check = .ok ()) :
    ∃ l, settings.limiter = .ok l ∧ l.window = settings.window := by
  obtain ⟨l, hl, hwindow⟩ := Limiter.withMargin_of_check (check_eq_ok_iff.mp h).2.2.2
    ((Limiter.new settings.window settings.defaultLimit).withOverrides settings.overrides.toList)
  refine ⟨l, ?_, hwindow⟩
  rw [limiter, h]
  exact hl

end LimitSettings

namespace Limiter

variable {l : Limiter} {n : UInt64}

theorem counted_of_configured (hwindow : l.window = .ofConfigured n) (hn : 0 < n) (e : String)
    (row : Row) (t : Instant) : l.counted e (some row) t =
      if (n.toNat * 1000000000 : Int) ≤ (t - row.windowStart).nanos then
        { row with windowStart := t, requestCount := 1 }
      else { row with requestCount := Row.countOne row.requestCount } := by
  have hpos : .zero < l.window := by
    rw [hwindow]
    exact Duration.zero_lt_ofConfigured_iff.mpr hn
  have hiff := (le_elapsed_iff hpos row t).trans
    (hwindow ▸ Duration.ofConfigured_le_since_iff n t row.windowStart)
  simp only [counted, Option.getD_some, hiff]

end Limiter

section Kept

variable {σ : Type} [Store σ] {v : StoreView σ} {s : σ}

theorem Limiter.run_record (hv : v.Reliable) (hs : v.Sound s) (l : Limiter) (e : String)
    (t : Instant) : ∃ s', (l.record e t).run s = (.ok (), s') ∧ v.Sound s' ∧
      v.tables s' = (v.tables s).putRow e (l.counted e ((v.tables s).row? e) t) :=
  Call.follows_record hv l e t s hs

theorem Cache.kept_for_configured (hv : v.Reliable) (hs : v.Sound s) (ttl : TtlSettings)
    (outcome : Availability) (name : String) (r : CheckResult) {now : Instant}
    (hnow : now.inLeapSecond = false) (hlast : now < .max) :
    ∃ s', (Cache.set name r (ttl.ttlFor outcome) now).run s = (.ok (), s') ∧
      (ttl.secondsFor outcome = 0 → v.tables s' = v.tables s) ∧
      (0 < ttl.secondsFor outcome → ∃ entry,
        (v.tables s').live? (Cache.key name r.checkType r.tld) now = some entry ∧
        entry.expiresAt = now.addConfigured (ttl.secondsFor outcome)) := by
  obtain ⟨s', hset, -, htables⟩ := Cache.follows_set hv name r (ttl.ttlFor outcome) now s hs
  rw [Cache.run_set] at hset htables
  have hkept : .zero < ttl.ttlFor outcome ↔ 0 < ttl.secondsFor outcome :=
    Duration.zero_lt_ofConfigured_iff
  refine ⟨s', hset, fun hzero => ?_, fun hpos => ?_⟩
  · have hle : ttl.ttlFor outcome ≤ .zero := by
      refine Int.not_lt.mp fun hlt => ?_
      have hpos := hkept.mp hlt
      rw [hzero] at hpos
      exact absurd hpos (by decide)
    simpa only [if_pos hle] using htables
  · simp only [if_neg (Duration.not_le.mpr (hkept.mpr hpos))] at htables
    refine ⟨Cache.toEntry name r (ttl.ttlFor outcome) now, ?_, rfl⟩
    rw [htables]
    exact live?_putEntry_self _ (isLive_toEntry (Instant.lt_addConfigured hnow hlast hpos))

end Kept

/-- Configured numbers of seconds count exactly, up to the last moment and the longest span: an
answer is kept for just so long, and a window lasts just so long. -/
theorem configured_seconds_are_exact {σ : Type} [Store σ] {v : StoreView σ} (hv : v.Reliable)
    {s : σ} (hs : v.Sound s) :
    (∀ n, (Duration.ofConfigured n).Representable ∧
      (Duration.ofConfigured n).nanos = min (n.toNat * 1000000000 : Int) Duration.max.nanos) ∧
    (∀ now : Instant, now.inLeapSecond = false →
      (∀ n, (now.addConfigured n).inLeapSecond = false ∧ (now.addConfigured n).ticks =
        min (now.ticks + n.toNat * 1000000000) Instant.max.ticks) ∧
      (∀ n m, n ≤ m → now.addConfigured n ≤ now.addConfigured m) ∧
      (now < .max → ∀ n, 0 < n → now < now.addConfigured n)) ∧
    (∀ (ttl : TtlSettings) (outcome : Availability) (name : String) (r : CheckResult)
      (now : Instant), now.inLeapSecond = false → now < .max →
      ∃ s', (Cache.set name r (ttl.ttlFor outcome) now).run s = (.ok (), s') ∧
        (ttl.secondsFor outcome = 0 → v.tables s' = v.tables s) ∧
        (0 < ttl.secondsFor outcome → ∃ entry,
          (v.tables s').live? (Cache.key name r.checkType r.tld) now = some entry ∧
          entry.expiresAt = now.addConfigured (ttl.secondsFor outcome))) ∧
    (∀ settings : LimitSettings, settings.check = .ok () → ∀ n, 0 < n →
      ∃ l, { settings with windowSeconds := n }.limiter = .ok l ∧
        ∀ e t row, (v.tables s).row? e = some row →
          ∃ s', (l.record e t).run s = (.ok (), s') ∧
            (v.tables s').row? e = some
              (if (n.toNat * 1000000000 : Int) ≤ (t - row.windowStart).nanos then
                { row with windowStart := t, requestCount := 1 }
              else { row with requestCount := Row.countOne row.requestCount }) ∧
            (t - row.windowStart).Representable ∧
            (row.windowStart.inLeapSecond = false → t.inLeapSecond = false →
              (t - row.windowStart).nanos = t.ticks - row.windowStart.ticks)) := by
  refine ⟨fun n => ⟨Duration.representable_ofConfigured n, Duration.nanos_ofConfigured n⟩,
    fun now hnow => ⟨fun n => (Instant.ticks_addConfigured hnow n).symm,
      fun n m => Instant.addConfigured_mono hnow,
      fun hlast n => Instant.lt_addConfigured hnow hlast⟩,
    fun ttl outcome name r now => Cache.kept_for_configured hv hs ttl outcome name r,
    fun settings hcheck n hn => ?_⟩
  have hcheck' := LimitSettings.check_withWindow hcheck hn
  obtain ⟨l, hl, hwindow⟩ := LimitSettings.limiter_of_check hcheck'
  refine ⟨l, hl, fun e t row hrow => ?_⟩
  obtain ⟨s', hrun, -, htables⟩ := Limiter.run_record hv hs l e t
  refine ⟨s', hrun, ?_, Instant.representable_since t row.windowStart, fun hstart ht => ?_⟩
  · rw [htables, Tables.row?_putRow, if_pos rfl, hrow, Limiter.counted_of_configured hwindow hn]
  · rw [Instant.inLeapSecond_eq_false_iff] at hstart ht
    exact Instant.nanos_since ht hstart

def largestTtl : TtlSettings :=
  { TtlSettings.disabled with taken := 18446744073709551615 }

def rowFromEpoch : Row :=
  Row.new "pypi.org" .epoch

def oneMinuteLater : Instant :=
  Instant.epoch.addOrMax (.ofSeconds 60)

/-- The largest number of seconds reaches the last moment, and a minute is over after a minute. -/
theorem configured_seconds_are_exact_largest :
    (∃ t entry, (Cache.set "acme" (CheckResult.new "acme" .npm .taken) (largestTtl.ttlFor .taken)
        .epoch : Effect Tables _).run (Tables.empty.putRow "pypi.org" rowFromEpoch) = (.ok (), t) ∧
      t.live? (Cache.key "acme" .npm none) .epoch = some entry ∧
      entry.expiresAt.ticks = Instant.max.ticks) ∧
    ∃ l t, { LimitSettings.standard with windowSeconds := 60 }.limiter = .ok l ∧
      (l.record "pypi.org" oneMinuteLater).run (Tables.empty.putRow "pypi.org" rowFromEpoch) =
        (.ok (), t) ∧
      t.row? "pypi.org" =
        some { rowFromEpoch with windowStart := oneMinuteLater, requestCount := 1 } := by
  obtain ⟨-, htime, hcache, hlimits⟩ := configured_seconds_are_exact StoreView.reliable_memory
    (s := Tables.empty.putRow "pypi.org" rowFromEpoch) trivial
  obtain ⟨t, hset, -, hkept⟩ := hcache largestTtl .taken "acme" (CheckResult.new "acme" .npm .taken)
    .epoch rfl (by decide)
  obtain ⟨entry, hlive, hexpires⟩ := hkept (by decide)
  have hticks := ((htime .epoch rfl).1 18446744073709551615).2
  obtain ⟨l, hl, hrecord⟩ := hlimits .standard (by rfl) 60 (by decide)
  obtain ⟨t', hrun, hrow, -⟩ := hrecord "pypi.org" oneMinuteLater rowFromEpoch rfl
  refine ⟨⟨t, entry, hset, hlive, ?_⟩, l, t', hl, hrun, ?_⟩
  · rw [hexpires]
    exact hticks.trans (by decide)
  · exact hrow.trans (by decide)

end NameScout
