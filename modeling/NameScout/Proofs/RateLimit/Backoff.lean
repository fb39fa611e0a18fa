import NameScout.Proofs.RateLimit.Waiting
import NameScout.Proofs.Time.Nearest

namespace NameScout

def Row.refusedUntil (row : Row) (now ends : Instant) : Row :=
  { row with backoffUntil := some ends, last429At := some now }

namespace Limiter

variable {row : Row} {now ends : Instant}

theorem decide_refusedUntil_of_lt (l : Limiter) (e : String) (h : now < ends) :
    l.decide e (some (row.refusedUntil now ends)) now = .denied (ends - now) :=
  decide_of_backoff l e rfl h

theorem decide_refusedUntil_of_le (l : Limiter) (e : String) (h : ends ≤ now) :
    l.decide e (some (row.refusedUntil now ends)) now =
      l.decide e (some { row with backoffUntil := none }) now := by
  have hpast : ∀ u, (row.refusedUntil now ends).backoffUntil = some u → u ≤ now := by
    rintro u ⟨rfl⟩
    exact h
  have hnone : ∀ u, { row with backoffUntil := none }.backoffUntil = some u → u ≤ now := by
    intro u hu
    cases hu
  rw [decide_of_no_backoff l e hpast, decide_of_no_backoff l e hnone]
  rfl

theorem inBackoff_refusedUntil_iff : (row.refusedUntil now ends).inBackoff now = true ↔
    now < ends :=
  decide_eq_true_iff

section Kept

variable {σ : Type} [Store σ] {v : StoreView σ} {s : σ}

theorem run_recordRefusal (hv : v.Reliable) (hs : v.Sound s) (e : String) (b : Duration)
    (now : Instant) : ∃ s', (recordRefusal e b now).run s = (.ok (), s') ∧
      v.Keeps e ((((v.tables s).row? e).getD (Row.new e now)).refusedUntil now (now.addOrMax b)) s' ∧
      ∀ k, k ≠ e → (v.tables s').row? k = (v.tables s).row? k := by
  obtain ⟨s', hrun, hs', htables⟩ := Call.follows_recordRefusal hv e b now s hs
  have hrow : v.tables s' = (v.tables s).putRow e (blocked e ((v.tables s).row? e) now b) := htables
  refine ⟨s', hrun, ⟨hs', ?_⟩, fun k hk => ?_⟩
  · rw [hrow, Tables.row?_putRow, if_pos rfl]
    rfl
  · rw [hrow, Tables.row?_putRow, if_neg hk]

/-- A refusal blocks until the representable moment nearest to the end of the backoff, whatever
the row was before; only a backoff that ends before the first moment blocks until the last. -/
theorem refusal_ends_at_nearest (hv : v.Reliable) (hs : v.Sound s) (e : String) (now : Instant) :
    ∃ ends : Duration → Instant,
      (∀ b, ∃ s', (recordRefusal e b now).run s = (.ok (), s') ∧
        v.Keeps e ((((v.tables s).row? e).getD (Row.new e now)).refusedUntil now (ends b)) s' ∧
        (∀ k, k ≠ e → (v.tables s').row? k = (v.tables s).row? k) ∧
        ∀ l : Limiter, ∃ a s'', (l.allow e now).run s' = (.ok a, s'') ∧
          (now < ends b → a = .denied (ends b - now)) ∧
          (ends b ≤ now → a = l.decide e
            (some { ((v.tables s).row? e).getD (Row.new e now) with backoffUntil := none }) now)) ∧
      (∀ b, ∀ u : Instant, u.Fits now.ownLeap →
        u.position now.ownLeap = now.ticks + b.nanos → ends b = u) ∧
      (∀ b, (∀ u : Instant, u.Fits now.ownLeap → u.position now.ownLeap ≠ now.ticks + b.nanos) →
        ends b = .max) ∧
      (now ≤ .max →
        (∀ b, Instant.first.ticks ≤ now.ticks + b.nanos →
          Instant.IsNearest now.ownLeap (now.ticks + b.nanos) (ends b)) ∧
        (∀ b b', b ≤ b' → Instant.first.ticks ≤ now.ticks + b.nanos → ends b ≤ ends b') ∧
        ∀ b row, (Row.refusedUntil row now (ends b)).inBackoff now = true ↔
          now < .max ∧ (.zero < b ∨ now.ticks + b.nanos < Instant.first.ticks)) := by
  refine ⟨now.addOrMax, fun b => ?_, fun b u => Instant.addOrMax_of_exact,
    fun b => Instant.addOrMax_of_none, fun hnow => ⟨fun b => Instant.nearest_addOrMax hnow,
      fun b b' => Instant.addOrMax_mono hnow, fun b row => ?_⟩⟩
  · obtain ⟨s', hrun, hkeeps, hothers⟩ := run_recordRefusal hv hs e b now
    refine ⟨s', hrun, hkeeps, hothers, fun l => ?_⟩
    obtain ⟨s'', hallow, -⟩ := run_allow hv l now hkeeps
    exact ⟨_, s'', hallow, decide_refusedUntil_of_lt l e, decide_refusedUntil_of_le l e⟩
  · rw [inBackoff_refusedUntil_iff, Instant.lt_addOrMax_iff hnow]

end Kept

theorem refusal_ends_at_nearest_oneMinute : ∃ t u,
    (recordRefusal "pypi.org" (.ofSeconds 60) .epoch : Effect Tables _).run .empty = (.ok (), t) ∧
      StoreView.memory.Keeps "pypi.org" ((Row.new "pypi.org" .epoch).refusedUntil .epoch u) t ∧
      u.ticks = 60000000000 := by
  obtain ⟨ends, hruns, hexact, -⟩ := refusal_ends_at_nearest StoreView.reliable_memory
    (s := Tables.empty) trivial "pypi.org" .epoch
  obtain ⟨t, hrun, hkeeps, -⟩ := hruns (.ofSeconds 60)
  have hminute := hexact (.ofSeconds 60) { second := 60, nano := 0 }
    (Instant.fits_of_ordinary (by decide) _) (by decide +kernel)
  rw [hminute] at hkeeps
  exact ⟨t, _, hrun, hkeeps, rfl⟩

/-- A backoff that ends before the first moment is no backoff at all, and blocks for ever. -/
theorem refusal_blocks_on_underflow : (Duration.min < .zero ∧
    (blocked "pypi.org" none .epoch .min).backoffUntil = some .max) ∧
      ¬ Instant.IsNearest Instant.epoch.ownLeap (Instant.epoch.ticks + Duration.min.nanos) .max ∧
      ((new (.ofSeconds 60) 10).decide "pypi.org" (some (blocked "pypi.org" none .epoch .min))
        .epoch).isAllowed = false := by
  refine ⟨by decide, fun hnearest => ?_, by decide⟩
  have hle := hnearest.2 .first (Instant.fits_of_ordinary (by decide) _)
  exact absurd hle (by decide +kernel)

end Limiter

end NameScout
