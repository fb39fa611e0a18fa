import NameScout.Proofs.Time.Addition

namespace NameScout

theorem Duration.wholeSeconds_add_subsecond (d : Duration) :
    d.wholeSeconds * 1000000000 + d.subsecond = d.nanos ∧
      -1000000000 < d.subsecond ∧ d.subsecond < 1000000000 ∧
      (0 ≤ d.nanos → 0 ≤ d.subsecond) ∧ (d.nanos ≤ 0 → d.subsecond ≤ 0) := by
  have hsum : d.wholeSeconds * 1000000000 + d.subsecond = d.nanos :=
    Int.tdiv_mul_add_tmod d.nanos 1000000000
  have hlt : d.subsecond < 1000000000 := Int.tmod_lt_of_pos d.nanos (by decide)
  have hgt : -1000000000 < d.subsecond := Int.lt_tmod_of_pos d.nanos (by decide)
  refine ⟨hsum, hgt, hlt, fun h => Int.tmod_nonneg _ h, fun h => ?_⟩
  have hneg : (-d.nanos).tmod 1000000000 = -d.subsecond := Int.neg_tmod ..
  have := Int.tmod_nonneg 1000000000 (Int.neg_nonneg_of_nonpos h)
  omega

namespace Instant

def first : Instant :=
  (of? (-8334601228800) 0).getD epoch

/-- The leap second that a moment lies in, if any: the one that counts when time is added. -/
def ownLeap (t : Instant) : Finset Int :=
  if t.inLeapSecond then {t.second} else ∅

variable {t u w : Instant} {d d' : Duration} {leaps : Finset Int}

section Position

theorem fits_of_ordinary (ht : t.nano < 1000000000) (leaps : Finset Int) : t.Fits leaps := by
  intro hleap
  rw [inLeapSecond_eq_false_iff.mpr ht] at hleap
  cases hleap

theorem fits_max (leaps : Finset Int) : max.Fits leaps :=
  fits_of_ordinary (by decide) leaps

theorem fits_ownLeap (t : Instant) : t.Fits t.ownLeap := by
  intro hleap
  rw [ownLeap, if_pos hleap]
  exact Finset.mem_singleton_self _

theorem position_le_iff (hu : u.Fits leaps) (ht : t.Fits leaps) :
    u.position leaps ≤ t.position leaps ↔ u ≤ t := by
  refine ⟨fun h hlt => ?_, position_mono hu⟩
  have := position_lt ht hlt
  omega

theorem position_lt_iff (hu : u.Fits leaps) (ht : t.Fits leaps) :
    u.position leaps < t.position leaps ↔ u < t := by
  refine ⟨fun h => ?_, position_lt hu⟩
  by_contra hle
  have := position_mono ht hle
  omega

theorem position_inj (hu : u.Fits leaps) (ht : t.Fits leaps)
    (h : u.position leaps = t.position leaps) : u = t :=
  le_antisymm ((position_le_iff hu ht).mp h.le) ((position_le_iff ht hu).mp h.ge)

theorem position_ownLeap (t w : Instant) : w.position t.ownLeap =
    if t.inLeapSecond = true ∧ t.second < w.second then w.ticks + 1000000000 else w.ticks := by
  rw [position, ownLeap]
  by_cases hleap : t.inLeapSecond = true
  · by_cases hlt : t.second < w.second
    · simp [hleap, hlt, Finset.filter_singleton]
    · simp [hleap, hlt, Finset.filter_singleton]
  · simp [hleap]

theorem position_self (t : Instant) : t.position t.ownLeap = t.ticks := by
  rw [position_ownLeap, if_neg]
  omega

theorem fits_ownLeap_iff : w.Fits t.ownLeap ↔
    w.nano < 1000000000 ∨ (t.inLeapSecond = true ∧ w.second = t.second) := by
  rw [Fits, ownLeap, ← inLeapSecond_eq_false_iff]
  cases w.inLeapSecond <;> cases t.inLeapSecond <;> simp

end Position

section Exact

theorem of?_of_valid {s : Int} {n : Nat} (hfirst : -8334601228800 ≤ s) (hlast : s ≤ 8210266876799)
    (hn : n < 2000000000) (hplace : n < 1000000000 ∨ s % 60 = 59) :
    ∃ u, of? s n = some u ∧ u.second = s ∧ u.nano = n :=
  ⟨⟨s, n, hfirst, hlast, hn, hplace⟩, dif_pos ⟨hfirst, hlast, hn, hplace⟩, rfl, rfl⟩

theorem add?_of_leap (ht : t.inLeapSecond = true) (d : Duration) : t.add? d =
    if t.ticks + d.nanos < (t.second + 1) * 1000000000 then ofTicks? (t.ticks + d.nanos)
    else if t.ticks + d.nanos < (t.second + 2) * 1000000000 then
      of? t.second (t.ticks + d.nanos - t.second * 1000000000).toNat
    else ofTicks? (t.ticks - 1000000000 + d.nanos) := by
  obtain ⟨hsum, hgt, hlt, hpos, hneg⟩ := d.wholeSeconds_add_subsecond
  have hnano : 1000000000 ≤ t.nano := by simpa [inLeapSecond] using ht
  have hnano' := t.nano_lt
  simp only [add?, ht, if_true]
  have hticks : t.ticks = t.second * 1000000000 + t.nano := rfl
  by_cases hend : t.ticks + d.nanos < (t.second + 2) * 1000000000
  · rw [if_neg (by omega)]
    by_cases hstart : t.ticks + d.nanos < (t.second + 1) * 1000000000
    · rw [if_pos hstart]
      by_cases hwhole : d.wholeSeconds < 0
      · rw [if_pos hwhole]
      · rw [if_neg hwhole, ofTicks?]
        congr 1
        · omega
        · omega
    · rw [if_neg hstart, if_pos hend, if_neg (by omega)]
      congr 2
      omega
  · rw [if_pos (by omega), if_neg (by omega), if_neg hend]

theorem add?_exact (h : t.add? d = some u) :
    u.Fits t.ownLeap ∧ u.position t.ownLeap = t.ticks + d.nanos := by
  rw [fits_ownLeap_iff, position_ownLeap]
  cases hleap : t.inLeapSecond with
  | false =>
      obtain ⟨hticks, hnano⟩ := add?_spec (inLeapSecond_eq_false_iff.mp hleap) h
      exact ⟨.inl hnano, by rw [if_neg (by simp), hticks]⟩
  | true =>
      have hsecond (hu : u.nano < 1000000000) : t.second < u.second ↔
          (t.second + 1) * 1000000000 ≤ u.ticks := by
        rw [ticks]
        omega
      rw [add?_of_leap hleap] at h
      split at h
      · obtain ⟨hticks, hnano⟩ := ofTicks?_spec h
        exact ⟨.inl hnano, by rw [if_neg (by have := hsecond hnano; omega), hticks]⟩
      split at h
      · obtain ⟨hsame, hnano⟩ := of?_eq_some h
        refine ⟨.inr ⟨rfl, hsame⟩, ?_⟩
        rw [if_neg (by omega), ticks, hsame, hnano]
        omega
      · obtain ⟨hticks, hnano⟩ := ofTicks?_spec h
        refine ⟨.inl hnano, ?_⟩
        rw [if_pos ⟨rfl, (hsecond hnano).mpr (by omega)⟩]
        omega

theorem first_le_position (t w : Instant) : first.ticks ≤ w.position t.ownLeap := by
  have hle := w.first_le_ticks
  have hfirst : first.ticks = -8334601228800000000000 := rfl
  rw [position_ownLeap]
  split <;> omega

theorem position_lt_of_add?_eq_none (h : t.add? d = none)
    (hfirst : first.ticks ≤ t.ticks + d.nanos) (hw : w.Fits t.ownLeap) :
    w.position t.ownLeap < t.ticks + d.nanos := by
  have hfirst' : first.ticks = -8334601228800000000000 := rfl
  have hmax : max.ticks = 8210266876799999999999 := rfl
  have hnano := w.nano_lt
  have hlast := w.le_last
  have hticks : w.ticks = w.second * 1000000000 + w.nano := rfl
  rw [fits_ownLeap_iff] at hw
  rw [position_ownLeap]
  cases hleap : t.inLeapSecond with
  | false =>
      rw [add?_of_ordinary (inLeapSecond_eq_false_iff.mp hleap)] at h
      have := lt_of_ofTicks?_eq_none h (by omega)
      simp only [hleap, Bool.false_eq_true, false_and, or_false] at hw
      rw [if_neg (by simp)]
      omega
  | true =>
      -- Sums before and within the leap second are representable, as its own second is.
      have htfirst := t.first_le
      have htlast := t.le_last
      rw [add?_of_leap hleap] at h
      split at h
      · have := lt_of_ofTicks?_eq_none h (by omega)
        omega
      split at h
      · have hplace : t.second % 60 = 59 := by
          have := t.leap_place
          have : 1000000000 ≤ t.nano := by simpa [inLeapSecond] using hleap
          omega
        obtain ⟨u, hu, -⟩ := of?_of_valid t.first_le htlast
          (n := (t.ticks + d.nanos - t.second * 1000000000).toNat) (by omega) (.inr hplace)
        rw [hu] at h
        cases h
      · have := lt_of_ofTicks?_eq_none h (by omega)
        simp only [hleap, true_and] at hw
        split <;> omega

theorem add?_eq_some_iff : t.add? d = some u ↔
    u.Fits t.ownLeap ∧ u.position t.ownLeap = t.ticks + d.nanos := by
  refine ⟨add?_exact, fun ⟨hfits, hposition⟩ => ?_⟩
  cases hsum : t.add? d with
  | some u' =>
      obtain ⟨hfits', hposition'⟩ := add?_exact hsum
      rw [position_inj hfits' hfits (hposition'.trans hposition.symm)]
  | none =>
      have hlow := first_le_position t u
      have := position_lt_of_add?_eq_none hsum (by omega) hfits
      omega

end Exact

section Nearest

/-- No moment of the time line is nearer to a position. -/
def IsNearest (leaps : Finset Int) (n : Int) (u : Instant) : Prop :=
  u.Fits leaps ∧ ∀ w : Instant, w.Fits leaps →
    (u.position leaps - n).natAbs ≤ (w.position leaps - n).natAbs

theorem addOrMax_of_exact (hu : u.Fits t.ownLeap)
    (h : u.position t.ownLeap = t.ticks + d.nanos) : t.addOrMax d = u := by
  rw [addOrMax, add?_eq_some_iff.mpr ⟨hu, h⟩, Option.getD_some]

theorem addOrMax_of_none (h : ∀ u : Instant, u.Fits t.ownLeap →
    u.position t.ownLeap ≠ t.ticks + d.nanos) : t.addOrMax d = max := by
  have hnone : t.add? d = none := Option.eq_none_iff_forall_ne_some.mpr fun u hu =>
    h u (add?_exact hu).1 (add?_exact hu).2
  rw [addOrMax, hnone, Option.getD_none]

theorem addOrMax_of_lt_first (h : t.ticks + d.nanos < first.ticks) : t.addOrMax d = max := by
  refine addOrMax_of_none fun u _ heq => ?_
  have := first_le_position t u
  omega

theorem le_max_of_fits (ht : t ≤ max) (hw : w.Fits t.ownLeap) : w ≤ max := by
  have hsecond : max.second = 8210266876799 := rfl
  have hnano : max.nano = 999999999 := rfl
  have hlast := w.le_last
  rw [fits_ownLeap_iff, inLeapSecond] at hw
  rw [le_iff] at ht ⊢
  simp only [decide_eq_true_eq] at hw
  omega

theorem fits_addOrMax (t : Instant) (d : Duration) : (t.addOrMax d).Fits t.ownLeap := by
  rw [addOrMax]
  cases hsum : t.add? d with
  | some u => exact (add?_exact hsum).1
  | none => exact fits_max t.ownLeap

theorem position_addOrMax (ht : t ≤ max) (hfirst : first.ticks ≤ t.ticks + d.nanos) :
    (t.addOrMax d).position t.ownLeap =
      min (t.ticks + d.nanos) (max.position t.ownLeap) := by
  cases hsum : t.add? d with
  | some u =>
      obtain ⟨hfits, hposition⟩ := add?_exact hsum
      have hle := position_mono hfits (le_max_of_fits ht hfits)
      rw [addOrMax_of_exact hfits hposition]
      omega
  | none =>
      have hfar := position_lt_of_add?_eq_none hsum hfirst (fits_max t.ownLeap)
      rw [addOrMax, hsum, Option.getD_none]
      omega

theorem nearest_addOrMax (ht : t ≤ max) (hfirst : first.ticks ≤ t.ticks + d.nanos) :
    IsNearest t.ownLeap (t.ticks + d.nanos) (t.addOrMax d) := by
  refine ⟨fits_addOrMax t d, fun w hw => ?_⟩
  have hsum := position_addOrMax ht hfirst
  have hle := position_mono hw (le_max_of_fits ht hw)
  omega

theorem addOrMax_mono (ht : t ≤ max) (h : d ≤ d') (hfirst : first.ticks ≤ t.ticks + d.nanos) :
    t.addOrMax d ≤ t.addOrMax d' := by
  have hle : d.nanos ≤ d'.nanos := h
  have hsum := position_addOrMax ht hfirst
  have hsum' := position_addOrMax (d := d') ht (by omega)
  rw [← position_le_iff (fits_addOrMax t d) (fits_addOrMax t d')]
  omega

theorem lt_addOrMax_iff (ht : t ≤ max) : t < t.addOrMax d ↔
    t < max ∧ (.zero < d ∨ t.ticks + d.nanos < first.ticks) := by
  have hlater := position_lt_iff (fits_ownLeap t) (fits_addOrMax t d)
  have hlast := position_lt_iff (fits_ownLeap t) (fits_max t.ownLeap)
  rw [position_self] at hlater hlast
  rw [← hlater, ← hlast, Duration.lt_iff]
  have hzero : Duration.zero.nanos = 0 := rfl
  by_cases hfirst : first.ticks ≤ t.ticks + d.nanos
  · rw [position_addOrMax ht hfirst]
    omega
  · rw [addOrMax_of_lt_first (Int.not_le.mp hfirst)]
    omega

end Nearest

end Instant

end NameScout
