import NameScout.Proofs.Time.Position

namespace NameScout.Instant

theorem inLeapSecond_eq_false_iff {t : Instant} : t.inLeapSecond = false ↔ t.nano < 1000000000 := by
  simp [inLeapSecond]

theorem ofTicks?_eq_some {n : Int} (hfirst : -8334601228800000000000 ≤ n)
    (hlast : n ≤ max.ticks) : ∃ t, ofTicks? n = some t ∧ t.ticks = n ∧ t.nano < 1000000000 := by
  have hmax : max.ticks = 8210266876799999999999 := rfl
  have hcond : -8334601228800 ≤ n / 1000000000 ∧ n / 1000000000 ≤ 8210266876799
      ∧ (n % 1000000000).toNat < 2000000000
      ∧ ((n % 1000000000).toNat < 1000000000 ∨ n / 1000000000 % 60 = 59) := by
    omega
  refine ⟨⟨n / 1000000000, (n % 1000000000).toNat, hcond.1, hcond.2.1, hcond.2.2.1, hcond.2.2.2⟩,
    ?_, ?_, ?_⟩
  · rw [ofTicks?, of?, dif_pos hcond]
  · simp only [ticks]
    omega
  · simp only
    omega

theorem ofTicks?_spec {n : Int} {t : Instant} (h : ofTicks? n = some t) :
    t.ticks = n ∧ t.nano < 1000000000 := by
  obtain ⟨hsecond, hnano⟩ := of?_eq_some h
  rw [ticks, hsecond, hnano]
  omega

theorem lt_of_ofTicks?_eq_none {n : Int} (h : ofTicks? n = none)
    (hfirst : -8334601228800000000000 ≤ n) : max.ticks < n := by
  by_contra hlast
  obtain ⟨t, ht, -⟩ := ofTicks?_eq_some hfirst (by omega)
  rw [h] at ht
  cases ht

theorem first_le_ticks (t : Instant) : -8334601228800000000000 ≤ t.ticks := by
  have := t.first_le
  rw [ticks]
  omega

theorem ticks_le_max {t : Instant} (ht : t.nano < 1000000000) : t.ticks ≤ max.ticks := by
  have hmax : max.ticks = 8210266876799999999999 := rfl
  have := t.le_last
  rw [hmax, ticks]
  omega

theorem ofTicks?_ticks {t : Instant} (ht : t.nano < 1000000000) : ofTicks? t.ticks = some t := by
  obtain ⟨u, hu, hticks, hnano⟩ := ofTicks?_eq_some t.first_le_ticks (ticks_le_max ht)
  have hle : ∀ {a b : Instant}, a.ticks = b.ticks → a.nano < 1000000000 → b.nano < 1000000000 →
      a ≤ b := fun h ha hb => (le_iff_ticks ha hb).mpr h.le
  rw [hu, le_antisymm (hle hticks hnano ht) (hle hticks.symm ht hnano)]

theorem add?_of_ordinary {t : Instant} (ht : t.nano < 1000000000) (d : Duration) :
    t.add? d = ofTicks? (t.ticks + d.nanos) := by
  have hleap : t.inLeapSecond = false := inLeapSecond_eq_false_iff.mpr ht
  simp only [add?, hleap, Bool.false_eq_true, if_false]

theorem add?_since {t u : Instant} (ht : t.nano < 1000000000) (hu : u.nano < 1000000000) :
    t.add? (u - t) = some u := by
  rw [add?_of_ordinary ht, nanos_since hu ht, ← ofTicks?_ticks hu]
  congr 1
  omega

theorem add?_spec {t u : Instant} {d : Duration} (ht : t.nano < 1000000000)
    (h : t.add? d = some u) : u.ticks = t.ticks + d.nanos ∧ u.nano < 1000000000 := by
  rw [add?_of_ordinary ht] at h
  exact ofTicks?_spec h

theorem lt_of_add?_eq_none {t : Instant} {d : Duration} (ht : t.nano < 1000000000)
    (hd : 0 ≤ d.nanos) (h : t.add? d = none) : max.ticks < t.ticks + d.nanos := by
  rw [add?_of_ordinary ht] at h
  have hfirst := t.first_le_ticks
  exact lt_of_ofTicks?_eq_none h (by omega)

theorem ticks_addOrMax {t : Instant} {d : Duration} (ht : t.nano < 1000000000) (hd : 0 ≤ d.nanos) :
    (t.addOrMax d).ticks = min (t.ticks + d.nanos) max.ticks ∧
      (t.addOrMax d).nano < 1000000000 := by
  rw [addOrMax]
  cases hsum : t.add? d with
  | none =>
      have hlast := lt_of_add?_eq_none ht hd hsum
      rw [Option.getD_none]
      exact ⟨by omega, by decide⟩
  | some u =>
      obtain ⟨hticks, hnano⟩ := add?_spec ht hsum
      have hlast := ticks_le_max hnano
      rw [Option.getD_some]
      exact ⟨by omega, hnano⟩

theorem representable_since (t u : Instant) : (t - u).Representable := by
  have hle := since_le_ticks_add u t
  have hge := ticks_sub_le_since u t
  have ht := t.first_le
  have ht' := t.le_last
  have htn := t.nano_lt
  have hu := u.first_le
  have hu' := u.le_last
  have hun := u.nano_lt
  change Duration.min.nanos ≤ (t - u).nanos ∧ (t - u).nanos ≤ Duration.max.nanos
  simp only [ticks, Duration.min, Duration.max] at *
  omega

end NameScout.Instant
