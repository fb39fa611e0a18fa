import Mathlib.Data.Finset.Card
import Mathlib.Data.Finset.Filter
import NameScout.Time.Instant

namespace NameScout

theorem Duration.le_forwards_iff {w d : Duration} (hw : .zero < w) : w ≤ d.forwards ↔ w ≤ d := by
  simp only [forwards, le_iff, lt_iff, zero] at hw ⊢
  split
  · simp only
    omega
  · rfl

theorem Duration.not_le {a b : Duration} : ¬ a ≤ b ↔ b < a :=
  Int.not_le

namespace Instant

theorem le_iff {a b : Instant} :
    a ≤ b ↔ a.second < b.second ∨ (a.second = b.second ∧ a.nano ≤ b.nano) := by
  change ¬ (b < a) ↔ _
  rw [lt_iff]
  omega

theorem le_iff_ticks {a b : Instant} (ha : a.nano < 1000000000) (hb : b.nano < 1000000000) :
    a ≤ b ↔ a.ticks ≤ b.ticks := by
  rw [le_iff, ticks, ticks]
  omega

theorem le_refl (t : Instant) : t ≤ t := by
  rw [le_iff]
  omega

theorem le_trans {a b c : Instant} (hab : a ≤ b) (hbc : b ≤ c) : a ≤ c := by
  rw [le_iff] at hab hbc ⊢
  omega

theorem lt_of_le_of_lt {a b c : Instant} (hab : a ≤ b) (hbc : b < c) : a < c := by
  rw [le_iff] at hab
  rw [lt_iff] at hbc ⊢
  omega

theorem lt_of_lt_of_le {a b c : Instant} (hab : a < b) (hbc : b ≤ c) : a < c := by
  rw [le_iff] at hbc
  rw [lt_iff] at hab ⊢
  omega

theorem le_of_lt {a b : Instant} (h : a < b) : a ≤ b := by
  rw [le_iff]
  rw [lt_iff] at h
  omega

theorem le_antisymm {a b : Instant} (hab : a ≤ b) (hba : b ≤ a) : a = b := by
  rw [le_iff] at hab hba
  cases a
  cases b
  simp only [mk.injEq] at hab hba ⊢
  omega

theorem since_self (t : Instant) : (t - t).nanos = 0 := by
  change (since t t).nanos = 0
  simp [since]

/-- Nanoseconds since 1970 when a second is inserted after each of the given ones. -/
def position (leaps : Finset Int) (t : Instant) : Int :=
  t.ticks + 1000000000 * (leaps.filter (· < t.second)).card

/-- A moment in a leap second can only be read where a second was inserted. -/
def Fits (leaps : Finset Int) (t : Instant) : Prop :=
  t.inLeapSecond = true → t.second ∈ leaps

theorem card_earlier_mono (leaps : Finset Int) {m n : Int} (h : m ≤ n) :
    (leaps.filter (· < m)).card ≤ (leaps.filter (· < n)).card := by
  apply Finset.card_le_card
  intro x hx
  rw [Finset.mem_filter] at hx ⊢
  exact ⟨hx.1, by omega⟩

theorem card_earlier_lt {leaps : Finset Int} {m n : Int} (hm : m ∈ leaps) (h : m < n) :
    (leaps.filter (· < m)).card < (leaps.filter (· < n)).card := by
  apply Finset.card_lt_card
  rw [Finset.ssubset_iff_of_subset]
  · exact ⟨m, by simp [hm, h], by simp⟩
  · intro x hx
    rw [Finset.mem_filter] at hx ⊢
    exact ⟨hx.1, by omega⟩

theorem position_lt {leaps : Finset Int} {u t : Instant} (hu : u.Fits leaps) (h : u < t) :
    u.position leaps < t.position leaps := by
  rw [lt_iff] at h
  simp only [position, ticks]
  rcases h with h | ⟨hs, hn⟩
  · have hmono := card_earlier_mono leaps (Int.le_of_lt h)
    by_cases hl : u.inLeapSecond = true
    · have hlt := card_earlier_lt (hu hl) h
      have := u.nano_lt
      omega
    · have : u.nano < 1000000000 := by
        simpa [inLeapSecond] using hl
      omega
  · rw [hs]
    omega

theorem position_mono {leaps : Finset Int} {u t : Instant} (hu : u.Fits leaps) (h : u ≤ t) :
    u.position leaps ≤ t.position leaps := by
  by_cases hlt : u < t
  · exact (position_lt hu hlt).le
  · rw [le_antisymm h hlt]

theorem since_le_ticks {u t : Instant} (h : u.inLeapSecond = false ∨ u.second = t.second) :
    (t - u).nanos ≤ t.ticks - u.ticks := by
  change (since t u).nanos ≤ _
  have hc : ¬ (u.secondOfDay < t.secondOfDay ∧ u.inLeapSecond = true) := by
    rintro ⟨hlt, hl⟩
    rcases h with h | h
    · rw [h] at hl
      exact absurd hl (by decide)
    · rw [secondOfDay, secondOfDay, h] at hlt
      omega
  simp only [since, if_neg hc]
  split <;> omega

theorem since_le_ticks_add (u t : Instant) :
    (t - u).nanos ≤ t.ticks - u.ticks + 1000000000 := by
  change (since t u).nanos ≤ _
  simp only [since]
  split
  · omega
  · split <;> omega

theorem ticks_sub_le_since (u t : Instant) :
    t.ticks - u.ticks - 1000000000 ≤ (t - u).nanos := by
  change _ ≤ (since t u).nanos
  simp only [since]
  split
  · omega
  · split <;> omega

theorem since_le_position {leaps : Finset Int} {u t : Instant} (hu : u.Fits leaps) (h : u ≤ t) :
    (t - u).nanos ≤ t.position leaps - u.position leaps := by
  rw [le_iff] at h
  simp only [position]
  rcases h with h | ⟨hs, -⟩
  · have hmono := card_earlier_mono leaps (show u.second ≤ t.second by omega)
    by_cases hl : u.inLeapSecond = true
    · have hlt := card_earlier_lt (hu hl) h
      have := since_le_ticks_add u t
      omega
    · have := since_le_ticks (t := t) (Or.inl (Bool.eq_false_iff.mpr hl))
      omega
  · have := since_le_ticks (Or.inr hs)
    rw [hs]
    omega

end Instant

end NameScout
