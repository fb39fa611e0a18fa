import Mathlib.Order.Basic
import Mathlib.Data.Int.Order.Basic

namespace NameScout

def within (width a t : Int) : Bool :=
  a ≤ t ∧ t < a + width

/-- The times of the requests admitted to an endpoint: those before the window that began at
`start`, and those in it. A window whose first request is not at its start has a spare place
for one more than the limit in the time around its end. -/
structure Tally (width : Int) (limit spare : Nat) (start : Int) (before during : List Int) :
    Prop where
  during_le : during.length ≤ limit
  before_le : ∀ t ∈ before, t ≤ start
  le_during : ∀ t ∈ during, start ≤ t
  recent_le : before.countP (fun t => start - width < t) ≤ spare
  spread_le : ∀ a, before.countP (within width a) ≤ limit + spare
  opened : spare < limit → during.head? = some start

namespace Tally

variable {width : Int} {limit spare : Nat} {start : Int} {before during : List Int}

theorem within_le (h : Tally width limit spare start before during) (a : Int) :
    (before ++ during).countP (within width a) ≤ limit + spare := by
  rw [List.countP_append]
  by_cases ha : a ≤ start - width
  · have hnone : during.countP (within width a) = 0 := by
      rw [List.countP_eq_zero]
      intro t ht hw
      have := h.le_during t ht
      simp only [within, decide_eq_true_eq] at hw
      omega
    have := h.spread_le a
    omega
  · have hbefore : before.countP (within width a) ≤ before.countP (fun t => start - width < t) := by
      apply List.countP_mono_left
      intro t _ hw
      simp only [within, decide_eq_true_eq] at hw ⊢
      omega
    have hduring : during.countP (within width a) ≤ during.length := List.countP_le_length
    have := h.recent_le
    have := h.during_le
    omega

theorem append (h : Tally width limit spare start before during) {now : Int} (hn : start ≤ now)
    (hl : during.length < limit) : Tally width limit spare start before (during ++ [now]) where
  during_le := by
    rw [List.length_append, List.length_singleton]
    omega
  before_le := h.before_le
  le_during := by
    intro t ht
    rcases List.mem_append.mp ht with ht | ht
    · exact h.le_during t ht
    · rw [List.mem_singleton.mp ht]
      exact hn
  recent_le := h.recent_le
  spread_le := h.spread_le
  opened := by
    intro hs
    rw [List.head?_append, h.opened hs]
    rfl

theorem restart (h : Tally width limit spare start before during) {now : Int}
    (hw : 0 < width) (hn : start + width ≤ now) (hd : ∀ t ∈ during, t ≤ now)
    (hlimit : 1 ≤ limit) (hspare : limit ≤ spare + 1) :
    Tally width limit spare now (before ++ during) [now] where
  during_le := hlimit
  before_le := by
    intro t ht
    rcases List.mem_append.mp ht with ht | ht
    · have := h.before_le t ht
      omega
    · exact hd t ht
  le_during := by
    intro t ht
    rw [List.mem_singleton.mp ht]
  recent_le := by
    have hbefore : before.countP (fun t => now - width < t) = 0 := by
      rw [List.countP_eq_zero]
      intro t ht hlt
      have := h.before_le t ht
      simp only [decide_eq_true_eq] at hlt
      omega
    rw [List.countP_append, hbefore, Nat.zero_add]
    have hl := h.during_le
    by_cases hs : spare < limit
    · obtain ⟨rest, rfl⟩ := List.head?_eq_some_iff.mp (h.opened hs)
      rw [List.countP_cons_of_neg (by simp only [decide_eq_true_eq]; omega)]
      have := List.countP_le_length (p := fun t => decide (now - width < t)) (l := rest)
      rw [List.length_cons] at hl
      omega
    · have := List.countP_le_length (p := fun t => decide (now - width < t)) (l := during)
      omega
  spread_le := h.within_le
  opened := fun _ => rfl

theorem single (hlimit : 1 ≤ limit) : Tally width limit spare start [] [start] where
  during_le := hlimit
  before_le := by simp
  le_during := by simp
  recent_le := by simp
  spread_le := by simp
  opened := fun _ => rfl

theorem nothing (hspare : limit ≤ spare) : Tally width limit spare start [] [] where
  during_le := Nat.zero_le _
  before_le := by simp
  le_during := by simp
  recent_le := by simp
  spread_le := by simp
  opened := fun hs => absurd hs (by omega)

end Tally

end NameScout
