import NameScout.Proofs.RateLimit.History

namespace NameScout

namespace Instant

def later (a b : Instant) : Instant :=
  if a < b then b else a

theorem later_of_lt {a b : Instant} (h : a < b) : a.later b = b :=
  if_pos h

theorem later_of_le {a b : Instant} (h : b ≤ a) : a.later b = a :=
  if_neg h

theorem later_le_iff {a b t : Instant} : a.later b ≤ t ↔ a ≤ t ∧ b ≤ t := by
  rw [later]
  split
  · rename_i hlt
    exact ⟨fun hb => ⟨le_of_lt (lt_of_lt_of_le hlt hb), hb⟩, And.right⟩
  · rename_i hle
    exact ⟨fun ha => ⟨ha, le_trans hle ha⟩, And.left⟩

end Instant

/-- The moments that a row keeps lie outside leap seconds. -/
def Row.Ordinary (r : Row) : Prop :=
  r.windowStart.inLeapSecond = false ∧ ∀ u, r.backoffUntil = some u → u.inLeapSecond = false

def StoreView.Keeps {σ : Type} (v : StoreView σ) (e : String) (row : Row) (s : σ) : Prop :=
  v.Sound s ∧ (v.tables s).row? e = some row

namespace Limiter

variable {l : Limiter} {e : String} {row : Row} {now t : Instant}

theorem decide_of_backoff (l : Limiter) (e : String) {u : Instant}
    (hback : row.backoffUntil = some u) (hu : now < u) :
    l.decide e (some row) now = .denied (u - now) := by
  have hfilter : row.backoffUntil.filter (now < ·) = some u := by
    rw [hback, Option.filter_some, if_pos (decide_eq_true hu)]
  rw [decide, hfilter]

theorem decide_of_no_backoff (l : Limiter) (e : String)
    (hback : ∀ u, row.backoffUntil = some u → u ≤ now) :
    l.decide e (some row) now =
      if l.window ≤ elapsed row now then .allowed
      else if l.limitFor e ≤ row.requestCount then .denied (l.window - elapsed row now)
      else .allowed := by
  have hfilter : row.backoffUntil.filter (now < ·) = none := by
    rw [Option.filter_eq_none_iff]
    exact fun u hu hlt => hback u hu (of_decide_eq_true hlt)
  rw [decide, hfilter]

/-- The reasons for an answer from a row: a backoff, a window that is used up, or neither. -/
inductive Ruled (l : Limiter) (e : String) (row : Row) (now : Instant) : Admission → Prop
  | backedOff {u : Instant} (until_eq : row.backoffUntil = some u) (before : now < u) :
      Ruled l e row now (.denied (u - now))
  | usedUp (past : ∀ u, row.backoffUntil = some u → u ≤ now)
      (running : ¬ l.window ≤ elapsed row now) (full : l.limitFor e ≤ row.requestCount) :
      Ruled l e row now (.denied (l.window - elapsed row now))
  | free (past : ∀ u, row.backoffUntil = some u → u ≤ now)
      (room : row.requestCount < l.limitFor e ∨ l.window ≤ elapsed row now) :
      Ruled l e row now .allowed

theorem ruled_decide (l : Limiter) (e : String) (row : Row) (now : Instant) :
    Ruled l e row now (l.decide e (some row) now) := by
  by_cases hback : ∀ u, row.backoffUntil = some u → u ≤ now
  · rw [decide_of_no_backoff l e hback]
    by_cases hover : l.window ≤ elapsed row now
    · rw [if_pos hover]
      exact .free hback (.inr hover)
    · rw [if_neg hover]
      by_cases hfull : l.limitFor e ≤ row.requestCount
      · rw [if_pos hfull]
        exact .usedUp hback hover hfull
      · rw [if_neg hfull]
        exact .free hback (.inl (UInt32.not_le.mp hfull))
  · push Not at hback
    obtain ⟨u, hu, hlt⟩ := hback
    have hlt : now < u := Decidable.not_not.mp hlt
    rw [decide_of_backoff l e hu hlt]
    exact .backedOff hu hlt

theorem decide_eq_allowed_iff : l.decide e (some row) now = .allowed ↔
    (∀ u, row.backoffUntil = some u → u ≤ now) ∧
      (row.requestCount < l.limitFor e ∨ l.window ≤ elapsed row now) := by
  generalize hanswer : l.decide e (some row) now = answer
  have hruled := ruled_decide l e row now
  rw [hanswer] at hruled
  cases hruled with
  | backedOff until_eq before =>
      exact ⟨nofun, fun ⟨past, _⟩ => absurd before (past _ until_eq)⟩
  | usedUp past running full =>
      refine ⟨nofun, fun ⟨_, room⟩ => ?_⟩
      rcases room with hcount | hover
      · exact absurd full (UInt32.not_le.mpr hcount)
      · exact absurd hover running
  | free past room => exact ⟨fun _ => ⟨past, room⟩, fun _ => rfl⟩

section Representable

theorem forwards_elapsed (row : Row) (now : Instant) : 0 ≤ (elapsed row now).nanos := by
  rw [elapsed, Duration.forwards]
  split
  · exact Int.le_refl 0
  · omega

theorem representable_rest (hw : .zero < l.window) (hmax : l.window.Representable) (row : Row)
    (now : Instant) : (l.window - elapsed row now).Representable := by
  have hw' : 0 < l.window.nanos := hw
  have hforwards := forwards_elapsed row now
  have hmax' : l.window.nanos ≤ Duration.max.nanos := hmax.2
  have helapsed : (elapsed row now).nanos ≤ Duration.max.nanos := by
    rw [elapsed, Duration.forwards]
    split
    · decide
    · exact (Instant.representable_since now row.windowStart).2
  constructor
  · rw [Duration.le_iff, Duration.nanos_sub]
    have hmin : Duration.min.nanos = -Duration.max.nanos := rfl
    omega
  · rw [Duration.le_iff, Duration.nanos_sub]
    omega

end Representable

section Waiting

/-- The first moment from now on at which a request is let through, if there is one. -/
def earliest? (l : Limiter) (e : String) (row : Row) (now : Instant) : Option Instant :=
  let free := row.backoffUntil.elim now now.later
  if l.limitFor e ≤ row.requestCount then (row.windowStart.add? l.window).map free.later
  else some free

/-- What a client meets that waits as long as it is told each time and asks again. -/
def admittedAt? (l : Limiter) (e : String) (row : Row) : Nat → Instant → Option Instant
  | 0, _ => none
  | n + 1, now =>
      match l.decide e (some row) now with
      | .allowed => some now
      | .denied wait => (now.add? wait).bind (admittedAt? l e row n)

theorem elim_later_of_past (hback : ∀ u, row.backoffUntil = some u → u ≤ now) :
    row.backoffUntil.elim now now.later = now := by
  cases hu : row.backoffUntil with
  | none => rfl
  | some u => exact Instant.later_of_le (hback u hu)

theorem elim_later_le_iff (hle : now ≤ t) : row.backoffUntil.elim now now.later ≤ t ↔
    ∀ u, row.backoffUntil = some u → u ≤ t := by
  cases hu : row.backoffUntil with
  | none => simpa using hle
  | some u =>
      rw [Option.elim_some, Instant.later_le_iff]
      exact ⟨fun h => by rintro _ ⟨⟩; exact h.2, fun h => ⟨hle, h u rfl⟩⟩

theorem earliest?_of_past (hpast : ∀ u, row.backoffUntil = some u → u ≤ now) :
    l.earliest? e row now =
      if l.limitFor e ≤ row.requestCount then (row.windowStart.add? l.window).map now.later
      else some now := by
  rw [earliest?, elim_later_of_past hpast]

theorem earliest?_of_backedOff {u : Instant} (hu : row.backoffUntil = some u) (hlt : now < u) :
    l.earliest? e row now = l.earliest? e row u := by
  rw [earliest?, earliest?, hu, Option.elim_some, Option.elim_some, Instant.later_of_lt hlt,
    Instant.later_of_le (Instant.le_refl u)]

theorem admittedAt?_of_allowed (n : Nat) (h : l.decide e (some row) now = .allowed) :
    l.admittedAt? e row (n + 1) now = some now := by
  rw [admittedAt?, h]

theorem admittedAt?_of_denied (n : Nat) {wait : Duration}
    (h : l.decide e (some row) now = .denied wait) :
    l.admittedAt? e row (n + 1) now = (now.add? wait).bind (l.admittedAt? e row n) := by
  rw [admittedAt?, h]

theorem decide_eq_allowed_iff_ticks (hw : .zero < l.window)
    (hstart : row.windowStart.inLeapSecond = false) (ht : t.inLeapSecond = false) :
    l.decide e (some row) t = .allowed ↔ (∀ u, row.backoffUntil = some u → u ≤ t) ∧
      (row.requestCount < l.limitFor e ∨
        row.windowStart.ticks + l.window.nanos ≤ t.ticks) := by
  rw [decide_eq_allowed_iff, le_elapsed_iff_ticks hw (Instant.inLeapSecond_eq_false_iff.mp hstart)
    (Instant.inLeapSecond_eq_false_iff.mp ht)]

section Ordinary

variable (hw : .zero < l.window) (hrow : row.Ordinary)

include hw hrow

theorem decide_eq_allowed_iff_earliest (ht : t.inLeapSecond = false) (hle : now ≤ t) :
    l.decide e (some row) t = .allowed ↔ ∃ u, l.earliest? e row now = some u ∧ u ≤ t := by
  rw [decide_eq_allowed_iff_ticks hw hrow.1 ht, earliest?]
  by_cases hfull : l.limitFor e ≤ row.requestCount
  · have hcount : ¬ row.requestCount < l.limitFor e := UInt32.not_lt.mpr hfull
    have hs := Instant.inLeapSecond_eq_false_iff.mp hrow.1
    have ht := Instant.inLeapSecond_eq_false_iff.mp ht
    simp only [if_pos hfull, hcount, false_or]
    cases hstop : row.windowStart.add? l.window with
    | none =>
        have hlast := Instant.lt_of_add?_eq_none hs (Int.le_of_lt hw) hstop
        have hmax := Instant.ticks_le_max ht
        have hnever : ¬ row.windowStart.ticks + l.window.nanos ≤ t.ticks := by omega
        simp [hnever]
    | some stop =>
        obtain ⟨hticks, hnano⟩ := Instant.add?_spec hs hstop
        have hstop_le : row.windowStart.ticks + l.window.nanos ≤ t.ticks ↔ stop ≤ t := by
          rw [Instant.le_iff_ticks hnano ht, hticks]
        rw [hstop_le, ← elim_later_le_iff hle, ← Instant.later_le_iff]
        simp
  · have hcount : row.requestCount < l.limitFor e := UInt32.not_le.mp hfull
    simp only [if_neg hfull, hcount, true_or, and_true]
    rw [← elim_later_le_iff hle]
    simp

theorem denied_before_rest (hnow : now.inLeapSecond = false) (hstart : row.windowStart ≤ now)
    {wait : Duration} (hdenied : l.decide e (some row) now = .denied wait) :
    .zero < wait ∧ ∀ t : Instant, t.inLeapSecond = false → t.ticks < now.ticks + wait.nanos →
      l.decide e (some row) t ≠ .allowed := by
  have hn := Instant.inLeapSecond_eq_false_iff.mp hnow
  have hs := Instant.inLeapSecond_eq_false_iff.mp hrow.1
  have hruled := ruled_decide l e row now
  rw [hdenied] at hruled
  cases hruled with
  | @backedOff u until_eq before =>
      have hu := Instant.inLeapSecond_eq_false_iff.mp (hrow.2 u until_eq)
      have hwait := Instant.nanos_since hu hn
      rw [Instant.lt_iff_ticks hn hu] at before
      refine ⟨?_, fun t ht hbefore hallowed => ?_⟩
      · change 0 < (u - now).nanos
        omega
      · have hpast := (decide_eq_allowed_iff.mp hallowed).1 u until_eq
        rw [Instant.le_iff_ticks hu (Instant.inLeapSecond_eq_false_iff.mp ht)] at hpast
        omega
  | usedUp past running full =>
      have helapsed := nanos_elapsed hs hn ((Instant.le_iff_ticks hs hn).mp hstart)
      rw [Duration.le_iff] at running
      rw [Duration.nanos_sub]
      refine ⟨?_, fun t ht hbefore hallowed => ?_⟩
      · change 0 < l.window.nanos - (elapsed row now).nanos
        omega
      · rcases ((decide_eq_allowed_iff_ticks hw hrow.1 ht).mp hallowed).2 with hcount | hover
        · exact absurd full (UInt32.not_le.mpr hcount)
        · omega

omit hw in
theorem add?_rest (hnow : now.inLeapSecond = false) (hstart : row.windowStart ≤ now) :
    now.add? (l.window - elapsed row now) = row.windowStart.add? l.window := by
  have hn := Instant.inLeapSecond_eq_false_iff.mp hnow
  have hs := Instant.inLeapSecond_eq_false_iff.mp hrow.1
  rw [Instant.add?_of_ordinary hn, Instant.add?_of_ordinary hs, Duration.nanos_sub,
    nanos_elapsed hs hn ((Instant.le_iff_ticks hs hn).mp hstart)]
  congr 1
  omega

theorem earliest?_of_allowed (hnow : now.inLeapSecond = false)
    (h : l.decide e (some row) now = .allowed) : l.earliest? e row now = some now := by
  rw [earliest?_of_past (decide_eq_allowed_iff.mp h).1]
  obtain ⟨u, hu, hle⟩ :=
    (decide_eq_allowed_iff_earliest hw hrow hnow (Instant.le_refl now)).mp h
  rw [earliest?_of_past (decide_eq_allowed_iff.mp h).1] at hu
  split at hu
  · rename_i hfull
    obtain ⟨stop, hstop, rfl⟩ := Option.map_eq_some_iff.mp hu
    rw [if_pos hfull, hstop, Option.map_some,
      Instant.later_of_le (Instant.later_le_iff.mp hle).2]
  · rename_i hroom
    rw [if_neg hroom]

theorem earliest?_of_usedUp (hpast : ∀ u, row.backoffUntil = some u → u ≤ now)
    (hnow : now.inLeapSecond = false) (hrunning : ¬ l.window ≤ elapsed row now)
    (hfull : l.limitFor e ≤ row.requestCount) :
    l.earliest? e row now = row.windowStart.add? l.window := by
  have hn := Instant.inLeapSecond_eq_false_iff.mp hnow
  have hs := Instant.inLeapSecond_eq_false_iff.mp hrow.1
  rw [le_elapsed_iff_ticks hw hs hn] at hrunning
  rw [earliest?_of_past hpast, if_pos hfull]
  cases hstop : row.windowStart.add? l.window with
  | none => rfl
  | some stop =>
      obtain ⟨hticks, hnano⟩ := Instant.add?_spec hs hstop
      have hlt : now < stop := by
        rw [Instant.lt_iff_ticks hn hnano]
        omega
      rw [Option.map_some, Instant.later_of_lt hlt]

theorem admittedAt?_of_past (hpast : ∀ u, row.backoffUntil = some u → u ≤ now)
    (hnow : now.inLeapSecond = false) (hstart : row.windowStart ≤ now) (n : Nat) :
    l.admittedAt? e row (n + 2) now = l.earliest? e row now := by
  generalize hanswer : l.decide e (some row) now = answer
  have hruled := ruled_decide l e row now
  rw [hanswer] at hruled
  cases hruled with
  | backedOff until_eq before => exact absurd before (hpast _ until_eq)
  | free _ room =>
      rw [admittedAt?_of_allowed _ hanswer, earliest?_of_allowed hw hrow hnow hanswer]
  | usedUp _ running full =>
      have hearliest := earliest?_of_usedUp hw hrow hpast hnow running full
      rw [← add?_rest hrow hnow hstart] at hearliest
      rw [admittedAt?_of_denied _ hanswer, hearliest]
      cases hstop : now.add? (l.window - elapsed row now) with
      | none => rfl
      | some stop =>
          rw [hstop] at hearliest
          have hn := Instant.inLeapSecond_eq_false_iff.mp hnow
          obtain ⟨hticks, hnano⟩ := Instant.add?_spec hn hstop
          rw [Duration.le_iff] at running
          rw [Duration.nanos_sub] at hticks
          have hle : now ≤ stop := (Instant.le_iff_ticks hn hnano).mpr (by omega)
          have hallowed : l.decide e (some row) stop = .allowed :=
            (decide_eq_allowed_iff_earliest hw hrow
              (Instant.inLeapSecond_eq_false_iff.mpr hnano) hle).mpr
                ⟨stop, hearliest, Instant.le_refl stop⟩
          rw [Option.bind_some, admittedAt?_of_allowed _ hallowed]

theorem admittedAt?_three (hnow : now.inLeapSecond = false) (hstart : row.windowStart ≤ now) :
    l.admittedAt? e row 3 now = l.earliest? e row now := by
  -- One ask meets the backoff, the next at its end the window, the last comes when that is over.
  by_cases hpast : ∀ u, row.backoffUntil = some u → u ≤ now
  · exact admittedAt?_of_past hw hrow hpast hnow hstart 1
  · push Not at hpast
    obtain ⟨u, hu, hlt⟩ := hpast
    have hlt : now < u := Decidable.not_not.mp hlt
    have hn := Instant.inLeapSecond_eq_false_iff.mp hnow
    have hordinary := hrow.2 u hu
    rw [admittedAt?_of_denied _ (decide_of_backoff l e hu hlt), earliest?_of_backedOff hu hlt,
      Instant.add?_since hn (Instant.inLeapSecond_eq_false_iff.mp hordinary), Option.bind_some]
    exact admittedAt?_of_past hw hrow (by rw [hu]; rintro _ ⟨⟩; exact Instant.le_refl u) hordinary
      (Instant.le_trans hstart (Instant.le_of_lt hlt)) 0

end Ordinary

end Waiting

section Asking

variable {σ : Type} [Store σ] {v : StoreView σ}

/-- A client that asks at most so many times and waits exactly as long as it is told in
between: the moment at which it is let through, if it is. -/
def askUntil (l : Limiter) (e : String) : Nat → Instant → Effect σ (Option Instant)
  | 0, _ => return none
  | n + 1, now => do
      match ← l.allow e now with
      | .allowed => return some now
      | .denied wait =>
          match now.add? wait with
          | some next => askUntil l e n next
          | none => return none

theorem run_allow (hv : v.Reliable) (l : Limiter) (t : Instant) {s : σ} (hs : v.Keeps e row s) :
    ∃ s', (l.allow e t).run s = (.ok (l.decide e (some row) t), s') ∧ v.Keeps e row s' := by
  have hfollows : v.Follows (l.allow e t) (l.allow e t) :=
    StoreView.follows_bind (hv.row? e) fun _ => v.follows_pure _
  obtain ⟨s', hrun, hs', htables⟩ := hfollows s hs.1
  have hrun' : (l.allow e t).run s = (.ok (l.decide e ((v.tables s).row? e) t), s') := hrun
  have htables' : v.tables s' = v.tables s := htables
  rw [hs.2] at hrun'
  exact ⟨s', hrun', hs', by rw [htables', hs.2]⟩

theorem run_askUntil (hv : v.Reliable) (l : Limiter) (n : Nat) (now : Instant) {s : σ}
    (hs : v.Keeps e row s) :
    ∃ s', (l.askUntil e n now).run s = (.ok (l.admittedAt? e row n now), s') ∧
      v.Keeps e row s' := by
  induction n generalizing now s with
  | zero => exact ⟨s, rfl, hs⟩
  | succ n ih =>
      obtain ⟨s', hallow, hs'⟩ := run_allow hv l now hs
      rw [askUntil, Effect.run_bind, hallow]
      cases hanswer : l.decide e (some row) now with
      | allowed => exact ⟨s', by rw [admittedAt?_of_allowed n hanswer]; rfl, hs'⟩
      | denied wait =>
          rw [admittedAt?_of_denied n hanswer]
          cases hnext : now.add? wait with
          | none => exact ⟨s', by simp only [hnext]; rfl, hs'⟩
          | some next =>
              simp only [hnext, Option.bind_some]
              exact ih next hs'

/-- While a row stands, requests are let through from the earliest moment on that the row
admits, outside leap seconds. Every wait is positive and no longer than needed for its reason,
and a client that waits each time as long as it is told is let through at that moment, with the
third ask at the latest; if no moment is late enough, it never is. No difference of times that
an answer is computed from is too large to represent, in leap seconds either. -/
theorem waits_are_honest (hv : v.Reliable) (l : Limiter) (hw : .zero < l.window)
    (hmax : l.window.Representable) (e : String) (row : Row) :
    (∀ now s, v.Keeps e row s → ∃ s',
      (l.allow e now).run s = (.ok (l.decide e (some row) now), s') ∧ v.Keeps e row s') ∧
    (∀ now : Instant, (now - row.windowStart).Representable ∧
      (l.window - elapsed row now).Representable ∧
      ∀ u, row.backoffUntil = some u → (u - now).Representable) ∧
    (row.windowStart.inLeapSecond = false → ∀ t : Instant, t.inLeapSecond = false →
      (l.decide e (some row) t = .allowed ↔ (∀ u, row.backoffUntil = some u → u ≤ t) ∧
        (row.requestCount < l.limitFor e ∨
          row.windowStart.ticks + l.window.nanos ≤ t.ticks))) ∧
    (row.Ordinary → ∀ now : Instant, now.inLeapSecond = false → row.windowStart ≤ now →
      (∀ wait, l.decide e (some row) now = .denied wait → .zero < wait ∧
        ∀ t : Instant, t.inLeapSecond = false → t.ticks < now.ticks + wait.nanos →
          l.decide e (some row) t ≠ .allowed) ∧
      (∀ s, v.Keeps e row s → ∃ s',
        (l.askUntil e 3 now).run s = (.ok (l.earliest? e row now), s')) ∧
      ∀ t : Instant, t.inLeapSecond = false → now ≤ t →
        (l.decide e (some row) t = .allowed ↔ ∃ u, l.earliest? e row now = some u ∧ u ≤ t)) := by
  refine ⟨fun now s hs => run_allow hv l now hs, fun now => ⟨?_, ?_, fun u _ => ?_⟩,
    fun hstart t ht => decide_eq_allowed_iff_ticks hw hstart ht,
    fun hrow now hnow hstart => ⟨fun wait hdenied => ?_, fun s hs => ?_, fun t ht hle => ?_⟩⟩
  · exact Instant.representable_since now row.windowStart
  · exact representable_rest hw hmax row now
  · exact Instant.representable_since u now
  · exact denied_before_rest hw hrow hnow hstart hdenied
  · obtain ⟨s', hrun, -⟩ := run_askUntil hv l 3 now hs
    rw [admittedAt?_three hw hrow hnow hstart] at hrun
    exact ⟨s', hrun⟩
  · exact decide_eq_allowed_iff_earliest hw hrow ht hle

end Asking

def usedUpRow : Row :=
  { endpoint := "crates.io"
    requestCount := 2
    windowStart := sinceEpoch 0
    backoffUntil := some (sinceEpoch 30000000000)
    last429At := none }

theorem waits_are_honest_usedUpRow :
    (twoAMinute.decide "crates.io" (some usedUpRow) (sinceEpoch 10000000000) =
      .denied (.ofSeconds 20)) ∧
    (∀ t : Instant, t.inLeapSecond = false → t.ticks < 30000000000 →
      twoAMinute.decide "crates.io" (some usedUpRow) t ≠ .allowed) ∧
    ∃ s, (twoAMinute.askUntil "crates.io" 3 (sinceEpoch 10000000000)).run
      (Tables.empty.putRow "crates.io" usedUpRow) = (.ok (some (sinceEpoch 60000000000)), s) := by
  obtain ⟨-, -, -, hwaits⟩ := waits_are_honest StoreView.reliable_memory twoAMinute
    (by decide) (by decide) "crates.io" usedUpRow
  have hordinary : usedUpRow.Ordinary := ⟨by decide, by rintro _ ⟨⟩; decide⟩
  obtain ⟨hdenied, hasked, -⟩ := hwaits hordinary (sinceEpoch 10000000000) (by decide) (by decide)
  have hanswer : twoAMinute.decide "crates.io" (some usedUpRow) (sinceEpoch 10000000000) =
      .denied (.ofSeconds 20) := by decide
  refine ⟨hanswer, (hdenied _ hanswer).2, ?_⟩
  have hkeeps : StoreView.memory.Keeps "crates.io" usedUpRow
      (Tables.empty.putRow "crates.io" usedUpRow) :=
    ⟨trivial, by rw [StoreView.memory, Tables.row?_putRow, if_pos rfl]⟩
  have hearliest : twoAMinute.earliest? "crates.io" usedUpRow (sinceEpoch 10000000000) =
      some (sinceEpoch 60000000000) := by decide
  rw [← hearliest]
  exact hasked _ hkeeps

/-- A window that begins in a leap second at the end of a day is still running when it should
be over. -/
theorem denial_at_end_of_window :
    ∃ stop, inLeap.add? (.ofSeconds 10) = some stop ∧ stop.inLeapSecond = false ∧
      ∃ t row, (Call.performAll (.new (.ofSeconds 10) 1) [(inLeap, .record "rdap.org")] :
          Effect Tables _).run .empty = (.ok [none], t) ∧
        t.row? "rdap.org" = some row ∧ row.windowStart = inLeap ∧ row.backoffUntil = none ∧
        (allow (.new (.ofSeconds 10) 1) "rdap.org" stop).run t =
          (.ok (.denied (.ofSeconds 1)), t) :=
  ⟨Instant.epoch.addOrMax ⟨1483228809800000000⟩, by decide, by decide, _, _, rfl, rfl, rfl, rfl,
    rfl⟩

end Limiter

end NameScout
