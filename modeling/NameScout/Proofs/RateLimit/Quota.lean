import NameScout.Proofs.RateLimit.Run
import NameScout.Proofs.RateLimit.Tally
import NameScout.Proofs.Time.Position

namespace NameScout

namespace Limiter

theorem le_elapsed_iff {l : Limiter} (hw : .zero < l.window) (row : Row) (now : Instant) :
    l.window ≤ elapsed row now ↔ l.window ≤ now - row.windowStart :=
  Duration.le_forwards_iff hw

theorem lt_limit_of_allowed {l : Limiter} {e : String} {row : Row} {now : Instant}
    (h : (l.decide e (some row) now).isAllowed = true) (hw : ¬ l.window ≤ elapsed row now) :
    row.requestCount < l.limitFor e := by
  simp only [decide] at h
  split at h
  · simp [Admission.isAllowed] at h
  · rw [if_neg hw] at h
    split at h
    · simp [Admission.isAllowed] at h
    · rename_i hlt
      exact UInt32.not_le.mp hlt

theorem countOne_of_lt {n m : UInt32} (h : n < m) : (Row.countOne n).toNat = n.toNat + 1 := by
  have hm : m.toNat < 4294967296 := m.toNat_lt
  have hn : n.toNat < m.toNat := h
  rw [Row.countOne, if_neg]
  · rw [UInt32.toNat_add]
    simp
    omega
  · intro he
    rw [he] at hn
    simp [Row.maxCount] at hn
    omega

theorem counted_none {l : Limiter} (hw : .zero < l.window) (e : String) (now : Instant) :
    l.counted e none now = { Row.new e now with requestCount := 1 } := by
  have hn : ¬ l.window ≤ elapsed (Row.new e now) now := by
    rw [le_elapsed_iff hw, Duration.le_iff]
    have h0 := Instant.since_self now
    have hw' : 0 < l.window.nanos := hw
    change ¬ l.window.nanos ≤ (now - now).nanos
    omega
  simp only [counted, Option.getD_none, if_neg hn]
  rfl

/-- A call of the kinds that a client makes: ask, count a request, report a refusal. -/
def Call.isRequest : Call → Bool
  | .allow _ | .acquire _ | .refuse .. => true
  | _ => false

def Call.writes (e : String) : Call → Bool
  | .record k | .refuse k _ | .acquire k => k = e
  | _ => false

def firstUse (e : String) (calls : List (Instant × Call)) : Option Call :=
  (calls.find? (·.2.writes e)).map (·.2)

def admitted (e : String) (calls : List (Instant × Call)) (answers : List (Option Admission)) :
    List Instant :=
  (calls.zip answers).filterMap fun (call, answer) =>
    if call.2 = .acquire e ∧ answer = some .allowed then some call.1 else none

section Quota

variable (l : Limiter) (e : String) (leaps : Finset Int) (spare : Nat)

/-- What a row and the times of the admitted requests have to do with each other by `now`. -/
structure Held (row : Row) (times : List Int) (now : Instant) : Prop where
  tally : ∃ before during, times = before ++ during ∧ during.length = row.requestCount.toNat ∧
    Tally l.window.nanos (l.limitFor e).toNat spare (row.windowStart.position leaps) before during
  start_le : row.windowStart ≤ now
  fits : row.windowStart.Fits leaps
  times_le : ∀ t ∈ times, t ≤ now.position leaps

def HeldIn : Option Row → List Int → Instant → Prop
  | none, times, _ => times = []
  | some row, times, now => Held l e leaps spare row times now

variable {l e leaps spare} {now : Instant}

theorem HeldIn.later {row : Option Row} {times : List Int} {later : Instant}
    (h : HeldIn l e leaps spare row times now) (hf : now.Fits leaps) (hle : now ≤ later) :
    HeldIn l e leaps spare row times later := by
  cases row with
  | none => exact h
  | some row =>
      have hpos := Instant.position_mono hf hle
      refine ⟨h.tally, Instant.le_trans h.start_le hle, h.fits, fun t ht => ?_⟩
      have := h.times_le t ht
      omega

theorem HeldIn.within_le {row : Option Row} {times : List Int}
    (h : HeldIn l e leaps spare row times now) (a : Int) :
    times.countP (within l.window.nanos a) ≤ (l.limitFor e).toNat + spare := by
  cases row with
  | none =>
      rw [show times = [] from h]
      exact Nat.zero_le _
  | some row =>
      obtain ⟨before, during, rfl, -, htally⟩ := h.tally
      exact htally.within_le a

theorem Held.counted {row : Row} {times : List Int} (h : Held l e leaps spare row times now)
    (hf : now.Fits leaps) (hw : .zero < l.window) (hlimit : 1 ≤ (l.limitFor e).toNat)
    (hspare : (l.limitFor e).toNat ≤ spare + 1)
    (ha : (l.decide e (some row) now).isAllowed = true) :
    Held l e leaps spare (l.counted e (some row) now) (times ++ [now.position leaps]) now := by
  obtain ⟨before, during, rfl, hlen, htally⟩ := h.tally
  have htimes : ∀ t ∈ before ++ during ++ [now.position leaps], t ≤ now.position leaps := by
    intro t ht
    rcases List.mem_append.mp ht with ht | ht
    · exact h.times_le t ht
    · rw [List.mem_singleton.mp ht]
  simp only [Limiter.counted, Option.getD_some]
  by_cases he : l.window ≤ elapsed row now
  · rw [if_pos he]
    have hsince : l.window.nanos ≤ (now - row.windowStart).nanos :=
      (le_elapsed_iff hw row now).mp he
    have hpos := Instant.since_le_position h.fits h.start_le
    have hend : row.windowStart.position leaps + l.window.nanos ≤ now.position leaps := by omega
    have hduring : ∀ t ∈ during, t ≤ now.position leaps :=
      fun t ht => h.times_le t (List.mem_append_right _ ht)
    refine ⟨⟨before ++ during, [now.position leaps], rfl, rfl, ?_⟩, Instant.le_refl now, hf, htimes⟩
    exact htally.restart hw hend hduring hlimit hspare
  · rw [if_neg he]
    have hlt := lt_limit_of_allowed ha he
    have hlt' : row.requestCount.toNat < (l.limitFor e).toNat := hlt
    refine ⟨⟨before, during ++ [now.position leaps], List.append_assoc .., ?_, ?_⟩,
      h.start_le, h.fits, htimes⟩
    · rw [List.length_append, List.length_singleton, hlen]
      exact (countOne_of_lt hlt).symm
    · exact htally.append (Instant.position_mono h.fits h.start_le) (by omega)

theorem held_counted_none (hf : now.Fits leaps) (hw : .zero < l.window)
    (hlimit : 1 ≤ (l.limitFor e).toNat) :
    Held l e leaps spare (l.counted e none now) [now.position leaps] now := by
  rw [counted_none hw]
  refine ⟨⟨[], [now.position leaps], rfl, rfl, Tally.single hlimit⟩, Instant.le_refl now, hf, ?_⟩
  intro t ht
  rw [List.mem_singleton.mp ht]

theorem held_blocked_none (hf : now.Fits leaps) (hspare : (l.limitFor e).toNat ≤ spare)
    (backoff : Duration) : Held l e leaps spare (blocked e none now backoff) [] now :=
  ⟨⟨[], [], rfl, rfl, Tally.nothing hspare⟩, Instant.le_refl now, hf, by simp⟩

theorem admitted_cons {rows : Call.Rows} {c : Call} {calls : List (Instant × Call)} :
    admitted e ((now, c) :: calls) (Call.answers l ((now, c) :: calls) rows) =
      (if c = .acquire e ∧ (l.decide e (rows e) now).isAllowed then [now] else []) ++
        admitted e calls (Call.answers l calls (c.onRows l now rows)) := by
  have hanswer : (c = .acquire e ∧ c.answer l now rows = some .allowed) ↔
      (c = .acquire e ∧ (l.decide e (rows e) now).isAllowed = true) := by
    refine and_congr_right fun hc => ?_
    subst hc
    cases h : l.decide e (rows e) now <;> simp [Call.answer, Admission.isAllowed, h]
  simp only [admitted, Call.answers, List.zip_cons_cons, List.filterMap_cons, hanswer]
  by_cases h : c = .acquire e ∧ (l.decide e (rows e) now).isAllowed = true <;> simp [h]

theorem HeldIn.step {row : Option Row} {times : List Int} {c : Call}
    (h : HeldIn l e leaps spare row times now) (hc : c.isRequest = true) (hf : now.Fits leaps)
    (hw : .zero < l.window) (hlimit : 1 ≤ (l.limitFor e).toNat)
    (hspare : (l.limitFor e).toNat ≤ spare + 1)
    (hfirst : row = none → spare < (l.limitFor e).toNat → ∀ backoff, c ≠ .refuse e backoff) :
    HeldIn l e leaps spare (c.onRow l now e row)
      (times ++ (if c = .acquire e ∧ (l.decide e row now).isAllowed then [now] else []).map
        (Instant.position leaps)) now := by
  cases c with
  | allow k => simpa [Call.onRow] using h
  | acquire k =>
      by_cases ha : e = k ∧ (l.decide e row now).isAllowed = true
      · obtain ⟨rfl, ha⟩ := ha
        simp only [Call.onRow, ha, and_self, if_true, List.map_cons, List.map_nil]
        cases row with
        | none =>
            rw [show times = [] from h]
            exact held_counted_none hf hw hlimit
        | some row => exact Held.counted h hf hw hlimit hspare ha
      · have ha' : ¬ (Call.acquire k = .acquire e ∧ (l.decide e row now).isAllowed = true) := by
          rintro ⟨hk, hd⟩
          cases hk
          exact ha ⟨rfl, hd⟩
        simpa only [Call.onRow, if_neg ha, if_neg ha', List.map_nil, List.append_nil] using h
  | refuse k backoff =>
      simp only [Call.onRow, reduceCtorEq, false_and, if_false, List.map_nil, List.append_nil]
      by_cases hk : e = k
      · subst hk
        rw [if_pos rfl]
        cases row with
        | none =>
            rw [show times = [] from h]
            have hs : (l.limitFor e).toNat ≤ spare :=
              Nat.le_of_not_lt fun hs => hfirst rfl hs backoff rfl
            exact held_blocked_none hf hs backoff
        | some row => exact ⟨h.tally, h.start_le, h.fits, h.times_le⟩
      · rw [if_neg hk]
        exact h
  | record k | reset k | resetStart k | resetAll => cases hc

theorem onRow_eq_none {row : Option Row} {c : Call} (hc : c.isRequest = true)
    (h : c.onRow l now e row = none) : row = none ∧ c.writes e = false := by
  cases c with
  | allow k => exact ⟨h, rfl⟩
  | acquire k =>
      simp only [Call.onRow] at h
      split at h
      · cases h
      · rename_i hk
        subst h
        exact ⟨rfl, decide_eq_false fun he => hk ⟨he.symm, rfl⟩⟩
  | refuse k backoff =>
      simp only [Call.onRow] at h
      split at h
      · cases h
      · rename_i hk
        exact ⟨h, decide_eq_false (Ne.symm hk)⟩
  | record k | reset k | resetStart k | resetAll => cases hc

theorem HeldIn.run {calls : List (Instant × Call)} {rows : Call.Rows} {times : List Int}
    (h : HeldIn l e leaps spare (rows e) times now) (hnow : now.Fits leaps)
    (hcalls : ∀ call ∈ calls, call.2.isRequest = true) (hle : ∀ call ∈ calls, now ≤ call.1)
    (hmono : calls.Pairwise fun c d => c.1 ≤ d.1) (hfits : ∀ call ∈ calls, call.1.Fits leaps)
    (hw : .zero < l.window) (hlimit : 1 ≤ (l.limitFor e).toNat)
    (hspare : (l.limitFor e).toNat ≤ spare + 1)
    (hfirst : rows e = none → spare < (l.limitFor e).toNat →
      ∀ backoff, firstUse e calls ≠ some (.refuse e backoff)) :
    ∃ later, HeldIn l e leaps spare (Call.rowsAfter l calls rows e)
      (times ++ (admitted e calls (Call.answers l calls rows)).map (Instant.position leaps))
      later := by
  induction calls generalizing rows times now with
  | nil => exact ⟨now, by simpa [admitted, Call.rowsAfter] using h⟩
  | cons call calls ih =>
      obtain ⟨time, c⟩ := call
      have htime : now ≤ time := hle _ List.mem_cons_self
      have hf : time.Fits leaps := hfits _ List.mem_cons_self
      have hc : c.isRequest = true := hcalls _ List.mem_cons_self
      rw [List.pairwise_cons] at hmono
      have hstep : HeldIn l e leaps spare (c.onRows l time rows e) _ time :=
        (h.later hnow htime).step hc hf hw hlimit hspare (by
          intro hrow hs backoff heq
          apply hfirst hrow hs backoff
          rw [heq]
          simp [firstUse, Call.writes])
      have hfirst' : c.onRows l time rows e = none → spare < (l.limitFor e).toNat →
          ∀ backoff, firstUse e calls ≠ some (.refuse e backoff) := by
        intro hrow hs backoff
        obtain ⟨hnone, hwrites⟩ := onRow_eq_none hc hrow
        have := hfirst hnone hs backoff
        rwa [firstUse, List.find?_cons_of_neg (by simp [hwrites])] at this
      obtain ⟨later, hlater⟩ := ih hstep hf
        (fun d hd => hcalls d (List.mem_cons_of_mem _ hd)) (fun d hd => hmono.1 d hd) hmono.2
        (fun d hd => hfits d (List.mem_cons_of_mem _ hd)) hfirst'
      refine ⟨later, ?_⟩
      rw [admitted_cons, List.map_append, ← List.append_assoc]
      exact hlater

end Quota

section Count

variable {l : Limiter} {e : String} {now : Instant}

def CountWithin (l : Limiter) (e : String) (row : Option Row) : Prop :=
  ∀ r, row = some r → r.requestCount ≤ l.limitFor e

theorem CountWithin.counted {row : Option Row} (h : CountWithin l e row)
    (hw : .zero < l.window) (hlimit : 1 ≤ l.limitFor e)
    (ha : (l.decide e row now).isAllowed = true) :
    CountWithin l e (some (l.counted e row now)) := by
  rintro _ ⟨⟩
  cases row with
  | none =>
      rw [counted_none hw]
      exact hlimit
  | some row =>
      simp only [Limiter.counted, Option.getD_some]
      by_cases he : l.window ≤ elapsed row now
      · rw [if_pos he]
        exact hlimit
      · rw [if_neg he]
        have hlt := lt_limit_of_allowed ha he
        have hlt' : row.requestCount.toNat < (l.limitFor e).toNat := hlt
        change (Row.countOne row.requestCount).toNat ≤ (l.limitFor e).toNat
        rw [countOne_of_lt hlt]
        exact hlt'

theorem CountWithin.blocked {row : Option Row} (h : CountWithin l e row) (backoff : Duration) :
    CountWithin l e (some (blocked e row now backoff)) := by
  rintro _ ⟨⟩
  cases row with
  | none => exact UInt32.zero_le
  | some row => exact h row rfl

theorem CountWithin.step {row : Option Row} {c : Call} (h : CountWithin l e row)
    (hc : c.isRequest = true) (hw : .zero < l.window) (hlimit : 1 ≤ l.limitFor e) :
    CountWithin l e (c.onRow l now e row) := by
  cases c with
  | allow k => exact h
  | acquire k =>
      simp only [Call.onRow]
      split
      · rename_i hk
        exact h.counted hw hlimit hk.2
      · exact h
  | refuse k backoff =>
      simp only [Call.onRow]
      split
      · exact h.blocked backoff
      · exact h
  | record k | reset k | resetStart k | resetAll => cases hc

theorem CountWithin.run {calls : List (Instant × Call)} {rows : Call.Rows}
    (h : CountWithin l e (rows e)) (hcalls : ∀ call ∈ calls, call.2.isRequest = true)
    (hw : .zero < l.window) (hlimit : 1 ≤ l.limitFor e) :
    CountWithin l e (Call.rowsAfter l calls rows e) := by
  induction calls generalizing rows with
  | nil => exact h
  | cons call calls ih =>
      have hstep : CountWithin l e (call.2.onRows l call.1 rows e) :=
        h.step (hcalls call List.mem_cons_self) hw hlimit
      exact ih hstep fun d hd => hcalls d (List.mem_cons_of_mem _ hd)

theorem window_le_of_restart {row row' : Row} {c : Call} (hc : c.isRequest = true)
    (hw : .zero < l.window) (h : c.onRow l now e (some row) = some row')
    (hne : row'.windowStart ≠ row.windowStart) :
    l.window ≤ row'.windowStart - row.windowStart := by
  cases c with
  | allow k =>
      cases h
      exact absurd rfl hne
  | acquire k =>
      simp only [Call.onRow] at h
      split at h
      · cases h
        simp only [counted, Option.getD_some] at hne ⊢
        by_cases he : l.window ≤ elapsed row now
        · rw [if_pos he]
          exact (le_elapsed_iff hw row now).mp he
        · rw [if_neg he] at hne
          exact absurd rfl hne
      · cases h
        exact absurd rfl hne
  | refuse k backoff =>
      simp only [Call.onRow] at h
      split at h <;> cases h <;> exact absurd rfl hne
  | record k | reset k | resetStart k | resetAll => cases hc

end Count

theorem exists_first_instant :
    ∃ first : Instant, first.inLeapSecond = false ∧ ∀ t, first ≤ t := by
  refine ⟨{ second := -8334601228800, nano := 0 }, rfl, fun t => ?_⟩
  rw [Instant.le_iff]
  have := t.first_le
  dsimp only
  omega

/-- The count of a row never passes the limit, and its window restarts only when it is over,
however the clock goes. When the clock never goes back, any span of time as long as the
window holds at most twice the limit of admitted requests, and one fewer when the row was
made by one of them. Time is counted with the leap seconds that there were. -/
theorem within_quota {σ : Type} [Store σ] {v : StoreView σ} (hv : v.Reliable) (l : Limiter)
    (e : String) (hlimit : 1 ≤ l.limitFor e) (hw : .zero < l.window)
    (calls : List (Instant × Call)) (hcalls : ∀ call ∈ calls, call.2.isRequest = true) {s : σ}
    (hs : v.Sound s) (hempty : v.tables s = .empty) :
    ∃ answers s', (Call.performAll l calls).run s = (.ok answers, s') ∧
      (∀ row, (v.tables s').row? e = some row → row.requestCount ≤ l.limitFor e) ∧
      (∀ (now : Instant) (c : Call), c.isRequest = true →
        ∃ answer s'', (c.perform l now).run s' = (.ok answer, s'') ∧
        ∀ row row', (v.tables s').row? e = some row → (v.tables s'').row? e = some row' →
          row'.windowStart ≠ row.windowStart → l.window ≤ row'.windowStart - row.windowStart) ∧
      ((calls.Pairwise fun c d => c.1 ≤ d.1) →
        ∀ leaps : Finset Int, (∀ call ∈ calls, call.1.Fits leaps) → ∀ a : Int,
          let count := (admitted e calls answers).countP fun t =>
            within l.window.nanos a (t.position leaps)
          count ≤ 2 * (l.limitFor e).toNat ∧
            (firstUse e calls = some (.acquire e) → count ≤ 2 * (l.limitFor e).toNat - 1)) := by
  obtain ⟨s', hrun, hs', hrows⟩ := Call.run_performAll hv l calls hs
  rw [hempty] at hrun hrows
  refine ⟨_, s', hrun, ?_, ?_, ?_⟩
  · have hnone : CountWithin l e (Tables.empty.row? e) := by
      intro r hr
      cases hr
    rw [hrows]
    exact hnone.run hcalls hw hlimit
  · intro now c hc
    obtain ⟨s'', hstep, -, hrows'⟩ := Call.run_perform hv l now c hs'
    refine ⟨_, s'', hstep, fun row row' hr hr' hne => ?_⟩
    rw [hrows', Call.onRows, hr] at hr'
    exact window_le_of_restart hc hw hr' hne
  · intro hmono leaps hfits a
    obtain ⟨first, hordinary, hfirstLe⟩ := exists_first_instant
    have hbound : ∀ spare, (l.limitFor e).toNat ≤ spare + 1 →
        (spare < (l.limitFor e).toNat → ∀ backoff, firstUse e calls ≠ some (.refuse e backoff)) →
        (admitted e calls (Call.answers l calls Tables.empty.row?)).countP
          (fun t => within l.window.nanos a (t.position leaps)) ≤ (l.limitFor e).toNat + spare := by
      intro spare hspare hfirst
      have hstart : HeldIn l e leaps spare (Tables.empty.row? e) [] first := rfl
      obtain ⟨later, hheld⟩ := hstart.run (fun h => absurd h (by simp [hordinary])) hcalls
        (fun call _ => hfirstLe call.1) hmono hfits hw hlimit hspare fun _ => hfirst
      have hcount := hheld.within_le a
      rwa [List.nil_append, List.countP_map] at hcount
    refine ⟨?_, fun hacquire => ?_⟩
    · have := hbound (l.limitFor e).toNat (by omega) (by omega)
      omega
    · have hlimit' : 1 ≤ (l.limitFor e).toNat := hlimit
      have := hbound ((l.limitFor e).toNat - 1) (by omega) (by simp [hacquire])
      omega

def twoAMinute : Limiter :=
  .new ⟨60000000000⟩ 2

def sinceEpoch (nanos : Int) : Instant :=
  Instant.epoch.addOrMax ⟨nanos⟩

def threeAround : List (Instant × Call) :=
  [(sinceEpoch 0, .acquire "pypi.org"), (sinceEpoch 59000000000, .acquire "pypi.org"),
    (sinceEpoch 59000000005, .acquire "pypi.org"), (sinceEpoch 60000000000, .acquire "pypi.org"),
    (sinceEpoch 61000000000, .acquire "pypi.org")]

theorem within_quota_threeAround :
    ∃ answers t, (Call.performAll twoAMinute threeAround : Effect Tables _).run .empty =
        (.ok answers, t) ∧
      (admitted "pypi.org" threeAround answers).countP
        (fun t => within 60000000000 59000000000 (t.position ∅)) ≤ 3 := by
  obtain ⟨answers, t, hrun, -, -, hcount⟩ := within_quota StoreView.reliable_memory twoAMinute
    "pypi.org" (by decide) (by decide) threeAround (by decide) trivial rfl
  have hmono : threeAround.Pairwise fun c d => c.1 ≤ d.1 := by decide
  have hfits : ∀ call ∈ threeAround, call.1.Fits ∅ := by
    have hordinary : ∀ call ∈ threeAround, call.1.inLeapSecond = false := by decide
    intro call hcall hleap
    rw [hordinary call hcall] at hleap
    cases hleap
  exact ⟨answers, t, hrun, (hcount hmono ∅ hfits 59000000000).2 rfl⟩

end Limiter

end NameScout
