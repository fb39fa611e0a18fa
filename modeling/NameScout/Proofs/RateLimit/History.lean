import NameScout.Proofs.RateLimit.Quota
import NameScout.Proofs.Time.Addition

namespace NameScout.Limiter

inductive Mark where
  | request
  | refusal (backoff : Duration)
  deriving DecidableEq

def mark? (e : String) : Call → Option Admission → Option Mark
  | .record k, _ => if k = e then some .request else none
  | .acquire k, some .allowed => if k = e then some .request else none
  | .refuse k backoff, _ => if k = e then some (.refusal backoff) else none
  | _, _ => none

def Call.covers (e : String) : Call → Bool
  | .reset k => k = e
  | .resetStart start => Text.startsWith e start
  | .resetAll => true
  | _ => false

/-- The requests and refusals of an endpoint after the last reset that covers it. -/
def history (e : String) (calls : List (Instant × Call)) (answers : List (Option Admission)) :
    List (Instant × Mark) :=
  ((calls.zip answers).reverse.takeWhile fun (call, _) => !call.2.covers e).reverse.filterMap
    fun (call, answer) => (mark? e call.2 answer).map fun m => (call.1, m)

/-- When the counting window began, and how many requests were made in it. -/
structure Window where
  start : Int
  count : Nat

namespace Window

def after (width : Int) (w : Window) : Instant × Mark → Window
  | (t, .request) =>
      if w.start + width ≤ t.ticks then ⟨t.ticks, 1⟩ else { w with count := w.count + 1 }
  | (_, .refusal _) => w

def of? (width : Int) : List (Instant × Mark) → Option Window
  | [] => none
  | (t, m) :: marks => some (((t, m) :: marks).foldl (after width) ⟨t.ticks, 0⟩)

end Window

def blockedUntil? (marks : List (Instant × Mark)) : Option Int :=
  marks.reverse.findSome? fun
    | (t, .refusal backoff) => some (min (t.ticks + backoff.nanos) Instant.max.ticks)
    | (_, .request) => none

def verdict (width : Int) (limit : Nat) (t : Int) (marks : List (Instant × Mark)) : Admission :=
  match Window.of? width marks with
  | none => .allowed
  | some w => match (blockedUntil? marks).filter (t < ·) with
      | some u => .denied ⟨u - t⟩
      | none =>
          if t < w.start + width ∧ limit ≤ w.count then .denied ⟨w.start + width - t⟩
          else .allowed

section Marks

variable {e : String} {width : Int}

theorem of?_append (marks : List (Instant × Mark)) (mark : Instant × Mark) :
    Window.of? width (marks ++ [mark]) =
      some (((Window.of? width marks).getD ⟨mark.1.ticks, 0⟩).after width mark) := by
  cases marks with
  | nil => rfl
  | cons m marks =>
      simp only [List.cons_append, Window.of?, List.foldl_cons, List.foldl_append, List.foldl_nil,
        Option.getD_some]

theorem blockedUntil?_request (marks : List (Instant × Mark)) (t : Instant) :
    blockedUntil? (marks ++ [(t, .request)]) = blockedUntil? marks := by
  simp [blockedUntil?]

theorem blockedUntil?_refusal (marks : List (Instant × Mark)) (t : Instant) (backoff : Duration) :
    blockedUntil? (marks ++ [(t, .refusal backoff)]) =
      some (min (t.ticks + backoff.nanos) Instant.max.ticks) := by
  simp [blockedUntil?]

theorem history_append {calls : List (Instant × Call)} {answers : List (Option Admission)}
    (hlen : calls.length = answers.length) (now : Instant) (c : Call) (a : Option Admission) :
    history e (calls ++ [(now, c)]) (answers ++ [a]) =
      if c.covers e then []
      else history e calls answers ++ ((mark? e c a).map fun m => (now, m)).toList := by
  rw [history, List.zip_append hlen, List.zip_cons_cons, List.zip_nil_right, List.reverse_append,
    List.reverse_singleton, List.singleton_append]
  by_cases hc : c.covers e = true
  · rw [List.takeWhile_cons_of_neg (by simp [hc]), if_pos hc]
    rfl
  · rw [List.takeWhile_cons_of_pos (by simp [hc]), if_neg hc, List.reverse_cons,
      List.filterMap_append, history]
    cases h : mark? e c a <;> simp [h]

end Marks

theorem length_answers (l : Limiter) (calls : List (Instant × Call)) (rows : Call.Rows) :
    calls.length = (Call.answers l calls rows).length := by
  induction calls generalizing rows with
  | nil => rfl
  | cons call calls ih =>
      rw [Call.answers, List.length_cons, List.length_cons, ← ih]

theorem answers_append (l : Limiter) (calls : List (Instant × Call)) (now : Instant) (c : Call)
    (rows : Call.Rows) :
    Call.answers l (calls ++ [(now, c)]) rows =
      Call.answers l calls rows ++ [c.answer l now (Call.rowsAfter l calls rows)] := by
  induction calls generalizing rows with
  | nil => rfl
  | cons call calls ih =>
      rw [List.cons_append, Call.answers, ih, Call.answers, List.cons_append]
      rfl

theorem rowsAfter_append (l : Limiter) (calls : List (Instant × Call)) (now : Instant) (c : Call)
    (rows : Call.Rows) :
    Call.rowsAfter l (calls ++ [(now, c)]) rows = c.onRows l now (Call.rowsAfter l calls rows) := by
  rw [Call.rowsAfter, List.foldl_append]
  rfl

section Summary

variable (l : Limiter)

/-- A row sums up the history of its endpoint by `now`; the count stops at its largest value. -/
structure Shows (marks : List (Instant × Mark)) (row : Row) (now : Instant) : Prop where
  window : ∃ w, Window.of? l.window.nanos marks = some w ∧ row.windowStart.ticks = w.start ∧
    row.requestCount.toNat = min w.count 4294967295
  blocked : row.backoffUntil.map Instant.ticks = blockedUntil? marks
  start_ordinary : row.windowStart.nano < 1000000000
  until_ordinary : ∀ u, row.backoffUntil = some u → u.nano < 1000000000
  start_le : row.windowStart.ticks ≤ now.ticks

def ShowsIn (marks : List (Instant × Mark)) : Option Row → Instant → Prop
  | none, _ => marks = []
  | some row, now => Shows l marks row now

variable {l} {e : String} {marks : List (Instant × Mark)} {now : Instant}

@[simp] theorem showsIn_some {row : Row} :
    ShowsIn l marks (some row) now ↔ Shows l marks row now :=
  Iff.rfl

theorem ShowsIn.later {row : Option Row} {later : Instant} (h : ShowsIn l marks row now)
    (hle : now.ticks ≤ later.ticks) : ShowsIn l marks row later := by
  cases row with
  | none => exact h
  | some row =>
      have := h.start_le
      exact { h with start_le := by omega }

theorem countOne_toNat (n : UInt32) :
    (Row.countOne n).toNat = min (n.toNat + 1) 4294967295 := by
  have hn : n.toNat < 4294967296 := n.toNat_lt
  rw [Row.countOne]
  split
  · rename_i h
    rw [h]
    rfl
  · rename_i h
    have hne : n.toNat ≠ 4294967295 := fun he => h (UInt32.toNat_inj.mp he)
    rw [UInt32.toNat_add]
    simp
    omega

theorem le_elapsed_iff_ticks (hw : .zero < l.window) {row : Row}
    (hs : row.windowStart.nano < 1000000000) (hn : now.nano < 1000000000) :
    l.window ≤ elapsed row now ↔ row.windowStart.ticks + l.window.nanos ≤ now.ticks := by
  rw [le_elapsed_iff hw, Duration.le_iff, Instant.nanos_since hn hs]
  omega

theorem nanos_elapsed {row : Row} (hs : row.windowStart.nano < 1000000000)
    (hn : now.nano < 1000000000) (hle : row.windowStart.ticks ≤ now.ticks) :
    (elapsed row now).nanos = now.ticks - row.windowStart.ticks := by
  have h := Instant.nanos_since hn hs
  rw [elapsed, Duration.forwards, if_neg (by omega)]
  exact h

theorem ShowsIn.counted {row : Option Row} (h : ShowsIn l marks row now) (hw : .zero < l.window)
    (hn : now.nano < 1000000000) :
    Shows l (marks ++ [(now, .request)]) (l.counted e row now) now := by
  have hw' : 0 < l.window.nanos := hw
  cases row with
  | none =>
      rw [show marks = [] from h, counted_none hw]
      refine ⟨⟨⟨now.ticks, 1⟩, ?_, rfl, rfl⟩, rfl, hn, by simp [Row.new], Int.le_refl _⟩
      rw [of?_append]
      exact congrArg some (if_neg (show ¬ now.ticks + l.window.nanos ≤ now.ticks by omega))
  | some row =>
      obtain ⟨w, hof, hstart, hcount⟩ := h.window
      have hmarks : Window.of? l.window.nanos (marks ++ [(now, .request)]) =
          some (w.after l.window.nanos (now, .request)) := by
        rw [of?_append, hof, Option.getD_some]
      have hblocked : row.backoffUntil.map Instant.ticks =
          blockedUntil? (marks ++ [(now, .request)]) := by
        rw [blockedUntil?_request]
        exact h.blocked
      have hiff := le_elapsed_iff_ticks hw h.start_ordinary hn
      simp only [Limiter.counted, Option.getD_some]
      by_cases he : l.window ≤ elapsed row now
      · rw [if_pos he]
        refine ⟨⟨⟨now.ticks, 1⟩, ?_, rfl, rfl⟩, hblocked, hn, h.until_ordinary, Int.le_refl _⟩
        rw [hmarks, Window.after, if_pos (by rw [← hstart]; exact hiff.mp he)]
      · rw [if_neg he]
        refine ⟨⟨{ w with count := w.count + 1 }, ?_, hstart, ?_⟩, hblocked, h.start_ordinary,
          h.until_ordinary, h.start_le⟩
        · rw [hmarks, Window.after, if_neg (by rw [← hstart]; exact fun hle => he (hiff.mpr hle))]
        · rw [countOne_toNat, hcount]
          change _ = min (w.count + 1) 4294967295
          omega

theorem ShowsIn.blocked {row : Option Row} (h : ShowsIn l marks row now)
    (hn : now.nano < 1000000000) {backoff : Duration} (hb : 0 ≤ backoff.nanos) :
    Shows l (marks ++ [(now, .refusal backoff)]) (Limiter.blocked e row now backoff) now := by
  obtain ⟨hticks, hnano⟩ := Instant.ticks_addOrMax hn hb
  have huntil : (Limiter.blocked e row now backoff).backoffUntil.map Instant.ticks =
      blockedUntil? (marks ++ [(now, .refusal backoff)]) := by
    rw [blockedUntil?_refusal, ← hticks]
    rfl
  have hordinary : ∀ u, (Limiter.blocked e row now backoff).backoffUntil = some u →
      u.nano < 1000000000 := by
    rintro u ⟨⟩
    exact hnano
  cases row with
  | none =>
      rw [show marks = [] from h] at huntil ⊢
      exact ⟨⟨⟨now.ticks, 0⟩, rfl, rfl, rfl⟩, huntil, hn, hordinary, Int.le_refl _⟩
  | some row =>
      obtain ⟨w, hof, hstart, hcount⟩ := h.window
      refine ⟨⟨w, ?_, hstart, hcount⟩, huntil, h.start_ordinary, hordinary, h.start_le⟩
      rw [of?_append, hof]
      rfl

theorem ShowsIn.decide_eq {row : Option Row} (h : ShowsIn l marks row now) (hw : .zero < l.window)
    (hn : now.nano < 1000000000) :
    l.decide e row now = verdict l.window.nanos (l.limitFor e).toNat now.ticks marks := by
  cases row with
  | none =>
      rw [show marks = [] from h]
      rfl
  | some row =>
      obtain ⟨w, hof, hstart, hcount⟩ := h.window
      have helapsed := nanos_elapsed h.start_ordinary hn h.start_le
      have hiff := le_elapsed_iff_ticks hw h.start_ordinary hn
      have hlimit : l.limitFor e ≤ row.requestCount ↔ (l.limitFor e).toNat ≤ w.count := by
        have := (l.limitFor e).toNat_lt
        change (l.limitFor e).toNat ≤ row.requestCount.toNat ↔ _
        omega
      have hrest : l.window - elapsed row now =
          ⟨w.start + l.window.nanos - now.ticks⟩ := by
        change (⟨l.window.nanos - (elapsed row now).nanos⟩ : Duration) = _
        rw [helapsed, hstart]
        congr 1
        omega
      have hwindow : (if l.window ≤ elapsed row now then Admission.allowed
          else if l.limitFor e ≤ row.requestCount then .denied (l.window - elapsed row now)
          else .allowed) =
          if now.ticks < w.start + l.window.nanos ∧ (l.limitFor e).toNat ≤ w.count then
            .denied ⟨w.start + l.window.nanos - now.ticks⟩ else .allowed := by
        rw [hrest]
        by_cases he : l.window ≤ elapsed row now
        · rw [if_pos he, if_neg (by have := hiff.mp he; omega)]
        · rw [if_neg he]
          have hlt : now.ticks < w.start + l.window.nanos := by
            rw [← hstart]
            exact Int.not_le.mp fun hle => he (hiff.mpr hle)
          by_cases hc : l.limitFor e ≤ row.requestCount
          · rw [if_pos hc, if_pos ⟨hlt, hlimit.mp hc⟩]
          · rw [if_neg hc, if_neg fun hboth => hc (hlimit.mpr hboth.2)]
      rw [verdict, hof, ← Shows.blocked h]
      cases hu : row.backoffUntil with
      | none => simpa [Limiter.decide, hu] using hwindow
      | some u =>
          have hun := h.until_ordinary u hu
          have hlt : now < u ↔ now.ticks < u.ticks := Instant.lt_iff_ticks hn hun
          have hwait : u - now = (⟨u.ticks - now.ticks⟩ : Duration) := by
            have := Instant.nanos_since hun hn
            rw [← this]
          by_cases hb : now.ticks < u.ticks
          · simp [Limiter.decide, hu, Option.filter, hlt, hb, hwait]
          · simpa [Limiter.decide, hu, Option.filter, hlt, hb] using hwindow

theorem ShowsIn.step {row : Option Row} {c : Call} {rows : Call.Rows} (h : ShowsIn l marks row now)
    (hw : .zero < l.window) (hn : now.nano < 1000000000) (hrow : rows e = row)
    (hb : ∀ backoff, c = .refuse e backoff → 0 ≤ backoff.nanos) :
    ShowsIn l (if c.covers e then [] else
      marks ++ ((mark? e c (c.answer l now rows)).map fun m => (now, m)).toList)
      (c.onRow l now e row) now := by
  cases c with
  | allow k => simpa [Call.covers, mark?, Call.onRow] using h
  | record k =>
      by_cases hk : k = e
      · subst hk
        simpa [Call.covers, mark?, Call.onRow] using h.counted hw hn
      · simpa [Call.covers, mark?, Call.onRow, hk, Ne.symm hk] using h
  | refuse k backoff =>
      by_cases hk : k = e
      · subst hk
        simpa [Call.covers, mark?, Call.onRow] using h.blocked hn (hb backoff rfl)
      · simpa [Call.covers, mark?, Call.onRow, hk, Ne.symm hk] using h
  | acquire k =>
      by_cases hk : k = e
      · subst hk
        cases hd : l.decide k row now with
        | allowed =>
            simpa [Call.covers, mark?, Call.onRow, Call.answer, hrow, hd, Admission.isAllowed]
              using h.counted hw hn
        | denied time =>
            simpa [Call.covers, mark?, Call.onRow, Call.answer, hrow, hd, Admission.isAllowed]
              using h
      · have hmark : ∀ a, mark? e (.acquire k) a = none := by
          rintro (_ | _ | _) <;> simp [mark?, hk]
        simpa [Call.covers, hmark, Call.onRow, Ne.symm hk] using h
  | reset k =>
      by_cases hk : k = e
      · subst hk
        simp [Call.covers, Call.onRow, ShowsIn]
      · simpa [Call.covers, mark?, Call.onRow, hk, Ne.symm hk] using h
  | resetStart start =>
      by_cases hs : Text.startsWith e start = true
      · simp [Call.covers, Call.onRow, hs, ShowsIn]
      · simpa [Call.covers, mark?, Call.onRow, hs] using h
  | resetAll => simp [Call.covers, Call.onRow, ShowsIn]

theorem showsIn_history {calls : List (Instant × Call)} (hw : .zero < l.window)
    (hmono : calls.Pairwise fun c d => c.1 ≤ d.1)
    (hordinary : ∀ call ∈ calls, call.1.inLeapSecond = false)
    (hbackoff : ∀ call ∈ calls, ∀ k backoff, call.2 = .refuse k backoff → .zero ≤ backoff)
    {later : Instant} (hlater : ∀ call ∈ calls, call.1 ≤ later)
    (hn : later.inLeapSecond = false) :
    ShowsIn l (history e calls (Call.answers l calls fun _ => none))
      (Call.rowsAfter l calls (fun _ => none) e) later := by
  induction calls using List.reverseRecOn generalizing later with
  | nil => exact rfl
  | append_singleton calls call ih =>
      obtain ⟨now, c⟩ := call
      rw [List.pairwise_append] at hmono
      have hmem : (now, c) ∈ calls ++ [(now, c)] := by simp
      have hnow : now.nano < 1000000000 :=
        Instant.inLeapSecond_eq_false_iff.mp (hordinary _ hmem)
      have hbefore := ih hmono.1 (fun d hd => hordinary d (List.mem_append_left _ hd))
        (fun d hd => hbackoff d (List.mem_append_left _ hd))
        (fun d hd => hmono.2.2 d hd (now, c) List.mem_cons_self) (hordinary _ hmem)
      have hle : now.ticks ≤ later.ticks :=
        (Instant.le_iff_ticks hnow (Instant.inLeapSecond_eq_false_iff.mp hn)).mp (hlater _ hmem)
      have hstep := hbefore.step hw hnow rfl fun backoff hc => hbackoff _ hmem e backoff hc
      rw [answers_append, history_append (length_answers l calls _), rowsAfter_append]
      exact hstep.later hle

end Summary

/-- The limiter answers by the history of the endpoint alone, whatever the length of the run and
whatever else was done in it. -/
theorem allow_eq_verdict {σ : Type} [Store σ] {v : StoreView σ} (hv : v.Reliable) (l : Limiter)
    (hw : .zero < l.window) (calls : List (Instant × Call)) (t : Instant)
    (hmono : (calls.map Prod.fst ++ [t]).Pairwise (· ≤ ·))
    (hordinary : ∀ time ∈ calls.map Prod.fst ++ [t], time.inLeapSecond = false)
    (hbackoff : ∀ call ∈ calls, ∀ k backoff, call.2 = .refuse k backoff → .zero ≤ backoff)
    {s : σ} (hs : v.Sound s) (hempty : v.tables s = .empty) :
    ∃ answers s', (Call.performAll l calls).run s = (.ok answers, s') ∧
      ∀ e, ∃ s'', (l.allow e t).run s' = (.ok (verdict l.window.nanos (l.limitFor e).toNat t.ticks
        (history e calls answers)), s'') := by
  obtain ⟨s', hrun, hs', hrows⟩ := Call.run_performAll hv l calls hs
  refine ⟨_, s', hrun, fun e => ?_⟩
  rw [List.pairwise_append, List.pairwise_map] at hmono
  have hshows : ShowsIn l (history e calls (Call.answers l calls fun _ => none))
      (Call.rowsAfter l calls (fun _ => none) e) t := by
    apply showsIn_history hw hmono.1
    · exact fun call hc => hordinary _ (List.mem_append_left _ (List.mem_map_of_mem hc))
    · exact hbackoff
    · exact fun call hc => hmono.2.2 _ (List.mem_map_of_mem hc) t List.mem_cons_self
    · exact hordinary t (by simp)
  have ht : t.nano < 1000000000 :=
    Instant.inLeapSecond_eq_false_iff.mp (hordinary t (by simp))
  have hfollows : v.Follows (l.allow e t) (l.allow e t) :=
    StoreView.follows_bind (hv.row? e) fun _ => v.follows_pure _
  obtain ⟨s'', hallow, -, -⟩ := hfollows s' hs'
  refine ⟨s'', ?_⟩
  rw [hallow]
  have hrow : (v.tables s').row? e = Call.rowsAfter l calls (fun _ => none) e := by
    rw [hrows, hempty]
    rfl
  rw [hempty]
  change (Except.ok (l.decide e ((v.tables s').row? e) t), s'') = _
  rw [hrow, hshows.decide_eq hw ht]
  rfl

def inLeap : Instant :=
  { second := 1483228799, nano := 1800000000 }

def afterLeap : Instant :=
  { second := 1483228800, nano := 500000000 }

/-- A window that begins in a leap second at the end of a day is not over when it should be:
the wait is ten seconds where 9.3 are left. -/
theorem denial_after_leap_second :
    inLeap ≤ afterLeap ∧
      (∃ stop, inLeap.add? ⟨10000000000⟩ = some stop ∧ afterLeap < stop ∧
        stop - afterLeap = (⟨9300000000⟩ : Duration)) ∧
      ∃ t, (Call.performAll (.new ⟨10000000000⟩ 1) [(inLeap, .record "rdap.org")] :
          Effect Tables _).run .empty = (.ok [none], t) ∧
        (allow (.new ⟨10000000000⟩ 1) "rdap.org" afterLeap).run t =
          (.ok (.denied ⟨10000000000⟩), t) :=
  ⟨by decide, ⟨{ second := 1483228809, nano := 800000000 }, by decide, by decide, by decide⟩,
    _, rfl, rfl⟩

def mixedCalls : List (Instant × Call) :=
  [(sinceEpoch 0, .refuse "crates.io" ⟨5000000000⟩), (sinceEpoch 1000000000, .record "pypi.org"),
    (sinceEpoch 2000000000, .resetStart "pypi"), (sinceEpoch 3000000000, .acquire "crates.io"),
    (sinceEpoch 6000000000, .acquire "crates.io")]

theorem allow_eq_verdict_mixedCalls :
    ∃ answers t, (Call.performAll twoAMinute mixedCalls : Effect Tables _).run .empty =
        (.ok answers, t) ∧
      ∀ e, ∃ t', (allow twoAMinute e (sinceEpoch 7000000000)).run t =
        (.ok (verdict 60000000000 (twoAMinute.limitFor e).toNat 7000000000
          (history e mixedCalls answers)), t') := by
  have hbackoff : ∀ call ∈ mixedCalls, ∀ k backoff, call.2 = .refuse k backoff →
      Duration.zero ≤ backoff := by
    intro call hcall k backoff hrefuse
    simp only [mixedCalls, List.mem_cons, List.not_mem_nil, or_false] at hcall
    rcases hcall with rfl | rfl | rfl | rfl | rfl <;> cases hrefuse
    decide
  exact allow_eq_verdict StoreView.reliable_memory twoAMinute (by decide) mixedCalls
    (sinceEpoch 7000000000) (by decide) (by decide) hbackoff trivial rfl

end NameScout.Limiter
