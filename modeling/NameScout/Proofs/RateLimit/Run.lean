import NameScout.Proofs.Store.Reliable
import NameScout.RateLimit.Limiter

namespace NameScout

namespace Limiter

theorem run_acquire (l : Limiter) (now : Instant) (e : String) (t : Tables) :
    (l.acquire e now : Effect Tables _).run t = (.ok (l.decide e (t.row? e) now),
      if (l.decide e (t.row? e) now).isAllowed then t.putRow e (l.counted e (t.row? e) now)
      else t) := by
  have hallow : (l.allow e now : Effect Tables _).run t = (.ok (l.decide e (t.row? e) now), t) :=
    rfl
  rw [acquire, Effect.run_bind, hallow]
  cases hd : l.decide e (t.row? e) now <;> rfl

inductive Call where
  | allow (endpoint : String)
  | record (endpoint : String)
  | refuse (endpoint : String) (backoff : Duration)
  | acquire (endpoint : String)
  | reset (endpoint : String)
  | resetStart (start : String)
  | resetAll
  deriving DecidableEq

namespace Call

section Kept

variable {σ : Type} [Store σ]

def perform (l : Limiter) (now : Instant) : Call → Effect σ (Option Admission)
  | allow e => do return some (← l.allow e now)
  | record e => do l.record e now; return none
  | refuse e backoff => do recordRefusal e backoff now; return none
  | acquire e => do return some (← l.acquire e now)
  | reset e => do let _ ← RowAdmin.reset (σ := σ) e; return none
  | resetStart start => do let _ ← RowAdmin.resetStart (σ := σ) start; return none
  | resetAll => do let _ ← RowAdmin.resetAll (σ := σ); return none

def performAll (l : Limiter) : List (Instant × Call) → Effect σ (List (Option Admission))
  | [] => return []
  | (now, c) :: calls => do
      let a ← c.perform l now
      let rest ← performAll l calls
      return a :: rest

end Kept

abbrev Rows := String → Option Row

def answer (l : Limiter) (now : Instant) (rows : Rows) : Call → Option Admission
  | allow e | acquire e => some (l.decide e (rows e) now)
  | _ => none

def onRow (l : Limiter) (now : Instant) (e : String) (row : Option Row) : Call → Option Row
  | allow _ => row
  | record k => if e = k then some (l.counted e row now) else row
  | refuse k backoff => if e = k then some (blocked e row now backoff) else row
  | acquire k =>
      if e = k ∧ (l.decide e row now).isAllowed then some (l.counted e row now) else row
  | reset k => if e = k then none else row
  | resetStart start => if Text.startsWith e start then none else row
  | resetAll => none

def onRows (l : Limiter) (now : Instant) (c : Call) (rows : Rows) : Rows :=
  fun e => c.onRow l now e (rows e)

theorem startsWith_nothing (s : String) : Text.startsWith s "" = true := by
  simp [Text.startsWith, Text.dropStart?]

theorem perform_tables (l : Limiter) (now : Instant) (c : Call) (t : Tables) :
    ∃ t', (c.perform l now : Effect Tables _).run t = (.ok (c.answer l now t.row?), t') ∧
      t'.row? = c.onRows l now t.row? := by
  cases c with
  | allow e => exact ⟨t, rfl, rfl⟩
  | record e =>
      refine ⟨t.putRow e (l.counted e (t.row? e) now), rfl, funext fun k => ?_⟩
      rw [Tables.row?_putRow]
      by_cases h : k = e
      · subst h; simp [onRows, onRow]
      · simp [onRows, onRow, h]
  | refuse e backoff =>
      refine ⟨t.putRow e (blocked e (t.row? e) now backoff), rfl, funext fun k => ?_⟩
      rw [Tables.row?_putRow]
      by_cases h : k = e
      · subst h; simp [onRows, onRow]
      · simp [onRows, onRow, h]
  | acquire e =>
      refine ⟨if (l.decide e (t.row? e) now).isAllowed then
          t.putRow e (l.counted e (t.row? e) now) else t, ?_, funext fun k => ?_⟩
      · rw [perform, Effect.run_bind, run_acquire]
        rfl
      · by_cases hk : k = e
        · subst hk
          by_cases ha : (l.decide k (t.row? k) now).isAllowed = true
          · simp [onRows, onRow, Tables.row?_putRow, ha]
          · simp [onRows, onRow, ha]
        · by_cases ha : (l.decide e (t.row? e) now).isAllowed = true
          · simp [onRows, onRow, Tables.row?_putRow, ha, hk]
          · simp [onRows, onRow, ha, hk]
  | reset e => exact ⟨t.eraseRow e, rfl, funext fun k => Tables.row?_eraseRow t e k⟩
  | resetStart start =>
      exact ⟨t.eraseRows start, rfl, funext fun k => Tables.row?_eraseRows t start k⟩
  | resetAll =>
      refine ⟨t.eraseRows "", rfl, funext fun k => ?_⟩
      rw [Tables.row?_eraseRows, startsWith_nothing]
      rfl

def answers (l : Limiter) : List (Instant × Call) → Rows → List (Option Admission)
  | [], _ => []
  | (now, c) :: calls, rows => c.answer l now rows :: answers l calls (c.onRows l now rows)

def rowsAfter (l : Limiter) (calls : List (Instant × Call)) (rows : Rows) : Rows :=
  calls.foldl (fun rows call => call.2.onRows l call.1 rows) rows

theorem performAll_tables (l : Limiter) (calls : List (Instant × Call)) (t : Tables) :
    ∃ t', (performAll l calls : Effect Tables _).run t = (.ok (answers l calls t.row?), t') ∧
      t'.row? = rowsAfter l calls t.row? := by
  induction calls generalizing t with
  | nil => exact ⟨t, rfl, rfl⟩
  | cons call calls ih =>
      obtain ⟨now, c⟩ := call
      obtain ⟨t₁, h₁, hrows₁⟩ := perform_tables l now c t
      obtain ⟨t₂, h₂, hrows₂⟩ := ih t₁
      refine ⟨t₂, ?_, ?_⟩
      · rw [performAll, Effect.run_bind, h₁]
        dsimp only
        rw [Effect.run_bind, h₂, hrows₁]
        rfl
      · rw [hrows₂, hrows₁]
        rfl

section Reliable

variable {σ : Type} [Store σ] {v : StoreView σ} (hv : v.Reliable)

include hv

theorem follows_allow (l : Limiter) (e : String) (now : Instant) :
    v.Follows (l.allow e now) (l.allow e now) :=
  StoreView.follows_bind (hv.row? e) fun _ => v.follows_pure _

theorem follows_record (l : Limiter) (e : String) (now : Instant) :
    v.Follows (l.record e now) (l.record e now) :=
  StoreView.follows_bind (hv.row? e) fun _ => hv.putRow e _

theorem follows_recordRefusal (e : String) (backoff : Duration) (now : Instant) :
    v.Follows (recordRefusal e backoff now) (recordRefusal e backoff now) :=
  StoreView.follows_bind (hv.row? e) fun _ => hv.putRow e _

theorem follows_acquire (l : Limiter) (e : String) (now : Instant) :
    v.Follows (l.acquire e now) (l.acquire e now) := by
  refine StoreView.follows_bind (follows_allow hv l e now) fun a => ?_
  cases a with
  | allowed => exact StoreView.follows_bind (follows_record hv l e now) fun _ => v.follows_pure _
  | denied time => exact v.follows_pure _

theorem follows_perform (l : Limiter) (now : Instant) (c : Call) :
    v.Follows (c.perform l now) (c.perform l now) := by
  cases c with
  | allow e => exact StoreView.follows_bind (follows_allow hv l e now) fun _ => v.follows_pure _
  | record e => exact StoreView.follows_bind (follows_record hv l e now) fun _ => v.follows_pure _
  | refuse e backoff =>
      exact StoreView.follows_bind (follows_recordRefusal hv e backoff now) fun _ =>
        v.follows_pure _
  | acquire e =>
      exact StoreView.follows_bind (follows_acquire hv l e now) fun _ => v.follows_pure _
  | reset e => exact StoreView.follows_bind (hv.eraseRow e) fun _ => v.follows_pure _
  | resetStart start => exact StoreView.follows_bind (hv.eraseRows start) fun _ => v.follows_pure _
  | resetAll => exact StoreView.follows_bind (hv.eraseRows "") fun _ => v.follows_pure _

theorem follows_performAll (l : Limiter) (calls : List (Instant × Call)) :
    v.Follows (performAll l calls) (performAll l calls) := by
  induction calls with
  | nil => exact v.follows_pure _
  | cons call calls ih =>
      refine StoreView.follows_bind (follows_perform hv l call.1 call.2) fun _ => ?_
      exact StoreView.follows_bind ih fun _ => v.follows_pure _

theorem run_perform (l : Limiter) (now : Instant) (c : Call) {s : σ} (hs : v.Sound s) :
    ∃ s', (c.perform l now).run s = (.ok (c.answer l now (v.tables s).row?), s') ∧ v.Sound s' ∧
      (v.tables s').row? = c.onRows l now (v.tables s).row? := by
  obtain ⟨s', hrun, hs', ht⟩ := follows_perform hv l now c s hs
  obtain ⟨t', hrun', hrows⟩ := perform_tables l now c (v.tables s)
  rw [hrun'] at hrun ht
  exact ⟨s', hrun, hs', by rw [ht, hrows]⟩

theorem run_performAll (l : Limiter) (calls : List (Instant × Call)) {s : σ} (hs : v.Sound s) :
    ∃ s', (performAll l calls).run s = (.ok (answers l calls (v.tables s).row?), s') ∧ v.Sound s' ∧
      (v.tables s').row? = rowsAfter l calls (v.tables s).row? := by
  obtain ⟨s', hrun, hs', ht⟩ := follows_performAll hv l calls s hs
  obtain ⟨t', hrun', hrows⟩ := performAll_tables l calls (v.tables s)
  rw [hrun'] at hrun ht
  exact ⟨s', hrun, hs', by rw [ht, hrows]⟩

end Reliable

end Call

end Limiter

end NameScout
