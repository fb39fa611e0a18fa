import NameScout.Proofs.Batch.Move

namespace NameScout.Batch.State

section Trace

variable {α : Type} (names : List String) (note : State → Event → Option α)

def trace : State → List Event → List α
  | _, [] => []
  | s, e :: events => (note s e).toList ++ match s.step? names e with
      | some s' => trace s' events
      | none => []

theorem run?_cons (s : State) (e : Event) (events : List Event) :
    run? names s (e :: events) = (s.step? names e).bind fun s' => run? names s' events := by
  rw [run?, List.foldlM_cons]
  rfl

/-- What holds of the start, with nothing noted, and is kept by every step holds of a run and
all that is noted in it. -/
theorem trace_induction {P : List α → State → Prop}
    (hstep : ∀ noted s e s', P noted s → Move names s e s' → P (noted ++ (note s e).toList) s')
    {noted : List α} {s s' : State} {events : List Event} (hs : P noted s)
    (hrun : run? names s events = some s') : P (noted ++ trace names note s events) s' := by
  induction events generalizing noted s with
  | nil =>
      cases hrun
      rw [trace, List.append_nil]
      exact hs
  | cons e events ih =>
      rw [run?_cons, Option.bind_eq_some_iff] at hrun
      obtain ⟨s₁, he, hrun⟩ := hrun
      rw [trace, he, ← List.append_assoc]
      exact ih (hstep noted s e s₁ hs (move_of_step? he)) hrun

end Trace

def taken? (s : State) : Event → Option (Nat × Nat)
  | .take w => match s.activity? w, s.queue with
      | some .receiving, place :: _ => some (w, place)
      | _, _ => none
  | _ => none

structure Finished where
  place : Nat
  outcome : Except Halt (List CheckResult)
  time : Instant

def finished? (s : State) : Event → Option Finished
  | .finish w outcome time => match s.activity? w with
      | some (.checking place) => some { place, outcome, time }
      | _ => none
  | _ => none

def finishedBy? (s : State) : Event → Option (Nat × Finished)
  | .finish w outcome time => match s.activity? w with
      | some (.checking place) => some (w, { place, outcome, time })
      | _ => none
  | _ => none

theorem finishedBy?_finish {s : State} {w place : Nat} (hw : s.activity? w = some (.checking place))
    (outcome : Except Halt (List CheckResult)) (time : Instant) :
    finishedBy? s (.finish w outcome time) = some (w, ⟨place, outcome, time⟩) := by
  simp [finishedBy?, hw]

theorem mem_modify {α : Type} {l : List α} {i : Nat} {f : α → α} {x : α} (h : x ∈ l.modify i f) :
    x ∈ l ∨ ∃ y, l[i]? = some y ∧ x = f y := by
  obtain ⟨j, hj⟩ := List.mem_iff_getElem?.mp h
  by_cases hij : i = j
  · subst hij
    cases hy : l[i]? with
    | none => simp [hy] at hj
    | some y =>
        have hx : f y = x := by simpa [hy] using hj
        exact .inr ⟨y, rfl, hx.symm⟩
  · have hx : l[j]? = some x := by simpa [List.getElem?_modify, hij] using hj
    exact .inl (List.mem_of_getElem? hx)

end NameScout.Batch.State
