import NameScout.Proofs.Lookup.Quota

namespace NameScout

theorem eq_mk_of_fst {α β : Type} {p : α × β} {a : α} (h : p.1 = a) : p = (a, p.2) :=
  Prod.ext h rfl

namespace Wired

variable {σ : Type} [Store σ] [Clock σ] [Http.Network σ]

/-- The states that checks by any lookups lead to, on one store and one clock. Between two checks
time may pass. -/
inductive Later (w : Wired σ) (s₀ : σ) : σ → Prop
  | start : Later w s₀ s₀
  | check {s : σ} (before : Later w s₀ s) (l : Lookup) (name : String) :
      Later w s₀ ((l.check name).run s).2
  | wait {s s' : σ} (before : Later w s₀ s) (sent : w.Sent s s' [])
      (tables : w.view.tables s' = w.view.tables s) : Later w s₀ s'

variable {w : Wired σ} {l : Lookup} {name : String} {s₀ s s' : σ}

omit [Store σ] in
theorem Course.exists_sent {replied : Except Failure (Option Http.Reply) × σ}
    {outcome : Except Failure CheckResult} (h : w.Course l name s replied (outcome, s')) :
    ∃ requests, w.Sent s s' requests := by
  cases h with
  | found hit still | unaskable missed url still | heldBack missed url_eq denied still =>
      exact ⟨[], still.sent⟩
  | failed missed url_eq allowed sent | answered missed url_eq allowed sent => exact ⟨_, sent⟩

theorem Later.sound (h : w.Lawful) (hlater : w.Later s₀ s) (hs : w.view.Sound s₀) :
    w.view.Sound s := by
  induction hlater with
  | start => exact hs
  | check before l name ih =>
      obtain ⟨requests, hsent⟩ := (h.course l name ih).exists_sent
      exact hsent.sound
  | wait before sent => exact sent.sound

theorem Later.trans {s₁ : σ} (h : w.Later s₀ s₁) (h' : w.Later s₁ s) : w.Later s₀ s := by
  induction h' with
  | start => exact h
  | check _ l name ih => exact .check ih l name
  | wait _ sent tables ih => exact .wait ih sent tables

theorem Later.preserves (h : w.Lawful) (hlater : w.Later s₀ s) (hs : w.view.Sound s₀)
    {P : Tables → Prop} (hstep : ∀ {l name s s' replied outcome},
      w.Course l name s replied (outcome, s') → P (w.view.tables s) → P (w.view.tables s'))
    (hstart : P (w.view.tables s₀)) : P (w.view.tables s) := by
  induction hlater with
  | start => exact hstart
  | check before l name ih => exact hstep (h.course l name (before.sound h hs)) ih
  | wait before sent tables ih =>
      rw [tables]
      exact ih

theorem Later.keeps (h : w.Lawful) (hlater : w.Later s₀ s) (hs : w.view.Sound s₀) {u : Instant}
    {P : Tables → Prop} (hstep : ∀ {l name s s' replied outcome},
      w.Course l name s replied (outcome, s') → Clock.now s < u → P (w.view.tables s) →
        P (w.view.tables s'))
    (hstart : P (w.view.tables s₀)) (hu : Clock.now s < u) : P (w.view.tables s) := by
  induction hlater with
  | start => exact hstart
  | check before l name ih =>
      have hcourse := h.course l name (before.sound h hs)
      obtain ⟨requests, hsent⟩ := hcourse.exists_sent
      have hnow := Instant.lt_of_le_of_lt hsent.later hu
      exact hstep hcourse hnow (ih hnow)
  | wait before sent tables ih =>
      rw [tables]
      exact ih (Instant.lt_of_le_of_lt sent.later hu)

end Wired

namespace World

def waited (w : World) (later : Instant) : World :=
  { w with clock := later }

theorem later_waited {Kind : Http.Reply → Prop} {w₀ w : World} {later : Instant}
    (h : (wired Kind).Later w₀ w) (hw : (wired Kind).view.Sound w) (hle : w.clock ≤ later) :
    (wired Kind).Later w₀ (w.waited later) :=
  .wait h ⟨hw, hle, (List.append_nil _).symm⟩ rfl

def refusal : Http.Reply :=
  { status := 429, headers := [("Retry-After", " +120 ")] }

/-- A name that is refused for two minutes, and one that is taken. -/
def refusing : World :=
  replying [some refusal, some { status := 200, headers := [] }]

end World

end NameScout
