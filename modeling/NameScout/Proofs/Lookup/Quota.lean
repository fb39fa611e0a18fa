import NameScout.Proofs.Lookup.Wire
import NameScout.Proofs.RateLimit.Quota

namespace NameScout

namespace Limiter

variable {l : Limiter} {now : Instant}

theorem open_at_start (hw : .zero < l.window) {row : Row} (h : row.windowStart = now) :
    ¬ l.window ≤ elapsed row now := by
  rw [le_elapsed_iff hw, h, Duration.le_iff, Instant.since_self]
  exact Int.not_le.mpr hw

theorem open_counted (hw : .zero < l.window) (e : String) (row : Option Row) :
    ¬ l.window ≤ elapsed (l.counted e row now) now := by
  cases row with
  | none =>
      rw [counted_none hw]
      exact open_at_start hw rfl
  | some row =>
      simp only [counted, Option.getD_some]
      by_cases he : l.window ≤ elapsed row now
      · rw [if_pos he]
        exact open_at_start hw rfl
      · rw [if_neg he]
        exact he

end Limiter

namespace Wired

variable {σ : Type}

structure Visit (σ : Type) where
  before : σ
  after : σ

def sent (w : Wired σ) (v : Visit σ) : List Http.Request :=
  (w.seen v.after).drop (w.seen v.before).length

section Runs

variable [Store σ] [Clock σ] [Http.Network σ]

/-- Checks one after another, by lookups of any kind that share a limiter. Between two checks
only time passes for the store and for the network that has seen the requests. -/
inductive Run (w : Wired σ) (lim : Limiter) (s₀ : σ) : List (Visit σ) → σ → Prop
  | start : Run w lim s₀ [] s₀
  | check {visits : List (Visit σ)} {s : σ} (run : Run w lim s₀ visits s) (l : Lookup)
      (shared : l.limiter = some lim) (name : String) :
      Run w lim s₀ (visits ++ [⟨s, ((l.check name).run s).2⟩]) ((l.check name).run s).2
  | wait {visits : List (Visit σ)} {s s' : σ} (run : Run w lim s₀ visits s)
      (sent : w.Sent s s' []) (tables : w.view.tables s' = w.view.tables s) :
      Run w lim s₀ visits s'

end Runs

/-- At most one more request, and that in the window that began at a moment. -/
def OneMore (count count' : Instant → Nat) (start : Instant) : Prop :=
  count' start ≤ count start + 1 ∧ ∀ other, other ≠ start → count' other ≤ count other

section Windows

variable [Clock σ] {w : Wired σ} {lim : Limiter} {e : String}

def inWindow (w : Wired σ) (lim : Limiter) (e : String) (start : Instant) (v : Visit σ) : Bool :=
  ((w.view.tables v.after).row? e).any fun row =>
    row.windowStart = start ∧ ¬ lim.window ≤ Limiter.elapsed row (Clock.now v.before)

def asks (w : Wired σ) (lim : Limiter) (e : String) (start : Instant) (v : Visit σ) : Bool :=
  w.inWindow lim e start v && (w.sent v).head?.any (·.url.host? = some e)

/-- The requests for an endpoint that came in such a window, those for redirects among them. -/
def received (w : Wired σ) (lim : Limiter) (e : String) (start : Instant)
    (visits : List (Visit σ)) : List Http.Request :=
  ((visits.filter (w.inWindow lim e start)).flatMap w.sent).filter (·.url.host? = some e)

theorem Sent.sent_eq {s s' : σ} {requests : List Http.Request}
    (h : w.Sent s s' requests) : w.sent ⟨s, s'⟩ = requests := by
  rw [sent, h.seen_eq, List.drop_left]

theorem inWindow_iff {start : Instant} {v : Visit σ} :
    w.inWindow lim e start v = true ↔ ∃ row, (w.view.tables v.after).row? e = some row ∧
      row.windowStart = start ∧ ¬ lim.window ≤ Limiter.elapsed row (Clock.now v.before) := by
  rw [inWindow, Option.any_eq_true]
  simp

def asked (w : Wired σ) (lim : Limiter) (e : String) (visits : List (Visit σ))
    (start : Instant) : Nat :=
  visits.countP (w.asks lim e start)

theorem asked_append (visits : List (Visit σ)) (v : Visit σ) (start : Instant) :
    w.asked lim e (visits ++ [v]) start =
      w.asked lim e visits start + if w.asks lim e start v = true then 1 else 0 := by
  rw [asked, List.countP_append, List.countP_singleton]
  rfl

theorem asked_append_of_false {visits : List (Visit σ)} {v : Visit σ}
    (h : ∀ start, w.asks lim e start v = false) :
    w.asked lim e (visits ++ [v]) = w.asked lim e visits := by
  funext start
  rw [asked_append, h]
  rfl

theorem oneMore_asked {visits : List (Visit σ)} {v : Visit σ} {start : Instant}
    (h : ∀ other, w.asks lim e other v = true → other = start) :
    OneMore (w.asked lim e visits) (w.asked lim e (visits ++ [v])) start := by
  refine ⟨?_, fun other hne => ?_⟩
  · rw [asked_append]
    split <;> omega
  · rw [asked_append, if_neg fun hasks => hne (h other hasks)]
    exact Nat.le_refl _

theorem length_filter_le_head? {α : Type} {p : α → Bool} {l : List α} (h : l.length ≤ 1) :
    (l.filter p).length ≤ if l.head?.any p = true then 1 else 0 := by
  cases l with
  | nil => exact Nat.le_refl 0
  | cons a l =>
      obtain rfl : l = [] := List.length_eq_zero_iff.mp (by simpa using h)
      cases hp : p a <;> simp [hp]

theorem asks_eq_false (hw : ¬ .zero < lim.window) (start : Instant) (v : Visit σ) :
    w.asks lim e start v = false := by
  rw [asks, Bool.and_eq_false_iff]
  refine .inl (Bool.eq_false_iff.mpr fun hin => ?_)
  obtain ⟨row, -, -, hopen⟩ := inWindow_iff.mp hin
  have hnonneg : 0 ≤ (Limiter.elapsed row (Clock.now v.before)).nanos := by
    rw [Limiter.elapsed, Duration.forwards]
    split
    · exact Int.le_refl 0
    · omega
  exact hopen (Int.le_trans (Int.not_lt.mp hw) hnonneg)

theorem length_received_le {visits : List (Visit σ)} (h : ∀ v ∈ visits, (w.sent v).length ≤ 1)
    (start : Instant) :
    (w.received lim e start visits).length ≤ w.asked lim e visits start := by
  induction visits with
  | nil => exact Nat.le_refl 0
  | cons v visits ih =>
      have ih := ih fun u hu => h u (List.mem_cons_of_mem v hu)
      have hone := h v List.mem_cons_self
      rw [received, asked] at ih ⊢
      rw [List.countP_cons, List.filter_cons]
      cases hin : w.inWindow lim e start v with
      | false => simpa [asks, hin] using ih
      | true =>
          simp only [if_true, List.flatMap_cons, List.filter_append, List.length_append, asks,
            hin, Bool.true_and]
          have hfirst := length_filter_le_head? (p := (·.url.host? = some e)) hone
          omega

end Windows

section Pace

variable {lim : Limiter} {e : String} {count count' : Instant → Nat} {now : Instant}

/-- What the window of an endpoint and the numbers of requests that were let pass in each of its
windows have to do with each other by `now`. -/
structure Paced (lim : Limiter) (e : String) (count : Instant → Nat) (now : Instant)
    (window : Instant × UInt32) : Prop where
  start_le : window.1 ≤ now
  count_le : count window.1 ≤ window.2.toNat
  within : ∀ start, count start ≤ max 1 (lim.limitFor e).toNat
  past : ∀ start, 0 < count start → start ≤ window.1

def PacedIn (lim : Limiter) (e : String) (count : Instant → Nat) (now : Instant) :
    Option (Instant × UInt32) → Prop
  | none => ∀ start, count start = 0
  | some window => Paced lim e count now window

theorem PacedIn.later {window : Option (Instant × UInt32)} {later : Instant}
    (h : PacedIn lim e count now window) (hle : now ≤ later) :
    PacedIn lim e count later window := by
  cases window with
  | none => exact h
  | some window => exact ⟨Instant.le_trans h.start_le hle, h.count_le, h.within, h.past⟩

theorem PacedIn.within_le {window : Option (Instant × UInt32)}
    (h : PacedIn lim e count now window) (start : Instant) :
    count start ≤ max 1 (lim.limitFor e).toNat := by
  cases window with
  | none =>
      rw [h start]
      exact Nat.zero_le _
  | some window => exact h.within start

theorem paced_of_oneMore {window : Instant × UInt32} (hmore : OneMore count count' window.1)
    (hstart : window.1 ≤ now) (hroom : count window.1 + 1 ≤ window.2.toNat)
    (hlimit : window.2.toNat ≤ max 1 (lim.limitFor e).toNat)
    (hwithin : ∀ start, count start ≤ max 1 (lim.limitFor e).toNat)
    (hpast : ∀ start, 0 < count start → start ≤ window.1) :
    Paced lim e count' now window := by
  obtain ⟨hsame, hother⟩ := hmore
  have hcount := Nat.le_trans hsame hroom
  refine ⟨hstart, hcount, fun start => ?_, fun start hpos => ?_⟩
  · by_cases hs : start = window.1
    · rw [hs]
      exact Nat.le_trans hcount hlimit
    · exact Nat.le_trans (hother start hs) (hwithin start)
  · by_cases hs : start = window.1
    · rw [hs]
      exact Instant.le_refl _
    · exact hpast start (Nat.lt_of_lt_of_le hpos (hother start hs))

theorem paced_counted_none (hw : .zero < lim.window) (h : ∀ start, count start = 0)
    (hmore : OneMore count count' (lim.counted e none now).windowStart) :
    Paced lim e count' now (lim.counted e none now).window := by
  rw [Limiter.counted_none hw] at hmore ⊢
  refine paced_of_oneMore hmore (Instant.le_refl now) ?_ (Nat.le_max_left 1 _)
    (fun start => ?_) fun start hpos => ?_
  · rw [h]
    exact Nat.le_refl 1
  · rw [h]
    exact Nat.zero_le _
  · rw [h] at hpos
    exact absurd hpos (Nat.lt_irrefl 0)

theorem Paced.counted {row : Row} (h : Paced lim e count now row.window) (hw : .zero < lim.window)
    (ha : (lim.decide e (some row) now).isAllowed = true)
    (hmore : OneMore count count' (lim.counted e (some row) now).windowStart) :
    Paced lim e count' now (lim.counted e (some row) now).window := by
  simp only [Limiter.counted, Option.getD_some] at hmore ⊢
  by_cases he : lim.window ≤ Limiter.elapsed row now
  · rw [if_pos he] at hmore ⊢
    -- A window that is over did not begin now, so no request was counted in one that did.
    have hfresh : count now = 0 := by
      refine Nat.eq_zero_of_not_pos fun hpos => ?_
      have hnow : row.windowStart = now := Instant.le_antisymm h.start_le (h.past now hpos)
      exact Limiter.open_at_start hw hnow he
    refine paced_of_oneMore hmore (Instant.le_refl now) ?_ (Nat.le_max_left 1 _) h.within
      fun start hpos => Instant.le_trans (h.past start hpos) h.start_le
    exact Nat.le_of_eq (congrArg (· + 1) hfresh)
  · rw [if_neg he] at hmore ⊢
    have hlt := Limiter.lt_limit_of_allowed ha he
    have hnext := Limiter.countOne_of_lt hlt
    refine paced_of_oneMore hmore h.start_le ?_ ?_ h.within h.past
    · exact Nat.le_trans (Nat.succ_le_succ h.count_le) (Nat.le_of_eq hnext.symm)
    · exact Nat.le_trans (Nat.le_of_eq hnext) (Nat.le_trans hlt (Nat.le_max_right 1 _))

theorem PacedIn.counted {row : Option Row} (h : PacedIn lim e count now (row.map Row.window))
    (hw : .zero < lim.window) (ha : (lim.decide e row now).isAllowed = true)
    (hmore : OneMore count count' (lim.counted e row now).windowStart) :
    PacedIn lim e count' now (some (lim.counted e row now).window) := by
  cases row with
  | none => exact paced_counted_none hw h hmore
  | some row => exact Paced.counted h hw ha hmore

end Pace

section Steps

variable [Clock σ] [Http.Network σ] {w : Wired σ} {lim : Limiter} {s s' : σ} {e : String}

theorem Checked.sent (hc : w.Checked lim s s') : ∃ host requests, w.Sent s s' requests ∧
    Chain w Http.maxRedirects host requests := by
  cases hc with
  | idle sent => exact ⟨none, [], sent, .nothing _ _⟩
  | asked e requests sent chain => exact ⟨some e, requests, sent, chain⟩

theorem Checked.paced (hc : w.Checked lim s s') (hw : .zero < lim.window)
    {visits : List (Visit σ)}
    (h : PacedIn lim e (w.asked lim e visits) (Clock.now s) ((w.view.tables s).window? e)) :
    PacedIn lim e (w.asked lim e (visits ++ [⟨s, s'⟩])) (Clock.now s')
      ((w.view.tables s').window? e) := by
  cases hc with
  | idle sent windows =>
      rw [windows, asked_append_of_false fun start => by simp [asks, sent.sent_eq]]
      exact h.later sent.later
  | asked k requests sent chain allowed windows =>
      rw [windows]
      split
      · rename_i hk
        subst hk
        refine (h.counted hw allowed (oneMore_asked fun other hasks => ?_)).later sent.later
        rw [asks, Bool.and_eq_true] at hasks
        obtain ⟨row, hrow, hstart, -⟩ := inWindow_iff.mp hasks.1
        rw [← hstart]
        exact Tables.windowStart_eq hrow ((windows e).trans (if_pos rfl))
      · rename_i hk
        -- The first request went to `k`; later ones do not count as asking.
        rw [asked_append_of_false fun start => ?_]
        · exact h.later sent.later
        · have hhost : requests.head?.any (·.url.host? = some e) = false := by
            rw [Option.any_eq_false]
            intro r hr
            rw [chain.host_eq r hr]
            simpa using Ne.symm hk
          rw [asks, sent.sent_eq, hhost, Bool.and_false]

theorem Checked.placed (hc : w.Checked lim s s') (hw : .zero < lim.window) :
    ∀ r ∈ (w.sent ⟨s, s'⟩).head?, ∃ e start, r.url.host? = some e ∧
      w.inWindow lim e start ⟨s, s'⟩ = true := by
  intro r hr
  cases hc with
  | idle sent =>
      rw [sent.sent_eq] at hr
      cases hr
  | asked e requests sent chain allowed windows =>
      rw [sent.sent_eq] at hr
      have hwindow := (windows e).trans (if_pos rfl)
      obtain ⟨row, hrow, -⟩ := Option.map_eq_some_iff.mp hwindow
      refine ⟨e, row.windowStart, chain.host_eq r hr, inWindow_iff.mpr ⟨row, hrow, rfl, ?_⟩⟩
      rw [Limiter.elapsed, Tables.windowStart_eq hrow hwindow]
      exact Limiter.open_counted hw e _

end Steps

section Quota

variable [Store σ] [Clock σ] [Http.Network σ] {w : Wired σ} {lim : Limiter} {s₀ s : σ}
  {visits : List (Visit σ)}

theorem Run.sound (h : w.Lawful) (hrun : w.Run lim s₀ visits s) (hs : w.view.Sound s₀) :
    w.view.Sound s := by
  induction hrun with
  | start => exact hs
  | check run l shared name ih =>
      obtain ⟨host, requests, hsent, -⟩ := (h.checked shared name ih).sent
      exact hsent.sound
  | wait run sent => exact sent.sound

theorem Run.seen_eq (h : w.Lawful) (hrun : w.Run lim s₀ visits s) (hs : w.view.Sound s₀) :
    w.seen s = w.seen s₀ ++ visits.flatMap w.sent := by
  induction hrun with
  | start => exact (List.append_nil _).symm
  | check run l shared name ih =>
      obtain ⟨host, requests, hsent, -⟩ := (h.checked shared name (run.sound h hs)).sent
      rw [hsent.seen_eq, ih, List.flatMap_append, List.flatMap_singleton, hsent.sent_eq,
        List.append_assoc]
  | wait run sent tables ih => rw [sent.seen_eq, List.append_nil, ih]

theorem Run.forall_visits (h : w.Lawful) (hrun : w.Run lim s₀ visits s) (hs : w.view.Sound s₀)
    {P : Visit σ → Prop} (hcheck : ∀ s s', w.Checked lim s s' → P ⟨s, s'⟩) :
    ∀ v ∈ visits, P v := by
  induction hrun with
  | start => exact fun v hv => nomatch hv
  | check run l shared name ih =>
      intro v hv
      rcases List.mem_append.mp hv with hv | hv
      · exact ih v hv
      · rw [List.mem_singleton.mp hv]
        exact hcheck _ _ (h.checked shared name (run.sound h hs))
  | wait run sent tables ih => exact ih

theorem Run.chained (h : w.Lawful) (hrun : w.Run lim s₀ visits s) (hs : w.view.Sound s₀) :
    ∀ v ∈ visits, ∃ host, Chain w Http.maxRedirects host (w.sent v) :=
  hrun.forall_visits h hs fun s s' hc => by
    obtain ⟨host, requests, hsent, hchain⟩ := hc.sent
    rw [hsent.sent_eq]
    exact ⟨host, hchain⟩

theorem Run.paced (h : w.Lawful) (hrun : w.Run lim s₀ visits s) (hs : w.view.Sound s₀)
    (hempty : w.view.tables s₀ = .empty) (hw : .zero < lim.window) (e : String) :
    PacedIn lim e (w.asked lim e visits) (Clock.now s) ((w.view.tables s).window? e) := by
  induction hrun with
  | start =>
      rw [hempty]
      exact fun _ => rfl
  | check run l shared name ih => exact (h.checked shared name (run.sound h hs)).paced hw ih
  | wait run sent tables ih =>
      rw [tables]
      exact ih.later sent.later

theorem Run.asked_le (h : w.Lawful) (hrun : w.Run lim s₀ visits s) (hs : w.view.Sound s₀)
    (hempty : w.view.tables s₀ = .empty) (e : String) (start : Instant) :
    w.asked lim e visits start ≤ max 1 (lim.limitFor e).toNat := by
  by_cases hw : .zero < lim.window
  · exact (hrun.paced h hs hempty hw e).within_le start
  · have hnone : w.asked lim e visits start = 0 :=
      List.countP_eq_zero.mpr fun v _ hasks => by rw [asks_eq_false hw] at hasks; cases hasks
    rw [hnone]
    exact Nat.zero_le _

/-- However a run of checks goes, each window of an endpoint sees no more checks that ask the
endpoint than its limit, and every check that asks an endpoint does so in a window of it. Each
check sends one request at most, and one more for each redirect that it follows. Where no reply
redirects, the limit holds for all requests that the endpoint receives in the window. -/
theorem quota_without_redirects (h : w.Lawful) (hrun : w.Run lim s₀ visits s)
    (hs : w.view.Sound s₀) (hempty : w.view.tables s₀ = .empty) :
    w.seen s = w.seen s₀ ++ visits.flatMap w.sent ∧
      (∀ v ∈ visits, (w.sent v).length ≤ Http.maxRedirects + 1) ∧
      (.zero < lim.window → ∀ v ∈ visits, ∀ r ∈ (w.sent v).head?,
        ∃ e start, r.url.host? = some e ∧ w.inWindow lim e start v = true) ∧
      (∀ e start, w.asked lim e visits start ≤ max 1 (lim.limitFor e).toNat) ∧
      (w.Plain → (∀ v ∈ visits, (w.sent v).length ≤ 1) ∧
        ∀ e start, (w.received lim e start visits).length ≤ max 1 (lim.limitFor e).toNat) := by
  have hasked := hrun.asked_le h hs hempty
  refine ⟨hrun.seen_eq h hs, fun v hv => ?_,
    fun hw => hrun.forall_visits h hs fun _ _ hc => hc.placed hw, hasked, fun hplain => ?_⟩
  · obtain ⟨host, hchain⟩ := hrun.chained h hs v hv
    exact hchain.length_le
  · have hone : ∀ v ∈ visits, (w.sent v).length ≤ 1 := fun v hv => by
      obtain ⟨host, hchain⟩ := hrun.chained h hs v hv
      exact hchain.length_le_of_plain hplain
    exact ⟨hone, fun e start => Nat.le_trans (length_received_le hone start) (hasked e start)⟩

end Quota

end Wired

namespace World

def oneAMinute : Limiter :=
  .new ⟨60000000000⟩ 1

def atRegistry : Lookup :=
  { checkType := .npm, template := "https://reg.test/" ++ placeholder, token := none
    userAgent := none, limiter := some oneAMinute, cache := none }

def replying (replies : List (Option Http.Reply)) : World :=
  { World.new .epoch .empty with
    wire := { reachable := true, secure := true, replies, seen := [] } }

def afterCheck (name : String) (w : World) : World :=
  ((atRegistry.check name : Effect World _).run w).2

def visitsTo (names : List String) (w : World) : List (Wired.Visit World) :=
  match names with
  | [] => []
  | name :: names => ⟨w, afterCheck name w⟩ :: visitsTo names (afterCheck name w)

def twoNames : World :=
  replying [some { status := 404, headers := [] }, some { status := 200, headers := [] }]

theorem quota_without_redirects_twoNames :
    let w := wired fun reply => Http.isRedirect reply.status = false
    let visits := visitsTo ["acme", "beta"] twoNames
    w.Run oneAMinute twoNames visits (afterCheck "beta" (afterCheck "acme" twoNames)) ∧
      w.Plain ∧ (w.received oneAMinute "reg.test" .epoch visits).length ≤ 1 ∧
      (w.received oneAMinute "reg.test" .epoch visits).map (·.url.text) =
        ["https://reg.test/acme"] := by
  intro w visits
  have hrun : w.Run oneAMinute twoNames visits (afterCheck "beta" (afterCheck "acme" twoNames)) :=
    .check (.check .start atRegistry rfl "acme") atRegistry rfl "beta"
  have hkind : ∀ reply ∈ twoNames.wire.replies, ∀ r ∈ reply, Http.isRedirect r.status = false := by
    decide
  have hsound : w.view.Sound twoNames := ⟨⟨.empty, rfl⟩, hkind⟩
  have hplain : w.Plain := plain_wired fun _ h => h
  obtain ⟨-, -, -, -, hquota⟩ := Wired.quota_without_redirects lawful_wired hrun hsound rfl
  exact ⟨hrun, hplain, (hquota hplain).2 "reg.test" .epoch, by decide +kernel⟩

/-- A name whose place has moved to another one on the same server. -/
def moved : World :=
  replying [some { status := 302, headers := [("location", "https://reg.test/other")] },
    some { status := 200, headers := [] }]

/-- A reply that redirects makes one check send two requests to one endpoint in one window,
though the limit is one. -/
theorem quota_exceeded_by_redirect :
    let w := wired fun _ => True
    let visits := visitsTo ["acme"] moved
    w.Run oneAMinute moved visits (afterCheck "acme" moved) ∧
      oneAMinute.limitFor "reg.test" = 1 ∧
      (w.received oneAMinute "reg.test" .epoch visits).map (·.url.text) =
        ["https://reg.test/acme", "https://reg.test/other"] :=
  ⟨.check .start atRegistry rfl "acme", rfl, by decide +kernel⟩

end World

end NameScout
