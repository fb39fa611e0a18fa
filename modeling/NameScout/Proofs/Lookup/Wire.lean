import NameScout.Lookup.Basic
import NameScout.Proofs.Cache.Latest
import NameScout.Proofs.RateLimit.Run
import NameScout.Proofs.Store.Reliable
import NameScout.Proofs.Time.Position
import NameScout.World

namespace NameScout

section Runs

variable {σ α β : Type} {s s' : σ}

theorem run_bind_eq {x : StateM σ α} {f : α → StateM σ β} {a : α} (h : x.run s = (a, s')) :
    (x >>= f).run s = (f a).run s' := by
  rw [StateT.run_bind, h]
  rfl

theorem Effect.run_getD {e : Effect σ α} {a : α} (h : e.run s = (.ok a, s')) (default : α) :
    (e.getD default).run s = (.ok a, s') := by
  rw [Effect.getD, ExceptT.run_mk]
  exact (run_bind_eq h).trans rfl

theorem Effect.run_get : (get : Effect σ σ).run s = (.ok s, s) :=
  rfl

theorem Effect.run_ofExcept_ok (a : α) : (Effect.ofExcept (.ok a) : Effect σ α).run s = (.ok a, s) :=
  rfl

theorem Effect.run_lift {x : StateM σ α} {a : α} (h : x.run s = (a, s')) :
    (x : Effect σ α).run s = (.ok a, s') := by
  change (Except.ok <$> x : StateM σ (Except Failure α)).run s = _
  rw [StateT.run_map, h]
  rfl

end Runs

namespace Url

theorem host?_withoutUser (u : Url) : u.withoutUser.host? = u.host? := by
  rw [withoutUser, host?, host?]
  cases u.authority <;> rfl

end Url

theorem Http.host?_request {url : Url} {token agent : Option String} {r : Http.Request}
    (h : Http.request url token agent = .ok r) :
    r.url.host? = some (url.host?.getD "") := by
  have hbare : (if (credentials? url).isSome then url.withoutUser else url).host? = url.host? := by
    split
    · exact url.host?_withoutUser
    · rfl
  simp only [Http.request] at h
  generalize (if (credentials? url).isSome then url.withoutUser else url) = bare at h hbare
  cases hhost : url.host? with
  | none => simp [hhost] at h
  | some host =>
      rw [hhost] at h hbare
      split at h
      · cases h
      split at h
      · cases h
      split at h
      · cases h
      cases h
      exact hbare

theorem Cache.run_set (name : String) (r : CheckResult) (ttl : Duration) (now : Instant)
    (t : Tables) : (Cache.set name r ttl now : Effect Tables Unit).run t =
      (.ok (), if ttl ≤ .zero then t else t.putEntry (Cache.toEntry name r ttl now)) := by
  rw [Cache.set]
  split <;> rfl

def Row.window (row : Row) : Instant × UInt32 :=
  (row.windowStart, row.requestCount)

namespace Tables

def window? (t : Tables) (e : String) : Option (Instant × UInt32) :=
  (t.row? e).map Row.window

theorem windowStart_eq {t : Tables} {e : String} {row row' : Row} (hrow : t.row? e = some row)
    (h : t.window? e = some row'.window) : row.windowStart = row'.windowStart := by
  rw [window?, hrow] at h
  exact congrArg Prod.fst (Option.some.inj h)

end Tables

namespace Lookup

section Tables

variable (l : Lookup)

def hit? (name : String) (now : Instant) (t : Tables) : Option CheckResult :=
  l.cache.bind fun _ =>
    (t.live? (Cache.key name l.checkType (l.tldOf name)) now).map (Cache.toResult · now)

def verdict (e : String) (now : Instant) (t : Tables) : Admission :=
  l.limiter.elim .allowed fun lim => lim.decide e (t.row? e) now

def counted (e : String) (now : Instant) (t : Tables) : Tables :=
  l.limiter.elim t fun lim => t.putRow e (lim.counted e (t.row? e) now)

def noted (e : String) (reply : Http.Reply) (now : Instant) (t : Tables) : Tables :=
  if reply.status = 429 ∧ l.limiter.isSome then
    t.putRow e (Limiter.blocked e (t.row? e) now (backoffOf reply))
  else t

def kept (name : String) (r : CheckResult) (now : Instant) (t : Tables) : Tables :=
  l.cache.elim t fun ttl =>
    if ttl.ttlFor r.available ≤ .zero then t
    else t.putEntry (Cache.toEntry name r (ttl.ttlFor r.available) now)

theorem row?_kept (name : String) (r : CheckResult) (now : Instant) (t : Tables) :
    (l.kept name r now t).row? = t.row? := by
  rw [kept]
  cases l.cache with
  | none => rfl
  | some ttl =>
      rw [Option.elim_some]
      split <;> rfl

theorem row?_counted {lim : Limiter} (hl : l.limiter = some lim) (e : String) (now : Instant)
    (t : Tables) (k : String) : (l.counted e now t).row? k =
      if k = e then some (lim.counted e (t.row? e) now) else t.row? k := by
  rw [counted, hl, Option.elim_some, Tables.row?_putRow]

theorem row?_noted (e : String) (reply : Http.Reply) (now : Instant) (t : Tables) (k : String) :
    (l.noted e reply now t).row? k = if k = e ∧ reply.status = 429 ∧ l.limiter.isSome then
      some (Limiter.blocked e (t.row? e) now (backoffOf reply)) else t.row? k := by
  rw [noted]
  by_cases hnoted : reply.status = 429 ∧ l.limiter.isSome
  · rw [if_pos hnoted, Tables.row?_putRow]
    simp only [hnoted, and_true]
  · rw [if_neg hnoted, if_neg fun h => hnoted h.2]

theorem window?_noted {e : String} {t : Tables} {row : Row} (hrow : t.row? e = some row)
    (reply : Http.Reply) (now : Instant) : (l.noted e reply now t).window? = t.window? := by
  funext k
  rw [Tables.window?, row?_noted]
  split
  · rename_i h
    rw [h.1, Tables.window?, hrow]
    rfl
  · rfl

end Tables

section Replies

variable {σ : Type} [Store σ] [Clock σ] [Http.Network σ]

/-- The reply that a check comes to, if it asks at all. -/
def reply? (l : Lookup) (name : String) : Effect σ (Option Http.Reply) := do
  match ← l.cached name with
  | some _ => return none
  | none =>
      let url ← Effect.ofExcept (l.url name)
      match ← l.gate (url.host?.getD "") with
      | .denied _ => return none
      | .allowed => return some (← l.exchange name url)

end Replies

section Gate

variable {σ : Type} [Store σ] [Clock σ] {l : Lookup} {lim : Limiter} {e : String} {s s₁ s₂ : σ}

theorem run_gate_of_denied {wait : Duration} (hl : l.limiter = some lim)
    (hallow : ((lim.allow e (Clock.now s)).getD .allowed).run s = (.ok (.denied wait), s₁)) :
    (l.gate e).run s = (.ok (.denied wait), s₁) := by
  rw [gate, hl]
  simp only
  rw [Effect.run_bind, Effect.run_get]
  simp only
  rw [Effect.run_bind, hallow]
  rfl

theorem run_gate_of_allowed (hl : l.limiter = some lim)
    (hallow : ((lim.allow e (Clock.now s)).getD .allowed).run s = (.ok .allowed, s₁))
    (hrecord : ((lim.record e (Clock.now s₁)).getD ()).run s₁ = (.ok (), s₂)) :
    (l.gate e).run s = (.ok .allowed, s₂) := by
  rw [gate, hl]
  simp only
  rw [Effect.run_bind, Effect.run_get]
  simp only
  rw [Effect.run_bind, hallow]
  simp only
  rw [Effect.run_bind, Effect.run_get]
  simp only
  rw [Effect.run_bind, hrecord]
  rfl

end Gate

end Lookup

namespace StoreView.Reliable

variable {σ : Type} [Store σ] {v : StoreView σ} (h : v.Reliable) {s : σ}

include h

theorem get (name : String) (checkType : CheckType) (tld : Option String) (now : Instant)
    (hs : v.Sound s) : ∃ s', (Cache.get name checkType tld now).run s =
        (.ok (((v.tables s).live? (Cache.key name checkType tld) now).map
          (Cache.toResult · now)), s') ∧ v.Sound s' ∧ v.tables s' = v.tables s :=
  Cache.follows_get h name checkType tld now s hs

theorem allow (lim : Limiter) (e : String) (now : Instant) (hs : v.Sound s) :
    ∃ s', (lim.allow e now).run s = (.ok (lim.decide e ((v.tables s).row? e) now), s') ∧
      v.Sound s' ∧ v.tables s' = v.tables s :=
  Limiter.Call.follows_allow h lim e now s hs

theorem record (lim : Limiter) (e : String) (now : Instant) (hs : v.Sound s) :
    ∃ s', (lim.record e now).run s = (.ok (), s') ∧ v.Sound s' ∧
      v.tables s' = (v.tables s).putRow e (lim.counted e ((v.tables s).row? e) now) :=
  Limiter.Call.follows_record h lim e now s hs

variable [Clock σ]

theorem cached (l : Lookup) (name : String) (hs : v.Sound s) :
    ∃ s', (l.cached name).run s = (.ok (l.hit? name (Clock.now s) (v.tables s)), s') ∧
      v.Sound s' ∧ v.tables s' = v.tables s := by
  rw [Lookup.cached, Lookup.hit?]
  cases l.cache with
  | none => exact ⟨s, rfl, hs, rfl⟩
  | some ttl =>
      obtain ⟨s', hrun, hs', htables⟩ := h.get name l.checkType (l.tldOf name) (Clock.now s) hs
      exact ⟨s', Effect.run_getD hrun none, hs', htables⟩

theorem heed (l : Lookup) (e : String) (reply : Http.Reply) (hs : v.Sound s) :
    ∃ s', (l.heed e reply).run s = (.ok (), s') ∧ v.Sound s' ∧
      v.tables s' = l.noted e reply (Clock.now s) (v.tables s) := by
  rw [Lookup.heed, Lookup.noted]
  by_cases hrefused : reply.status = 429 ∧ l.limiter.isSome
  · obtain ⟨s', hrun, hs', htables⟩ := Limiter.Call.follows_recordRefusal h e
      (Lookup.backoffOf reply) (Clock.now s) s hs
    rw [if_pos hrefused, if_pos hrefused, Effect.run_bind, Effect.run_get]
    exact ⟨s', Effect.run_getD hrun (), hs', htables⟩
  · rw [if_neg hrefused, if_neg hrefused]
    exact ⟨s, rfl, hs, rfl⟩

theorem keep (l : Lookup) (name : String) (r : CheckResult) (hs : v.Sound s) :
    ∃ s', (l.keep name r).run s = (.ok (), s') ∧ v.Sound s' ∧
      v.tables s' = l.kept name r (Clock.now s) (v.tables s) := by
  cases hcache : l.cache with
  | none =>
      rw [Lookup.keep, Lookup.kept, hcache]
      exact ⟨s, rfl, hs, rfl⟩
  | some ttl =>
      obtain ⟨s', hrun, hs', htables⟩ :=
        Cache.follows_set h name r (ttl.ttlFor r.available) (Clock.now s) s hs
      rw [Cache.run_set] at hrun htables
      refine ⟨s', ?_, hs', ?_⟩
      · rw [Lookup.keep, hcache]
        simp only
        rw [Effect.run_bind, Effect.run_get]
        exact Effect.run_getD hrun ()
      · rw [Lookup.kept, hcache, Option.elim_some, htables]

end StoreView.Reliable

/-- What there is to see of a state with a store, a clock and a network: the tables, and the
requests that have come out of the network. -/
structure Wired (σ : Type) where
  view : StoreView σ
  seen : σ → List Http.Request

namespace Wired

variable {σ : Type}

section Replies

variable [Http.Network σ]

def Plain (w : Wired σ) : Prop :=
  ∀ (r : Http.Request) (s : σ), w.view.Sound s →
    ∀ reply, ((Http.Network.send r).run s).1 = some reply → Http.redirect? r.url reply = none

/-- The requests that one request leads to when so many redirects may be followed. The first
of them goes to the host that it was meant for; each of the others is for a redirect. -/
structure Chain (w : Wired σ) (left : Nat) (host : Option String) (sent : List Http.Request) :
    Prop where
  length_le : sent.length ≤ left + 1
  length_le_of_plain : w.Plain → sent.length ≤ 1
  host_eq : ∀ r ∈ sent.head?, r.url.host? = host

namespace Chain

variable {w : Wired σ}

theorem nothing (left : Nat) (host : Option String) : Chain w left host [] :=
  ⟨Nat.zero_le _, fun _ => Nat.zero_le _, by simp⟩

theorem single (left : Nat) (r : Http.Request) : Chain w left r.url.host? [r] :=
  ⟨Nat.le_add_left 1 left, fun _ => Nat.le_refl 1, by simp⟩

theorem redirected {left : Nat} {r : Http.Request} {host : Option String}
    {sent : List Http.Request} (h : Chain w left host sent) (hw : ¬ w.Plain) :
    Chain w (left + 1) r.url.host? (r :: sent) where
  length_le := Nat.succ_le_succ h.length_le
  length_le_of_plain hplain := absurd hplain hw
  host_eq := by simp

end Chain

end Replies

section Time

variable [Clock σ]

def during (w : Wired σ) (now : Instant) (seen : List Http.Request) : StoreView σ where
  Sound s := w.view.Sound s ∧ Clock.now s = now ∧ w.seen s = seen
  tables := w.view.tables

structure Still (w : Wired σ) (s s' : σ) : Prop where
  sound : w.view.Sound s'
  now_eq : Clock.now s' = Clock.now s
  seen_eq : w.seen s' = w.seen s

/-- Some requests have been sent, for which time may have passed. -/
structure Sent (w : Wired σ) (s s' : σ) (sent : List Http.Request) : Prop where
  sound : w.view.Sound s'
  later : Clock.now s ≤ Clock.now s'
  seen_eq : w.seen s' = w.seen s ++ sent

variable {w : Wired σ} {s s' s'' : σ} {requests more : List Http.Request}

theorem Still.refl (hs : w.view.Sound s) : w.Still s s :=
  ⟨hs, rfl, rfl⟩

theorem Still.trans (h : w.Still s s') (h' : w.Still s' s'') : w.Still s s'' :=
  ⟨h'.sound, h'.now_eq.trans h.now_eq, h'.seen_eq.trans h.seen_eq⟩

theorem Still.sent (h : w.Still s s') : w.Sent s s' [] where
  sound := h.sound
  later := by
    rw [h.now_eq]
    exact Instant.le_refl _
  seen_eq := by rw [h.seen_eq, List.append_nil]

theorem Sent.trans (h : w.Sent s s' requests) (h' : w.Sent s' s'' more) :
    w.Sent s s'' (requests ++ more) where
  sound := h'.sound
  later := Instant.le_trans h.later h'.later
  seen_eq := by rw [h'.seen_eq, h.seen_eq, List.append_assoc]

theorem sound_during (w : Wired σ) {s : σ} (hs : w.view.Sound s) :
    (w.during (Clock.now s) (w.seen s)).Sound s :=
  ⟨hs, rfl, rfl⟩

theorem Still.of_during (h : (w.during (Clock.now s) (w.seen s)).Sound s') : w.Still s s' :=
  ⟨h.1, h.2.1, h.2.2⟩

end Time

section Checks

variable [Clock σ] [Http.Network σ]

/-- How a check goes: the reply that it comes to and when, its outcome and what it leaves. -/
inductive Course (w : Wired σ) (l : Lookup) (name : String) (s : σ) :
    Except Failure (Option Http.Reply) × σ → Except Failure CheckResult × σ → Prop
  | found {r : CheckResult} {s' : σ}
      (hit : l.hit? name (Clock.now s) (w.view.tables s) = some r) (still : w.Still s s')
      (tables : w.view.tables s' = w.view.tables s) : Course w l name s (.ok none, s') (.ok r, s')
  | unaskable {failure : Failure} {s' : σ}
      (missed : l.hit? name (Clock.now s) (w.view.tables s) = none)
      (url : l.url name = .error failure) (still : w.Still s s')
      (tables : w.view.tables s' = w.view.tables s) :
      Course w l name s (.error failure, s') (.error failure, s')
  | heldBack {url : Url} {wait : Duration} {s' : σ}
      (missed : l.hit? name (Clock.now s) (w.view.tables s) = none) (url_eq : l.url name = .ok url)
      (denied : l.verdict (url.host?.getD "") (Clock.now s) (w.view.tables s) = .denied wait)
      (still : w.Still s s') (tables : w.view.tables s' = w.view.tables s) :
      Course w l name s (.ok none, s') (.ok (l.heldBack name (url.host?.getD "") wait), s')
  | failed {url : Url} {failure : Failure} {requests : List Http.Request} {s' : σ}
      (missed : l.hit? name (Clock.now s) (w.view.tables s) = none) (url_eq : l.url name = .ok url)
      (allowed : l.verdict (url.host?.getD "") (Clock.now s) (w.view.tables s) = .allowed)
      (sent : w.Sent s s' requests)
      (chain : Chain w Http.maxRedirects (some (url.host?.getD "")) requests)
      (tables : w.view.tables s' =
        l.counted (url.host?.getD "") (Clock.now s) (w.view.tables s)) :
      Course w l name s (.error failure, s') (.error failure, s')
  | answered {url : Url} {reply : Http.Reply} {requests : List Http.Request} {s₁ s' : σ}
      (missed : l.hit? name (Clock.now s) (w.view.tables s) = none) (url_eq : l.url name = .ok url)
      (allowed : l.verdict (url.host?.getD "") (Clock.now s) (w.view.tables s) = .allowed)
      (sent : w.Sent s s' requests)
      (chain : Chain w Http.maxRedirects (some (url.host?.getD "")) requests)
      (noticed : w.Still s₁ s')
      (tables : w.view.tables s' = l.kept name (l.answer name (url.host?.getD "") reply)
        (Clock.now s') (l.noted (url.host?.getD "") reply (Clock.now s')
          (l.counted (url.host?.getD "") (Clock.now s) (w.view.tables s)))) :
      Course w l name s (.ok (some reply), s₁)
        (.ok (l.answer name (url.host?.getD "") reply), s')

/-- What a check does to the windows of a limiter: it sends nothing and counts nothing, or the
limiter lets a request to an endpoint pass and counts it. -/
inductive Checked (w : Wired σ) (lim : Limiter) (s s' : σ) : Prop
  | idle (sent : w.Sent s s' [])
      (windows : (w.view.tables s').window? = (w.view.tables s).window?)
  | asked (e : String) (requests : List Http.Request) (sent : w.Sent s s' requests)
      (chain : Chain w Http.maxRedirects (some e) requests)
      (allowed : (lim.decide e ((w.view.tables s).row? e) (Clock.now s)).isAllowed = true)
      (windows : ∀ k, (w.view.tables s').window? k =
        if k = e then some (lim.counted e ((w.view.tables s).row? e) (Clock.now s)).window
        else (w.view.tables s).window? k)

namespace Course

variable {w : Wired σ} {l : Lookup} {name : String} {s s' : σ}
  {replied : Except Failure (Option Http.Reply) × σ} {outcome : Except Failure CheckResult}

theorem checked (h : w.Course l name s replied (outcome, s')) {lim : Limiter}
    (hl : l.limiter = some lim) : w.Checked lim s s' := by
  have hallowed : ∀ {e : String},
      l.verdict e (Clock.now s) (w.view.tables s) = .allowed →
        (lim.decide e ((w.view.tables s).row? e) (Clock.now s)).isAllowed = true := by
    intro e hverdict
    rw [Lookup.verdict, hl, Option.elim_some] at hverdict
    rw [hverdict]
    rfl
  have hcounted : ∀ (e k : String), (l.counted e (Clock.now s) (w.view.tables s)).window? k =
      if k = e then some (lim.counted e ((w.view.tables s).row? e) (Clock.now s)).window
      else (w.view.tables s).window? k := by
    intro e k
    rw [Tables.window?, l.row?_counted hl]
    split <;> rfl
  cases h with
  | found hit still tables => exact .idle still.sent (congrArg Tables.window? tables)
  | unaskable missed url still tables => exact .idle still.sent (congrArg Tables.window? tables)
  | heldBack missed url_eq denied still tables =>
      exact .idle still.sent (congrArg Tables.window? tables)
  | failed missed url_eq allowed sent chain tables =>
      refine .asked _ _ sent chain (hallowed allowed) fun k => ?_
      rw [tables, hcounted]
  | answered missed url_eq allowed sent chain noticed tables =>
      refine .asked _ _ sent chain (hallowed allowed) fun k => ?_
      rw [tables, Tables.window?, l.row?_kept, ← Tables.window?,
        l.window?_noted ((l.row?_counted hl _ _ _ _).trans (if_pos rfl)), hcounted]

end Course

variable [Store σ]

/-- The store does not fail and leaves the clock and the network alone. A request that is sent
reaches the other end or the connection fails. -/
structure Lawful (w : Wired σ) : Prop where
  store : ∀ now seen, (w.during now seen).Reliable
  send : ∀ (r : Http.Request) (s : σ), w.view.Sound s →
    ∃ reply s', (Http.Network.send r).run s = (reply, s') ∧ w.view.tables s' = w.view.tables s ∧
      (w.Sent s s' [r] ∨ reply = none ∧ w.Sent s s' [])

namespace Lawful

variable {w : Wired σ} (h : w.Lawful) {s : σ}

include h

theorem follow (left : Nat) {r : Http.Request} (hs : w.view.Sound s) :
    ∃ result s' requests, (Http.follow left r).run s = (result, s') ∧ w.Sent s s' requests ∧
      w.view.tables s' = w.view.tables s ∧ Chain w left r.url.host? requests := by
  -- On the redirects that may still be followed; each of them costs one request.
  induction left using Nat.strongRecOn generalizing r s with
  | ind left ih =>
      rw [Http.follow]
      obtain ⟨reply, s₁, hsend, htables, hsent⟩ := h.send r s hs
      rw [run_bind_eq hsend]
      cases reply with
      | none =>
          rcases hsent with hsent | ⟨-, hsent⟩
          · exact ⟨_, s₁, [r], rfl, hsent, htables, .single left r⟩
          · exact ⟨_, s₁, [], rfl, hsent, htables, .nothing left _⟩
      | some reply =>
          have hsent : w.Sent s s₁ [r] := hsent.resolve_right fun hnone => by cases hnone.1
          cases hto : Http.redirect? r.url reply with
          | none =>
              refine ⟨.ok reply, s₁, [r], ?_, hsent, htables, .single left r⟩
              simp only [hto]
              rfl
          | some url =>
              have hplain : ¬ w.Plain := fun hw => by
                have hnone := hw r s hs reply (by rw [hsend])
                rw [hto] at hnone
                cases hnone
              simp only [hto]
              cases left with
              | zero => exact ⟨_, s₁, [r], rfl, hsent, htables, .single 0 r⟩
              | succ left =>
                  by_cases hrefused : (!Http.isRequestable url) = true
                  · simp only [if_pos hrefused]
                    exact ⟨_, s₁, [r], rfl, hsent, htables, .single _ r⟩
                  · simp only [if_neg hrefused]
                    obtain ⟨result, s', more, hrun, hmore, htables', hchain⟩ :=
                      ih left (Nat.lt_succ_self left) (r := r.redirected url) hsent.sound
                    exact ⟨result, s', r :: more, hrun, hsent.trans hmore,
                      htables'.trans htables, hchain.redirected hplain⟩

theorem exchange (l : Lookup) (name : String) (url : Url) (hs : w.view.Sound s) :
    ∃ result s' requests, (l.exchange name url).run s = (result, s') ∧ w.Sent s s' requests ∧
      w.view.tables s' = w.view.tables s ∧
      Chain w Http.maxRedirects (some (url.host?.getD "")) requests := by
  rw [Lookup.exchange]
  cases hrequest : Http.request url l.token l.userAgent with
  | error fault => exact ⟨_, s, [], rfl, (Still.refl hs).sent, rfl, .nothing _ _⟩
  | ok request =>
      obtain ⟨result, s', requests, hrun, hsent, htables, hchain⟩ :=
        h.follow Http.maxRedirects (r := request) hs
      rw [Http.host?_request hrequest] at hchain
      simp only
      rw [Effect.run_bind, Effect.run_lift (x := Http.fetch request) hrun]
      cases result with
      | error fault => exact ⟨_, s', requests, rfl, hsent, htables, hchain⟩
      | ok reply => exact ⟨_, s', requests, rfl, hsent, htables, hchain⟩

theorem get (name : String) (checkType : CheckType) (tld : Option String)
    (hs : w.view.Sound s) : ∃ s', (Cache.get name checkType tld (Clock.now s)).run s =
        (.ok (((w.view.tables s).live? (Cache.key name checkType tld) (Clock.now s)).map
          (Cache.toResult · (Clock.now s))), s') ∧
      w.Still s s' ∧ w.view.tables s' = w.view.tables s := by
  obtain ⟨s', hrun, hs', htables⟩ :=
    (h.store _ _).get name checkType tld (Clock.now s) (w.sound_during hs)
  exact ⟨s', hrun, .of_during hs', htables⟩

theorem cached (l : Lookup) (name : String) (hs : w.view.Sound s) :
    ∃ s', (l.cached name).run s = (.ok (l.hit? name (Clock.now s) (w.view.tables s)), s') ∧
      w.Still s s' ∧ w.view.tables s' = w.view.tables s := by
  obtain ⟨s', hrun, hs', htables⟩ := (h.store _ _).cached l name (w.sound_during hs)
  exact ⟨s', hrun, .of_during hs', htables⟩

theorem gate (l : Lookup) (e : String) (hs : w.view.Sound s) :
    ∃ s', (l.gate e).run s = (.ok (l.verdict e (Clock.now s) (w.view.tables s)), s') ∧
      w.Still s s' ∧
      (l.verdict e (Clock.now s) (w.view.tables s) = .allowed →
        w.view.tables s' = l.counted e (Clock.now s) (w.view.tables s)) ∧
      ∀ wait, l.verdict e (Clock.now s) (w.view.tables s) = .denied wait →
        w.view.tables s' = w.view.tables s := by
  rw [Lookup.verdict, Lookup.counted]
  cases hl : l.limiter with
  | none =>
      rw [Lookup.gate, hl]
      exact ⟨s, rfl, .refl hs, fun _ => rfl, nofun⟩
  | some lim =>
      obtain ⟨s₁, hallow, hs₁, htables⟩ :=
        (h.store _ _).allow lim e (Clock.now s) (w.sound_during hs)
      have hstill : w.Still s s₁ := .of_during hs₁
      have hallow : (lim.allow e (Clock.now s)).run s =
          (.ok (lim.decide e ((w.view.tables s).row? e) (Clock.now s)), s₁) := hallow
      simp only [Option.elim_some]
      cases hd : lim.decide e ((w.view.tables s).row? e) (Clock.now s) with
      | denied wait =>
          rw [hd] at hallow
          exact ⟨s₁, Lookup.run_gate_of_denied hl (Effect.run_getD hallow _), hstill, nofun,
            fun _ _ => htables⟩
      | allowed =>
          rw [hd] at hallow
          obtain ⟨s₂, hrecord, hs₂, htables'⟩ :=
            (h.store _ _).record lim e (Clock.now s₁) (w.sound_during hstill.sound)
          refine ⟨s₂, Lookup.run_gate_of_allowed hl (Effect.run_getD hallow _)
            (Effect.run_getD hrecord _), hstill.trans (.of_during hs₂), fun _ => ?_, nofun⟩
          have htables : w.view.tables s₁ = w.view.tables s := htables
          refine htables'.trans ?_
          rw [hstill.now_eq]
          exact congrArg (fun t : Tables => t.putRow e (lim.counted e (t.row? e) (Clock.now s)))
            htables

theorem heed (l : Lookup) (e : String) (reply : Http.Reply) (hs : w.view.Sound s) :
    ∃ s', (l.heed e reply).run s = (.ok (), s') ∧ w.Still s s' ∧
      w.view.tables s' = l.noted e reply (Clock.now s) (w.view.tables s) := by
  obtain ⟨s', hrun, hs', htables⟩ := (h.store _ _).heed l e reply (w.sound_during hs)
  exact ⟨s', hrun, .of_during hs', htables⟩

theorem keep (l : Lookup) (name : String) (r : CheckResult) (hs : w.view.Sound s) :
    ∃ s', (l.keep name r).run s = (.ok (), s') ∧ w.Still s s' ∧
      w.view.tables s' = l.kept name r (Clock.now s) (w.view.tables s) := by
  obtain ⟨s', hrun, hs', htables⟩ := (h.store _ _).keep l name r (w.sound_during hs)
  exact ⟨s', hrun, .of_during hs', htables⟩

theorem remember (l : Lookup) (name : String) (e : String) (reply : Http.Reply) (r : CheckResult)
    (hs : w.view.Sound s) :
    ∃ s', (do l.heed e reply; l.keep name r; return r : Effect σ CheckResult).run s =
        (.ok r, s') ∧ w.Still s s' ∧ w.view.tables s' =
      l.kept name r (Clock.now s') (l.noted e reply (Clock.now s') (w.view.tables s)) := by
  obtain ⟨s₁, hheed, hstill₁, htables₁⟩ := h.heed l e reply hs
  obtain ⟨s₂, hkeep, hstill₂, htables₂⟩ := h.keep l name r hstill₁.sound
  rw [Effect.run_bind, hheed]
  simp only
  rw [Effect.run_bind, hkeep]
  refine ⟨s₂, rfl, hstill₁.trans hstill₂, ?_⟩
  rw [htables₂, htables₁, hstill₂.now_eq, hstill₁.now_eq]

theorem course (l : Lookup) (name : String) (hs : w.view.Sound s) :
    w.Course l name s ((l.reply? name).run s) ((l.check name).run s) := by
  obtain ⟨s₁, hcached, hstill₁, htables₁⟩ := h.cached l name hs
  rw [Lookup.check, Lookup.reply?, Effect.run_bind, Effect.run_bind, hcached]
  cases hhit : l.hit? name (Clock.now s) (w.view.tables s) with
  | some r => exact .found hhit hstill₁ htables₁
  | none =>
      simp only [Lookup.ask]
      cases hurl : l.url name with
      | error failure => exact .unaskable hhit hurl hstill₁ htables₁
      | ok url =>
          obtain ⟨s₂, hgate, hstill₂, hallowed, hdenied⟩ :=
            h.gate l (url.host?.getD "") hstill₁.sound
          rw [htables₁, hstill₁.now_eq] at hgate hallowed hdenied
          have hstill := hstill₁.trans hstill₂
          rw [Effect.run_bind, Effect.run_bind, Effect.run_ofExcept_ok]
          simp only
          rw [Effect.run_bind, Effect.run_bind, hgate]
          cases hverdict : l.verdict (url.host?.getD "") (Clock.now s) (w.view.tables s) with
          | denied wait => exact .heldBack hhit hurl hverdict hstill (hdenied wait hverdict)
          | allowed =>
              obtain ⟨result, s₃, requests, hexchange, hsent, htables₃, hchain⟩ :=
                h.exchange l name url hstill.sound
              have hsent := hstill.sent.trans hsent
              have htables := htables₃.trans (hallowed hverdict)
              simp only
              rw [Effect.run_bind, Effect.run_bind, hexchange]
              cases result with
              | error failure => exact .failed hhit hurl hverdict hsent hchain htables
              | ok reply =>
                  obtain ⟨s', hremember, hstill', htables'⟩ := h.remember l name
                    (url.host?.getD "") reply (l.answer name (url.host?.getD "") reply) hsent.sound
                  have hall := hsent.trans hstill'.sent
                  rw [List.append_nil] at hall
                  rw [htables] at htables'
                  simp only
                  rw [hremember]
                  exact .answered hhit hurl hverdict hall hchain hstill' htables'

theorem checked {l : Lookup} {lim : Limiter} (hl : l.limiter = some lim) (name : String)
    (hs : w.view.Sound s) : w.Checked lim s ((l.check name).run s).2 :=
  (h.course l name hs).checked hl

end Lawful

end Checks

end Wired

def Backend.tables : Backend → Tables
  | memory tables => tables
  | file store => store.tables

theorem Http.Wire.answer_cases (wire : Http.Wire) (r : Http.Request) :
    (∃ reply replies, wire.answer r = (reply, { wire with replies, seen := wire.seen ++ [r] }) ∧
      (∀ reply ∈ replies, reply ∈ wire.replies) ∧
      (reply ∈ wire.replies ∨ reply = some exhausted)) ∨
    wire.answer r = (none, wire) := by
  unfold answer
  cases wire.takes r with
  | false => exact .inr rfl
  | true =>
      obtain ⟨reachable, secure, replies, seen⟩ := wire
      cases replies with
      | nil => exact .inl ⟨_, [], rfl, fun _ h => h, .inr rfl⟩
      | cons reply replies =>
          exact .inl ⟨reply, replies, rfl, fun _ h => List.mem_cons_of_mem _ h,
            .inl List.mem_cons_self⟩

namespace World

theorem run_send (w : World) (r : Http.Request) :
    (Http.Network.send r : StateM World _).run w =
      ((w.wire.answer r).1, { w with wire := (w.wire.answer r).2 }) :=
  rfl

/-- The worlds that keep everything in memory, where all prepared replies are of some kind. -/
def wired (Kind : Http.Reply → Prop) : Wired World where
  view :=
    { Sound := fun w => (∃ tables, w.backend = .memory tables) ∧
        ∀ reply ∈ w.wire.replies, ∀ r ∈ reply, Kind r
      tables := fun w => w.backend.tables }
  seen w := w.wire.seen

variable {Kind : Http.Reply → Prop} {now : Instant} {seen : List Http.Request}

theorem follows_onStore {α : Type} (e : (σ : Type) → [Store σ] → Effect σ α) :
    ((wired Kind).during now seen).Follows (onStore e) (e Tables) := by
  rintro w ⟨⟨⟨tables, hbackend⟩, hreplies⟩, hnow, hseen⟩
  obtain ⟨clock, disk, backend, wire, calls⟩ := w
  cases hbackend
  exact ⟨_, rfl, ⟨⟨⟨_, rfl⟩, hreplies⟩, hnow, hseen⟩, rfl⟩

theorem reliable_wired : ((wired Kind).during now seen).Reliable where
  row? _ := follows_onStore _
  putRow _ _ := follows_onStore _
  listRows _ := follows_onStore _
  eraseRow _ := follows_onStore _
  eraseRows _ := follows_onStore _
  live? _ _ := follows_onStore _
  putEntry _ := follows_onStore _
  purge _ := follows_onStore _
  flush := follows_onStore _

theorem lawful_wired : (wired Kind).Lawful where
  store _ _ := reliable_wired
  send r w hw := by
    obtain ⟨hbackend, hreplies⟩ := hw
    rcases w.wire.answer_cases r with ⟨reply, replies, hanswer, hrest, -⟩ | hanswer
    · refine ⟨_, _, run_send w r, rfl, .inl ⟨⟨hbackend, fun reply hreply => ?_⟩,
        Instant.le_refl _, ?_⟩⟩
      · rw [hanswer] at hreply
        exact hreplies reply (hrest reply hreply)
      · rw [hanswer]
        rfl
    · refine ⟨_, _, run_send w r, rfl, .inr ⟨?_, ⟨hbackend, fun reply hreply => ?_⟩,
        Instant.le_refl _, ?_⟩⟩
      · rw [hanswer]
      · rw [hanswer] at hreply
        exact hreplies reply hreply
      · rw [hanswer]
        exact (List.append_nil _).symm

theorem plain_wired (hkind : ∀ reply, Kind reply → Http.isRedirect reply.status = false) :
    (wired Kind).Plain := by
  intro r w hw reply hreply
  rw [run_send] at hreply
  have hstatus : Http.isRedirect reply.status = false := by
    rcases w.wire.answer_cases r with ⟨_, replies, hanswer, -, hfrom | hfrom⟩ | hanswer
    · rw [hanswer] at hreply
      subst hreply
      exact hkind reply (hw.2 _ hfrom reply rfl)
    · rw [hanswer] at hreply
      subst hreply
      cases hfrom
      rfl
    · rw [hanswer] at hreply
      cases hreply
  rw [Http.redirect?, hstatus]
  rfl

end World

end NameScout
