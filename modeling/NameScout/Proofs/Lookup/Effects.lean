import NameScout.Proofs.Lookup.Repeat

namespace NameScout

section Agreement

variable {σ α β : Type} {Alike : σ → σ → Prop}

/-- Two computations give the same from states that are alike, and lead to states that are
alike. -/
def Agree (Alike : σ → σ → Prop) (x y : StateM σ α) : Prop :=
  ∀ s t, Alike s t → ∃ a s' t', x.run s = (a, s') ∧ y.run t = (a, t') ∧ Alike s' t'

theorem Agree.pure (a : α) : Agree Alike (pure a : StateM σ α) (pure a) :=
  fun s t halike => ⟨a, s, t, rfl, rfl, halike⟩

theorem Agree.bind {x y : StateM σ α} {f g : α → StateM σ β} (h : Agree Alike x y)
    (hf : ∀ a, Agree Alike (f a) (g a)) : Agree Alike (x >>= f) (y >>= g) := by
  intro s t halike
  obtain ⟨a, s', t', hx, hy, halike'⟩ := h s t halike
  rw [run_bind_eq hx, run_bind_eq hy]
  exact hf a s' t' halike'

theorem Http.agree_follow [Http.Network σ]
    (hsend : ∀ r : Http.Request, Agree Alike (Http.Network.send r) (Http.Network.send r))
    (left : Nat) (r : Http.Request) :
    Agree Alike (Http.follow left r) (Http.follow left r) := by
  -- On the redirects that may still be followed.
  induction left using Nat.strongRecOn generalizing r with
  | ind left ih =>
      rw [Http.follow]
      refine (hsend r).bind fun reply => ?_
      cases reply with
      | none => exact .pure _
      | some reply =>
          cases hto : Http.redirect? r.url reply with
          | none =>
              simp only [hto]
              exact .pure _
          | some url =>
              simp only [hto]
              cases left with
              | zero => exact .pure _
              | succ left =>
                  by_cases hrefused : (!Http.isRequestable url) = true
                  · simp only [if_pos hrefused]
                    exact .pure _
                  · simp only [if_neg hrefused]
                    exact ih left (Nat.lt_succ_self left) (r.redirected url)

end Agreement

namespace Lookup

section Exchange

variable {σ : Type} [Http.Network σ] {l : Lookup} {name : String} {url : Url} {s s₁ : σ}

theorem run_exchange {request : Http.Request}
    (hrequest : Http.request url l.token l.userAgent = .ok request)
    {result : Except TransportFault Http.Reply}
    (hfetch : (Http.fetch request : StateM σ _).run s = (result, s₁)) :
    (l.exchange name url).run s =
      (result.mapError fun fault => .http (.lookup l.checkType name fault), s₁) := by
  rw [exchange, hrequest]
  simp only
  rw [Effect.run_bind, Effect.run_lift hfetch]
  cases result <;> rfl

theorem run_exchange_of_error {fault : TransportFault}
    (hrequest : Http.request url l.token l.userAgent = .error fault) :
    (l.exchange name url).run s = (.error (.http (.lookup l.checkType name fault)), s) := by
  rw [exchange, hrequest]
  rfl

theorem agree_exchange {Alike : σ → σ → Prop}
    (hsend : ∀ r : Http.Request, Agree Alike (Http.Network.send r) (Http.Network.send r))
    (l : Lookup) (name : String) (url : Url) :
    Agree Alike (l.exchange name url).run (l.exchange name url).run := by
  intro s t halike
  cases hrequest : Http.request url l.token l.userAgent with
  | error fault =>
      exact ⟨_, s, t, run_exchange_of_error hrequest, run_exchange_of_error hrequest, halike⟩
  | ok request =>
      obtain ⟨result, s', t', hs', ht', halike'⟩ :=
        Http.agree_follow hsend Http.maxRedirects request s t halike
      exact ⟨_, s', t', run_exchange hrequest hs', run_exchange hrequest ht', halike'⟩

theorem exists_fault_of_exchange {failure : Failure}
    (h : (l.exchange name url).run s = (.error failure, s₁)) :
    ∃ fault, failure = .http (.lookup l.checkType name fault) := by
  cases hrequest : Http.request url l.token l.userAgent with
  | error fault =>
      rw [run_exchange_of_error hrequest] at h
      cases h
      exact ⟨fault, rfl⟩
  | ok request =>
      obtain ⟨result, s', hfetch⟩ : ∃ result s',
          (Http.fetch request : StateM σ _).run s = (result, s') := ⟨_, _, rfl⟩
      rw [run_exchange hrequest hfetch] at h
      cases result with
      | error fault =>
          cases h
          exact ⟨fault, rfl⟩
      | ok reply => cases h

end Exchange

theorem run_heed_of_unlimited {σ : Type} [Store σ] [Clock σ] {l : Lookup} {s : σ}
    (hl : l.limiter = none) (e : String) (reply : Http.Reply) :
    (l.heed e reply).run s = (.ok (), s) := by
  have hnone : ¬ (reply.status = 429 ∧ l.limiter.isSome) := fun h => by
    rw [hl] at h
    cases h.2
  rw [heed, if_neg hnone]
  rfl

section Steps

variable {σ : Type} [Store σ] [Clock σ] [Http.Network σ] {l : Lookup} {name : String} {url : Url}
  {s s₁ s₂ s₃ s₄ : σ}

theorem exists_cause_of_url {failure : Failure} (h : l.url name = .error failure) :
    ∃ cause, failure = .invalidInput cause := by
  rw [Lookup.url] at h
  cases hparse : Url.parse (l.urlText name) with
  | error fault =>
      rw [hparse] at h
      exact ⟨_, (Except.error.inj h).symm⟩
  | ok url =>
      rw [hparse] at h
      cases h

theorem run_check_of_hit {r : CheckResult} (hcached : (l.cached name).run s = (.ok (some r), s₁)) :
    (l.check name).run s = (.ok r, s₁) := by
  rw [check, Effect.run_bind, hcached]
  rfl

theorem run_check_of_missed (hcached : (l.cached name).run s = (.ok none, s₁)) :
    (l.check name).run s = (l.ask name).run s₁ := by
  rw [check, Effect.run_bind, hcached]

theorem run_ask_of_error {failure : Failure} (hurl : l.url name = .error failure) :
    (l.ask name).run s = (.error failure, s) := by
  rw [ask, hurl]
  rfl

theorem run_ask_of_denied (hurl : l.url name = .ok url) {wait : Duration}
    (hgate : (l.gate (url.host?.getD "")).run s = (.ok (.denied wait), s₁)) :
    (l.ask name).run s = (.ok (l.heldBack name (url.host?.getD "") wait), s₁) := by
  rw [ask, hurl, Effect.run_bind, Effect.run_ofExcept_ok]
  simp only
  rw [Effect.run_bind, hgate]
  rfl

theorem run_ask_of_allowed (hurl : l.url name = .ok url)
    (hgate : (l.gate (url.host?.getD "")).run s = (.ok .allowed, s₁)) :
    (l.ask name).run s = (do
      let reply ← l.exchange name url
      l.heed (url.host?.getD "") reply
      l.keep name (l.answer name (url.host?.getD "") reply)
      return l.answer name (url.host?.getD "") reply : Effect σ CheckResult).run s₁ := by
  rw [ask, hurl, Effect.run_bind, Effect.run_ofExcept_ok]
  simp only
  rw [Effect.run_bind, hgate]

theorem run_ask_of_lost (hurl : l.url name = .ok url)
    (hgate : (l.gate (url.host?.getD "")).run s = (.ok .allowed, s₁)) {failure : Failure}
    (hexchange : (l.exchange name url).run s₁ = (.error failure, s₂)) :
    (l.ask name).run s = (.error failure, s₂) := by
  rw [run_ask_of_allowed hurl hgate, Effect.run_bind, hexchange]

theorem run_ask_of_reply (hurl : l.url name = .ok url)
    (hgate : (l.gate (url.host?.getD "")).run s = (.ok .allowed, s₁)) {reply : Http.Reply}
    (hexchange : (l.exchange name url).run s₁ = (.ok reply, s₂))
    (hheed : (l.heed (url.host?.getD "") reply).run s₂ = (.ok (), s₃))
    (hkeep : (l.keep name (l.answer name (url.host?.getD "") reply)).run s₃ = (.ok (), s₄)) :
    (l.ask name).run s = (.ok (l.answer name (url.host?.getD "") reply), s₄) := by
  rw [run_ask_of_allowed hurl hgate, Effect.run_bind, hexchange]
  simp only
  rw [Effect.run_bind, hheed]
  simp only
  rw [Effect.run_bind, hkeep]
  rfl

end Steps

def bare (l : Lookup) : Lookup :=
  { l with limiter := none, cache := none }

theorem url_bare (l : Lookup) (name : String) : l.bare.url name = l.url name := by
  have htext : l.bare.urlText name = l.urlText name := rfl
  simp only [url, htext]

end Lookup

section Outage

variable {σ α β : Type} {Alike : σ → σ → Prop}

def Fails (Alike : σ → σ → Prop) (e : Effect σ α) : Prop :=
  ∀ s t, Alike s t → ∃ failure s', e.run s = (.error failure, s') ∧ Alike s' t

theorem Fails.bind {e : Effect σ α} (h : Fails Alike e) (f : α → Effect σ β) :
    Fails Alike (e >>= f) := by
  intro s t halike
  obtain ⟨failure, s', hrun, halike'⟩ := h s t halike
  refine ⟨failure, s', ?_, halike'⟩
  rw [Effect.run_bind, hrun]

theorem Fails.getD {e : Effect σ α} (h : Fails Alike e) (default : α) {s t : σ}
    (halike : Alike s t) : ∃ s', (e.getD default).run s = (.ok default, s') ∧ Alike s' t := by
  obtain ⟨failure, s', hrun, halike'⟩ := h s t halike
  refine ⟨s', ?_, halike'⟩
  rw [Effect.getD, ExceptT.run_mk]
  exact (run_bind_eq hrun).trans rfl

variable [Store σ] [Http.Network σ]

/-- Every call of the store fails. States that are alike, as those before and after such a call
are, are one to the network. -/
structure Outage (Alike : σ → σ → Prop) : Prop where
  row? : ∀ e, Fails Alike (Store.row? e)
  putRow : ∀ e row, Fails Alike (Store.putRow e row)
  listRows : ∀ start, Fails Alike (Store.listRows start)
  eraseRow : ∀ e, Fails Alike (Store.eraseRow e)
  eraseRows : ∀ start, Fails Alike (Store.eraseRows start)
  live? : ∀ key now, Fails Alike (Store.live? key now)
  putEntry : ∀ e, Fails Alike (Store.putEntry e)
  purge : ∀ now, Fails Alike (Store.purge now)
  flush : Fails Alike Store.flush
  send : ∀ r : Http.Request, Agree Alike (Http.Network.send r) (Http.Network.send r)

namespace Outage

variable (h : Outage Alike) {s t : σ} (l : Lookup) (name e : String)

include h

theorem set (r : CheckResult) (ttl : Duration) (now : Instant) (halike : Alike s t) :
    ∃ s', ((Cache.set name r ttl now).getD ()).run s = (.ok (), s') ∧ Alike s' t := by
  rw [Cache.set]
  split
  · exact ⟨s, rfl, halike⟩
  · exact (h.putEntry _).getD () halike

variable [Clock σ]

theorem cached (halike : Alike s t) :
    ∃ s', (l.cached name).run s = (.ok none, s') ∧ Alike s' t := by
  rw [Lookup.cached]
  cases l.cache with
  | none => exact ⟨s, rfl, halike⟩
  | some settings => exact ((h.live? _ _).bind _).getD none halike

theorem gate (halike : Alike s t) :
    ∃ s', (l.gate e).run s = (.ok .allowed, s') ∧ Alike s' t := by
  cases hl : l.limiter with
  | none =>
      rw [Lookup.gate, hl]
      exact ⟨s, rfl, halike⟩
  | some lim =>
      have hallow (now : Instant) : Fails Alike (lim.allow e now) := (h.row? e).bind _
      have hrecord (now : Instant) : Fails Alike (lim.record e now) := (h.row? e).bind _
      obtain ⟨s₁, hallow, halike₁⟩ := (hallow (Clock.now s)).getD .allowed halike
      obtain ⟨s₂, hrecord, halike₂⟩ := (hrecord (Clock.now s₁)).getD () halike₁
      exact ⟨s₂, Lookup.run_gate_of_allowed hl hallow hrecord, halike₂⟩

theorem heed (reply : Http.Reply) (halike : Alike s t) :
    ∃ s', (l.heed e reply).run s = (.ok (), s') ∧ Alike s' t := by
  rw [Lookup.heed]
  split
  · exact ((h.row? e).bind _).getD () halike
  · exact ⟨s, rfl, halike⟩

theorem keep (r : CheckResult) (halike : Alike s t) :
    ∃ s', (l.keep name r).run s = (.ok (), s') ∧ Alike s' t := by
  rw [Lookup.keep]
  cases l.cache with
  | none => exact ⟨s, rfl, halike⟩
  | some settings =>
      simp only
      rw [Effect.run_bind, Effect.run_get]
      exact h.set name r _ _ halike

/-- A check fares without a store as it would without a limiter and without a cache. -/
theorem check (halike : Alike s t) : ∃ outcome s' t', (l.check name).run s = (outcome, s') ∧
    (l.bare.check name).run t = (outcome, t') ∧ Alike s' t' ∧
      ∀ cause, outcome ≠ .error (.store cause) := by
  obtain ⟨s₁, hcached, halike₁⟩ := h.cached l name halike
  have hcached' : (l.bare.cached name).run t = (.ok none, t) := rfl
  rw [Lookup.run_check_of_missed hcached, Lookup.run_check_of_missed hcached']
  cases hurl : l.url name with
  | error failure =>
      have hurl' := (l.url_bare name).trans hurl
      refine ⟨_, s₁, t, Lookup.run_ask_of_error hurl, Lookup.run_ask_of_error hurl', halike₁, ?_⟩
      obtain ⟨cause, rfl⟩ := Lookup.exists_cause_of_url hurl
      exact nofun
  | ok url =>
      have hurl' := (l.url_bare name).trans hurl
      obtain ⟨s₂, hgate, halike₂⟩ := h.gate l (url.host?.getD "") halike₁
      have hgate' : (l.bare.gate (url.host?.getD "")).run t = (.ok .allowed, t) := rfl
      obtain ⟨result, s₃, t₃, hexchange, hexchange', halike₃⟩ :=
        Lookup.agree_exchange h.send l name url s₂ t halike₂
      have hexchange' : (l.bare.exchange name url).run t = (result, t₃) := hexchange'
      cases result with
      | error failure =>
          refine ⟨_, s₃, t₃, Lookup.run_ask_of_lost hurl hgate hexchange,
            Lookup.run_ask_of_lost hurl' hgate' hexchange', halike₃, ?_⟩
          obtain ⟨fault, rfl⟩ := Lookup.exists_fault_of_exchange hexchange
          exact nofun
      | ok reply =>
          obtain ⟨s₄, hheed, halike₄⟩ := h.heed l (url.host?.getD "") reply halike₃
          obtain ⟨s₅, hkeep, halike₅⟩ :=
            h.keep l name (l.answer name (url.host?.getD "") reply) halike₄
          have hheed' : (l.bare.heed (url.host?.getD "") reply).run t₃ = (.ok (), t₃) :=
            Lookup.run_heed_of_unlimited rfl _ _
          exact ⟨_, s₅, t₃, Lookup.run_ask_of_reply hurl hgate hexchange hheed hkeep,
            Lookup.run_ask_of_reply hurl' hgate' hexchange' hheed' rfl, halike₅, nofun⟩

end Outage

end Outage

namespace Wired

variable {σ : Type}

def amid (w : Wired σ) (seen : List Http.Request) : StoreView σ where
  Sound s := w.view.Sound s ∧ w.seen s = seen
  tables := w.view.tables

/-- The store does not fail and leaves the network alone. A request that is sent reaches the other
end or the connection fails. Nothing is said of the clock, which may go as it likes. -/
structure Working [Store σ] [Http.Network σ] (w : Wired σ) : Prop where
  store : ∀ seen, (w.amid seen).Reliable
  send : ∀ (r : Http.Request) (s : σ), w.view.Sound s →
    ∃ reply s', (Http.Network.send r).run s = (reply, s') ∧ w.view.Sound s' ∧
      w.view.tables s' = w.view.tables s ∧
      (w.seen s' = w.seen s ++ [r] ∨ reply = none ∧ w.seen s' = w.seen s)

structure Idle (w : Wired σ) (s s' : σ) : Prop where
  sound : w.view.Sound s'
  seen_eq : w.seen s' = w.seen s
  tables_eq : w.view.tables s' = w.view.tables s

/-- No row has changed but that of the place where a name is looked up, and no answer but that to
the name. -/
structure Confined (w : Wired σ) (l : Lookup) (name : String) (s s' : σ) : Prop where
  rows : ∀ e, (∀ url, l.url name = .ok url → e ≠ url.host?.getD "") →
    (w.view.tables s').row? e = (w.view.tables s).row? e
  entries : ∀ k, k ≠ Cache.key name l.checkType (l.tldOf name) →
    (w.view.tables s').entries.get? k = (w.view.tables s).entries.get? k

theorem Working.exchange [Store σ] [Http.Network σ] {w : Wired σ} (h : w.Working) (l : Lookup)
    (name : String) (url : Url) {s : σ} (hs : w.view.Sound s) :
    ∃ result s', (l.exchange name url).run s = (result, s') ∧ w.view.Sound s' ∧
      w.view.tables s' = w.view.tables s ∧ w.seen s <+: w.seen s' := by
  let Kept (a b : σ) := a = b ∧ w.view.Sound a ∧ w.view.tables a = w.view.tables s ∧
    w.seen s <+: w.seen a
  have hsend (r : Http.Request) : Agree Kept (Http.Network.send r) (Http.Network.send r) := by
    rintro a _ ⟨rfl, ha, htables, hseen⟩
    obtain ⟨reply, a', hrun, ha', htables', hsent⟩ := h.send r a ha
    refine ⟨reply, a', a', hrun, hrun, rfl, ha', htables'.trans htables, ?_⟩
    rcases hsent with hsent | ⟨-, hsent⟩
    · rw [hsent]
      exact hseen.trans (List.prefix_append _ _)
    · rw [hsent]
      exact hseen
  obtain ⟨result, s', _, hrun, -, -, hs', htables, hseen⟩ :=
    Lookup.agree_exchange hsend l name url s s ⟨rfl, hs, rfl, List.prefix_rfl⟩
  exact ⟨result, s', hrun, hs', htables, hseen⟩

section Checks

variable [Store σ] [Clock σ]

/-- A name was not found in the cache, and a request for it has been let pass and counted, though
not sent yet. -/
inductive Admitted (w : Wired σ) (l : Lookup) (lim : Limiter) (name e : String) (s : σ) :
    Row → σ → Prop
  | intro {s₁ s₂ s₃ : σ} (missed : (l.cached name).run s = (.ok none, s₁))
      (allowed : (lim.allow e (Clock.now s₁)).run s₁ = (.ok .allowed, s₂))
      (recorded : (lim.record e (Clock.now s₂)).run s₂ = (.ok (), s₃))
      (unsent : w.seen s₃ = w.seen s)
      (tables : w.view.tables s₃ = (w.view.tables s).putRow e
        (lim.counted e ((w.view.tables s).row? e) (Clock.now s₂))) :
      Admitted w l lim name e s (lim.counted e ((w.view.tables s).row? e) (Clock.now s₂)) s₃

theorem Admitted.tables_eq {w : Wired σ} {l : Lookup} {lim : Limiter} {name e : String} {row : Row}
    {s s' : σ} (h : w.Admitted l lim name e s row s') :
    w.view.tables s' = (w.view.tables s).putRow e row := by
  cases h with
  | intro missed allowed recorded unsent tables => exact tables

theorem Admitted.seen_eq {w : Wired σ} {l : Lookup} {lim : Limiter} {name e : String} {row : Row}
    {s s' : σ} (h : w.Admitted l lim name e s row s') : w.seen s' = w.seen s := by
  cases h with
  | intro missed allowed recorded unsent tables => exact unsent

variable [Http.Network σ]

/-- What a check with a limiter and a cache comes to, and what it leaves. -/
inductive Effects (w : Wired σ) (l : Lookup) (lim : Limiter) (settings : TtlSettings)
    (name : String) (s : σ) : Except Failure CheckResult → σ → Prop
  | found {r : CheckResult} {s' : σ} (hit : (l.cached name).run s = (.ok (some r), s'))
      (idle : w.Idle s s') : Effects w l lim settings name s (.ok r) s'
  | unaskable {failure : Failure} {s' : σ} (missed : (l.cached name).run s = (.ok none, s'))
      (url_eq : l.url name = .error failure) (idle : w.Idle s s') :
      Effects w l lim settings name s (.error failure) s'
  | heldBack {url : Url} {wait : Duration} {s₁ s' : σ}
      (missed : (l.cached name).run s = (.ok none, s₁)) (url_eq : l.url name = .ok url)
      (denied : (lim.allow (url.host?.getD "") (Clock.now s₁)).run s₁ = (.ok (.denied wait), s'))
      (idle : w.Idle s s') :
      Effects w l lim settings name s (.ok (l.heldBack name (url.host?.getD "") wait)) s'
  | lost {url : Url} {row : Row} {fault : TransportFault} {s₁ s' : σ}
      (url_eq : l.url name = .ok url)
      (admitted : w.Admitted l lim name (url.host?.getD "") s row s₁)
      (lost : (l.exchange name url).run s₁ = (.error (.http (.lookup l.checkType name fault)), s'))
      (sent : w.seen s <+: w.seen s')
      (tables : w.view.tables s' = (w.view.tables s).putRow (url.host?.getD "") row) :
      Effects w l lim settings name s (.error (.http (.lookup l.checkType name fault))) s'
  | answered {url : Url} {row : Row} {reply : Http.Reply} {s₁ s₂ s₃ s' : σ}
      (url_eq : l.url name = .ok url)
      (admitted : w.Admitted l lim name (url.host?.getD "") s row s₁)
      (replied : (l.exchange name url).run s₁ = (.ok reply, s₂))
      (heeded : (l.heed (url.host?.getD "") reply).run s₂ = (.ok (), s₃))
      (sent : w.seen s <+: w.seen s')
      (rows : ∀ e, (w.view.tables s').row? e = if e = url.host?.getD "" then
          some (if reply.status = 429 then
            { row with
              backoffUntil := some ((Clock.now s₂).addOrMax (Lookup.backoffOf reply))
              last429At := some (Clock.now s₂) }
          else row)
        else (w.view.tables s).row? e)
      (entries : ∀ k, (w.view.tables s').entries.get? k =
        if k = Cache.key name l.checkType (l.tldOf name) ∧
            .zero < settings.ttlFor (l.answer name (url.host?.getD "") reply).available then
          some (Cache.toEntry name (l.answer name (url.host?.getD "") reply)
            (settings.ttlFor (l.answer name (url.host?.getD "") reply).available) (Clock.now s₃))
        else (w.view.tables s).entries.get? k) :
      Effects w l lim settings name s (.ok (l.answer name (url.host?.getD "") reply)) s'

variable {w : Wired σ} {l : Lookup} {lim : Limiter} {settings : TtlSettings} {name : String}
  {s s' : σ}

theorem Effects.confined {outcome : Except Failure CheckResult}
    (h : w.Effects l lim settings name s outcome s') : w.Confined l name s s' := by
  cases h with
  | found hit idle | unaskable missed url_eq idle | heldBack missed url_eq denied idle =>
      constructor <;> intros <;> rw [idle.tables_eq]
  | lost url_eq admitted lost sent tables =>
      refine ⟨fun e he => ?_, fun k hk => ?_⟩
      · rw [tables, Tables.row?_putRow, if_neg (he _ url_eq)]
      · rw [tables]
        rfl
  | answered url_eq admitted replied heeded sent rows entries =>
      refine ⟨fun e he => ?_, fun k hk => ?_⟩
      · rw [rows, if_neg (he _ url_eq)]
      · rw [entries, if_neg fun h => hk h.1]

namespace Working

variable (h : w.Working)

include h

theorem ask_of_admitted (hl : l.limiter = some lim) (hcache : l.cache = some settings) {url : Url}
    (hurl : l.url name = .ok url) {s₁ s₂ : σ}
    (hgate : (l.gate (url.host?.getD "")).run s₁ = (.ok .allowed, s₂)) (hs₂ : w.view.Sound s₂)
    {row : Row} (hadmitted : w.Admitted l lim name (url.host?.getD "") s row s₂) :
    ∃ outcome s', (l.ask name).run s₁ = (outcome, s') ∧ w.view.Sound s' ∧
      w.Effects l lim settings name s outcome s' := by
  obtain ⟨result, s₃, hexchange, hs₃, htables₃, hsent₃⟩ := h.exchange l name url hs₂
  rw [hadmitted.tables_eq] at htables₃
  rw [hadmitted.seen_eq] at hsent₃
  cases result with
  | error failure =>
      obtain ⟨fault, rfl⟩ := Lookup.exists_fault_of_exchange hexchange
      exact ⟨_, s₃, Lookup.run_ask_of_lost hurl hgate hexchange, hs₃,
        .lost hurl hadmitted hexchange hsent₃ htables₃⟩
  | ok reply =>
      obtain ⟨s₄, hheed, ⟨hs₄, hseen₄⟩, htables₄⟩ :=
        (h.store (w.seen s₃)).heed l (url.host?.getD "") reply ⟨hs₃, rfl⟩
      obtain ⟨s₅, hkeep, ⟨hs₅, hseen₅⟩, htables₅⟩ := (h.store (w.seen s₃)).keep l name
        (l.answer name (url.host?.getD "") reply) ⟨hs₄, hseen₄⟩
      have htables : w.view.tables s₅ = l.kept name (l.answer name (url.host?.getD "") reply)
          (Clock.now s₄) (l.noted (url.host?.getD "") reply (Clock.now s₃)
            ((w.view.tables s).putRow (url.host?.getD "") row)) := by
        rw [← htables₃]
        exact htables₅.trans (congrArg (l.kept name _ (Clock.now s₄)) htables₄)
      have hsent : w.seen s <+: w.seen s₅ := by
        rw [hseen₅]
        exact hsent₃
      refine ⟨_, s₅, Lookup.run_ask_of_reply hurl hgate hexchange hheed hkeep, hs₅,
        .answered hurl hadmitted hexchange hheed hsent (fun k => ?_) fun k => ?_⟩
      · rw [htables, l.row?_kept, l.row?_noted, Tables.row?_putRow, Tables.row?_putRow,
          if_pos rfl, hl]
        by_cases hk : k = url.host?.getD ""
        · by_cases hrefused : reply.status = 429
          · rw [if_pos ⟨hk, hrefused, rfl⟩, if_pos hk, if_pos hrefused]
            rfl
          · rw [if_neg fun h => hrefused h.2.1, if_pos hk, if_pos hk, if_neg hrefused]
        · rw [if_neg fun h => hk h.1, if_neg hk, if_neg hk]
      · rw [htables, Lookup.get?_kept hcache, (l.answers_answer name _ reply).key_eq,
          Lookup.entries_noted]
        rfl

theorem effects (hl : l.limiter = some lim) (hcache : l.cache = some settings) (name : String)
    (hs : w.view.Sound s) : ∃ outcome s', (l.check name).run s = (outcome, s') ∧
      w.view.Sound s' ∧ w.Effects l lim settings name s outcome s' := by
  obtain ⟨s₁, hcached, ⟨hs₁, hseen₁⟩, htables₁⟩ := (h.store (w.seen s)).cached l name ⟨hs, rfl⟩
  have hcached : (l.cached name).run s =
      (.ok (l.hit? name (Clock.now s) (w.view.tables s)), s₁) := hcached
  cases hhit : l.hit? name (Clock.now s) (w.view.tables s) with
  | some r =>
      rw [hhit] at hcached
      exact ⟨_, s₁, Lookup.run_check_of_hit hcached, hs₁, .found hcached ⟨hs₁, hseen₁, htables₁⟩⟩
  | none =>
      rw [hhit] at hcached
      rw [Lookup.run_check_of_missed hcached]
      cases hurl : l.url name with
      | error failure =>
          exact ⟨_, s₁, Lookup.run_ask_of_error hurl, hs₁,
            .unaskable hcached hurl ⟨hs₁, hseen₁, htables₁⟩⟩
      | ok url =>
          obtain ⟨s₂, hallow, ⟨hs₂, hseen₂⟩, htables₂⟩ :=
            (h.store (w.seen s)).allow lim (url.host?.getD "") (Clock.now s₁) ⟨hs₁, hseen₁⟩
          have htables₂ := htables₂.trans htables₁
          cases hd : lim.decide (url.host?.getD "")
              (((w.amid (w.seen s)).tables s₁).row? (url.host?.getD "")) (Clock.now s₁) with
          | denied wait =>
              rw [hd] at hallow
              have hgate := Lookup.run_gate_of_denied hl (Effect.run_getD hallow .allowed)
              exact ⟨_, s₂, Lookup.run_ask_of_denied hurl hgate, hs₂,
                .heldBack hcached hurl hallow ⟨hs₂, hseen₂, htables₂⟩⟩
          | allowed =>
              rw [hd] at hallow
              obtain ⟨s₃, hrecord, ⟨hs₃, hseen₃⟩, htables₃⟩ :=
                (h.store (w.seen s)).record lim (url.host?.getD "") (Clock.now s₂) ⟨hs₂, hseen₂⟩
              rw [htables₂] at htables₃
              have hgate := Lookup.run_gate_of_allowed hl (Effect.run_getD hallow .allowed)
                (Effect.run_getD hrecord ())
              exact h.ask_of_admitted hl hcache hurl hgate hs₃
                (.intro hcached hallow hrecord hseen₃ htables₃)

end Working

theorem Lawful.working (h : w.Lawful) : w.Working where
  store seen :=
    have hfollows {α : Type} {e : Effect σ α} {m : Effect Tables α}
        (hf : ∀ now, (w.during now seen).Follows e m) : (w.amid seen).Follows e m := by
      rintro s ⟨hs, hseen⟩
      obtain ⟨s', hrun, ⟨hs', -, hseen'⟩, htables⟩ := hf (Clock.now s) s ⟨hs, rfl, hseen⟩
      exact ⟨s', hrun, ⟨hs', hseen'⟩, htables⟩
    { row? e := hfollows fun now => (h.store now seen).row? e
      putRow e row := hfollows fun now => (h.store now seen).putRow e row
      listRows start := hfollows fun now => (h.store now seen).listRows start
      eraseRow e := hfollows fun now => (h.store now seen).eraseRow e
      eraseRows start := hfollows fun now => (h.store now seen).eraseRows start
      live? key at_ := hfollows fun now => (h.store now seen).live? key at_
      putEntry e := hfollows fun now => (h.store now seen).putEntry e
      purge at_ := hfollows fun now => (h.store now seen).purge at_
      flush := hfollows fun now => (h.store now seen).flush }
  send r s hs := by
    obtain ⟨reply, s', hrun, htables, hsent | ⟨hreply, hsent⟩⟩ := h.send r s hs
    · exact ⟨reply, s', hrun, hsent.sound, htables, .inl hsent.seen_eq⟩
    · exact ⟨reply, s', hrun, hsent.sound, htables,
        .inr ⟨hreply, hsent.seen_eq.trans (List.append_nil _)⟩⟩

end Checks

end Wired

/-- What one check of a name does. While the store works, a check with a limiter and a cache goes
one of five ways, each with its own effects, and changes nothing beyond the one row and the one
answer. If every call of the store fails, it comes to just what it would without a limiter and
without a cache. -/
theorem effects_of_check (σ : Type) [Store σ] [Clock σ] [Http.Network σ] (l : Lookup)
    (name : String) :
    (∀ w : Wired σ, w.Working → ∀ lim settings, l.limiter = some lim → l.cache = some settings →
      ∀ s, w.view.Sound s → ∃ outcome s', (l.check name).run s = (outcome, s') ∧
        w.view.Sound s' ∧ w.Confined l name s s' ∧ w.Effects l lim settings name s outcome s') ∧
    ∀ Alike : σ → σ → Prop, Outage Alike → ∀ s t, Alike s t →
      ∃ outcome s' t', (l.check name).run s = (outcome, s') ∧
        (l.bare.check name).run t = (outcome, t') ∧ Alike s' t' ∧
        ∀ cause, outcome ≠ .error (.store cause) := by
  refine ⟨fun w hw lim settings hl hcache s hs => ?_, fun Alike h s t halike =>
    h.check l name halike⟩
  obtain ⟨outcome, s', hrun, hs', heffects⟩ := hw.effects hl hcache name hs
  exact ⟨outcome, s', hrun, hs', heffects.confined, heffects⟩

/-- A wire next to a store that fails on every call. -/
structure Stranded where
  wire : Http.Wire

namespace Stranded

def refused {α : Type} : Effect Stranded α :=
  throw (.store (.said "the store is gone"))

instance : Store Stranded where
  row? _ := refused
  putRow _ _ := refused
  listRows _ := refused
  eraseRow _ := refused
  eraseRows _ := refused
  live? _ _ := refused
  putEntry _ := refused
  purge _ := refused
  flush := refused

instance : Clock Stranded where
  now _ := .epoch

instance : Http.Network Stranded where
  send r := fun s => ((s.wire.answer r).1, ⟨(s.wire.answer r).2⟩)

theorem fails_refused {α : Type} : Fails Eq (refused : Effect Stranded α) :=
  fun s _ heq => ⟨_, s, rfl, heq⟩

theorem outage : Outage (σ := Stranded) Eq where
  row? _ := fails_refused
  putRow _ _ := fails_refused
  listRows _ := fails_refused
  eraseRow _ := fails_refused
  eraseRows _ := fails_refused
  live? _ _ := fails_refused
  putEntry _ := fails_refused
  purge _ := fails_refused
  flush := fails_refused
  send r := by
    rintro s _ rfl
    exact ⟨_, _, _, rfl, rfl, rfl⟩

end Stranded

namespace World

/-- A lookup with a limiter that keeps refusals for five minutes. -/
def careful : Lookup :=
  { atRegistry with cache := patient.cache }

/-- A refusal is counted, heeded and kept; without a store it is the same refusal. -/
theorem effects_of_check_refusal :
    (∃ outcome s', (careful.check "acme").run refusing = (outcome, s') ∧
      (wired fun _ => True).Confined careful "acme" refusing s' ∧
      (s'.backend.tables.row? "reg.test").map (fun row => (row.requestCount, row.backoffUntil)) =
        some (1, some (Instant.epoch.addOrMax (.ofSeconds 120))) ∧
      (s'.backend.tables.entries.get? ⟨"acme", .npm, ""⟩).isSome = true) ∧
    ∃ r s' t', (careful.check "acme").run (⟨refusing.wire⟩ : Stranded) = (.ok r, s') ∧
      (careful.bare.check "acme").run (⟨refusing.wire⟩ : Stranded) = (.ok r, t') ∧
      r.available = .rateLimited ∧ r.statusCode = some 429 := by
  have hsound : (wired fun _ => True).view.Sound refusing :=
    ⟨⟨.empty, rfl⟩, fun _ _ _ _ => trivial⟩
  constructor
  · obtain ⟨outcome, s', hrun, -, hconfined, -⟩ := (effects_of_check World careful "acme").1
      (wired fun _ => True) lawful_wired.working _ _ rfl rfl refusing hsound
    have hs' : s' = ((careful.check "acme").run refusing).2 := by rw [hrun]
    refine ⟨outcome, s', hrun, hconfined, ?_, ?_⟩
    · rw [hs']
      decide +kernel
    · rw [hs']
      decide +kernel
  · obtain ⟨outcome, s', t', hrun, hrun', -, -⟩ := (effects_of_check Stranded careful "acme").2
      Eq Stranded.outage ⟨refusing.wire⟩ ⟨refusing.wire⟩ rfl
    have hrefused : (careful.check "acme").run (⟨refusing.wire⟩ : Stranded) =
        (.ok (careful.answer "acme" "reg.test" refusal),
          ((careful.check "acme").run ⟨refusing.wire⟩).2) :=
      eq_mk_of_fst (by decide +kernel)
    obtain rfl := congrArg Prod.fst (hrun.symm.trans hrefused)
    exact ⟨_, s', t', hrun, hrun', by decide +kernel, by decide +kernel⟩

end World

end NameScout
