import NameScout.Proofs.Lookup.Backoff
import NameScout.Proofs.Lookup.Later
import NameScout.Proofs.RateLimit.Waiting

namespace NameScout

namespace Lookup

variable {l : Lookup} {e f : String} {now u : Instant} {t : Tables} {row : Row}

theorem verdict_of_backoff (hlimited : l.limiter.isSome = true) (hrow : t.row? e = some row)
    (hback : row.backoffUntil = some u) (hu : now < u) :
    l.verdict e now t = .denied (u - now) := by
  obtain ⟨lim, hl⟩ := Option.isSome_iff_exists.mp hlimited
  rw [verdict, hl, Option.elim_some, hrow, lim.decide_of_backoff e hback hu]

theorem elsewhere_of_backoff (hallowed : l.verdict f now t = .allowed)
    (hrow : t.row? e = some row) (hback : row.backoffUntil = some u) (hu : now < u) :
    l.limiter = none ∨ e ≠ f := by
  cases hl : l.limiter with
  | none => exact .inl rfl
  | some lim =>
      refine .inr ?_
      rintro rfl
      have hdenied := verdict_of_backoff (l := l) (by rw [hl]; rfl) hrow hback hu
      rw [hallowed] at hdenied
      cases hdenied

theorem row?_counted_elsewhere (h : l.limiter = none ∨ e ≠ f) (now : Instant) (t : Tables) :
    (l.counted f now t).row? e = t.row? e := by
  rw [counted]
  rcases h with h | h
  · rw [h, Option.elim_none]
  · cases l.limiter with
    | none => rfl
    | some lim => rw [Option.elim_some, Tables.row?_putRow, if_neg h]

theorem row?_noted_elsewhere (h : l.limiter = none ∨ e ≠ f) (reply : Http.Reply) (now : Instant)
    (t : Tables) : (l.noted f reply now t).row? e = t.row? e := by
  rw [row?_noted, if_neg]
  rintro ⟨rfl, -, hlimited⟩
  rcases h with h | h
  · rw [h] at hlimited
    cases hlimited
  · exact h rfl

theorem row?_noted_refusal (hlimited : l.limiter.isSome = true) {reply : Http.Reply}
    (hstatus : reply.status = 429) (e : String) (now : Instant) (t : Tables) :
    ∃ row, (l.noted e reply now t).row? e = some row ∧
      row.backoffUntil = some (now.addOrMax (backoffOf reply)) :=
  ⟨_, (l.row?_noted e reply now t e).trans (if_pos ⟨rfl, hstatus, hlimited⟩), rfl⟩

theorem exists_url_of_host {name host : String}
    (h : (l.url name).toOption.bind (·.host?) = some host) :
    ∃ url, l.url name = .ok url ∧ url.host? = some host := by
  obtain ⟨url, hurl, hhost⟩ := Option.bind_eq_some_iff.mp h
  cases hfound : l.url name with
  | error failure =>
      rw [hfound] at hurl
      cases hurl
  | ok found =>
      rw [hfound] at hurl
      cases hurl
      exact ⟨url, rfl, hhost⟩

theorem fromCache_of_hit? {name : String} {r : CheckResult} (h : l.hit? name now t = some r) :
    r.provenance.fromCache = true := by
  obtain ⟨ttl, -, h⟩ := Option.bind_eq_some_iff.mp h
  obtain ⟨entry, -, rfl⟩ := Option.map_eq_some_iff.mp h
  rfl

end Lookup

namespace Wired

variable {σ : Type} [Clock σ] [Http.Network σ] {w : Wired σ} {l : Lookup} {name e : String}
  {s s' : σ} {replied : Except Failure (Option Http.Reply) × σ}
  {outcome : Except Failure CheckResult} {row : Row} {u : Instant}

theorem Course.row?_of_backoff (h : w.Course l name s replied (outcome, s'))
    (hrow : (w.view.tables s).row? e = some row) (hback : row.backoffUntil = some u)
    (hu : Clock.now s < u) : (w.view.tables s').row? e = some row := by
  cases h with
  | found hit still tables | unaskable missed url still tables
  | heldBack missed url_eq denied still tables =>
      rw [tables]
      exact hrow
  | failed missed url_eq allowed sent chain tables =>
      have helsewhere := Lookup.elsewhere_of_backoff allowed hrow hback hu
      rw [tables, Lookup.row?_counted_elsewhere helsewhere]
      exact hrow
  | answered missed url_eq allowed sent chain noticed tables =>
      have helsewhere := Lookup.elsewhere_of_backoff allowed hrow hback hu
      rw [tables, l.row?_kept, Lookup.row?_noted_elsewhere helsewhere,
        Lookup.row?_counted_elsewhere helsewhere]
      exact hrow

theorem Course.quiet_of_backoff (h : w.Course l name s replied (outcome, s'))
    (hlimited : l.limiter.isSome = true) {url : Url} (hurl : l.url name = .ok url)
    (hrow : (w.view.tables s).row? (url.host?.getD "") = some row)
    (hback : row.backoffUntil = some u) (hu : Clock.now s < u) :
    w.Still s s' ∧ w.view.tables s' = w.view.tables s ∧ ∃ r, outcome = .ok r ∧
      (r.provenance.fromCache = true ∨ r.available = .rateLimited) := by
  have hdenied := Lookup.verdict_of_backoff hlimited hrow hback hu
  cases h with
  | found hit still tables =>
      exact ⟨still, tables, _, rfl, .inl (Lookup.fromCache_of_hit? hit)⟩
  | unaskable missed url_eq =>
      rw [hurl] at url_eq
      cases url_eq
  | heldBack missed url_eq denied still tables => exact ⟨still, tables, _, rfl, .inr rfl⟩
  | failed missed url_eq allowed | answered missed url_eq allowed =>
      rw [hurl] at url_eq
      cases url_eq
      rw [allowed] at hdenied
      cases hdenied

section Refusal

variable [Store σ]

/-- After a refusal every check by a lookup with a limiter sends nothing to the endpoint that
refused, as long as the header asks to wait, or a minute: such checks are answered from the cache
or held back. Whatever is checked in between, by lookups of any kind, changes nothing in that. -/
theorem refusal_is_heeded (h : w.Lawful) (hs : w.view.Sound s) (hlimited : l.limiter.isSome = true)
    {url : Url} (hurl : l.url name = .ok url) {reply : Http.Reply} {s₁ : σ}
    (hreply : (l.reply? name).run s = (.ok (some reply), s₁)) (hstatus : reply.status = 429) :
    ∃ b, (∀ d, Lookup.Waits (reply.header? "retry-after") d ↔ d = b) ∧
      ∀ s₂, w.Later ((l.check name).run s).2 s₂ → Clock.now s₂ < (Clock.now s₁).addOrMax b →
        ∀ (l' : Lookup) (name' : String) (url' : Url), l'.limiter.isSome = true →
          l'.url name' = .ok url' → url'.host?.getD "" = url.host?.getD "" →
            ∃ r s₃, (l'.check name').run s₂ = (.ok r, s₃) ∧ w.Still s₂ s₃ ∧
              w.view.tables s₃ = w.view.tables s₂ ∧
              (r.provenance.fromCache = true ∨ r.available = .rateLimited) := by
  refine ⟨Lookup.backoffOf reply, Lookup.waits_iff reply, ?_⟩
  have hcourse := h.course l name hs
  rw [hreply] at hcourse
  generalize hcheck : (l.check name).run s = end_ at hcourse
  cases hcourse with
  | @answered _ _ _ _ s' missed url_eq allowed sent chain noticed tables =>
      rw [hurl] at url_eq
      cases url_eq
      intro s₂ hlater hbefore l' name' url' hlimited' hurl' hhost
      obtain ⟨row, hrow, hback⟩ := Lookup.row?_noted_refusal hlimited hstatus (url.host?.getD "")
        (Clock.now s') (l.counted (url.host?.getD "") (Clock.now s) (w.view.tables s))
      rw [← l.row?_kept, ← tables] at hrow
      rw [noticed.now_eq] at hback
      have hkept := hlater.keeps h sent.sound
        (P := fun t => t.row? (url.host?.getD "") = some row)
        (fun hcourse' hu hrow' => hcourse'.row?_of_backoff hrow' hback hu) hrow hbefore
      have hcourse' := h.course l' name' (hlater.sound h sent.sound)
      rw [← hhost] at hkept
      obtain ⟨hstill, htables, r, hr, hanswer⟩ :=
        hcourse'.quiet_of_backoff hlimited' hurl' hkept hback hbefore
      exact ⟨r, _, Prod.ext hr rfl, hstill, htables, hanswer⟩

end Refusal

end Wired

namespace World

def justBefore : World :=
  (afterCheck "acme" refusing).waited (Instant.epoch.addOrMax (.ofSeconds 119))

theorem refusal_is_heeded_twoMinutes :
    Lookup.Waits (refusal.header? "retry-after") (.ofSeconds 120) ∧
      ∃ r s, (atRegistry.check "beta").run justBefore = (.ok r, s) ∧
        s.wire.seen.map (·.url.text) = ["https://reg.test/acme"] ∧
        (r.provenance.fromCache = true ∨ r.available = .rateLimited) := by
  have hdigits : Decimal.AllDigits ['1', '2', '0'] := by
    intro c hc
    simp only [List.mem_cons, List.not_mem_nil, or_false] at hc
    rcases hc with rfl | rfl | rfl <;> rfl
  have hfound : refusal.header? "retry-after" = some " +120 " := by decide +kernel
  have htells : Lookup.Tells " +120 " 120 :=
    ⟨[' '], ['+', '1', '2', '0'], [' '], by decide +kernel, .plus (by decide) hdigits, by simp⟩
  have hwaits : Lookup.Waits (refusal.header? "retry-after") (.ofSeconds 120) :=
    .told hfound htells (by decide) (by decide) (by decide)
  let w := wired fun _ => True
  have hsound : w.view.Sound refusing := ⟨⟨.empty, rfl⟩, fun _ _ _ _ => trivial⟩
  have hchecked : w.Later refusing (afterCheck "acme" refusing) := .check .start atRegistry "acme"
  obtain ⟨url, hurl, hhost⟩ : ∃ url, atRegistry.url "acme" = .ok url ∧
      url.host? = some "reg.test" := Lookup.exists_url_of_host (by decide +kernel)
  obtain ⟨url', hurl', hhost'⟩ : ∃ url, atRegistry.url "beta" = .ok url ∧
      url.host? = some "reg.test" := Lookup.exists_url_of_host (by decide +kernel)
  have hreply : (atRegistry.reply? "acme").run refusing =
      (.ok (some refusal), ((atRegistry.reply? "acme").run refusing).2) :=
    eq_mk_of_fst (by decide +kernel)
  obtain ⟨b, hb, hheeded⟩ :=
    Wired.refusal_is_heeded (l := atRegistry) lawful_wired hsound rfl hurl hreply rfl
  obtain rfl := (hb _).mp hwaits
  have hlater : w.Later (afterCheck "acme" refusing) justBefore :=
    later_waited .start (hchecked.sound lawful_wired hsound) (by decide +kernel)
  obtain ⟨r, s, hrun, hstill, -, hanswer⟩ :=
    hheeded _ hlater (by decide +kernel) atRegistry "beta" url' rfl hurl' (by rw [hhost, hhost'])
  refine ⟨hwaits, r, s, hrun, ?_, hanswer⟩
  have hseen : s.wire.seen = _ := hstill.seen_eq
  rw [hseen]
  decide +kernel

end World

end NameScout
