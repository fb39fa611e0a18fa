import NameScout.Proofs.Lookup.Wire
import NameScout.Proofs.Survey.FanOut
import NameScout.Proofs.Text.Normal

namespace NameScout

open Text

section Plan

def Profile.normalized (p : Profile) : Profile :=
  { p with
    tlds := p.tlds.map normalizeKey
    registries := p.registries.map normalizeKey
    handles := p.handles.map normalizeKey }

namespace CheckType

variable {key : String}

theorem ofKey?_of_twoDots (h : TwoDots key) : ofKey? key = none := by
  have hkeys : ∀ entry ∈ keyTable, entry.1.toList.head? ≠ some '.' := by decide
  rw [ofKey?, Option.map_eq_none_iff, List.find?_eq_none]
  intro entry hentry heq
  have hdot := head?_of_twoDots h
  rw [← toList_normalizeKey, ← of_decide_eq_true heq] at hdot
  exact hkeys entry hentry hdot

theorem ofKey?_normalizeKey (h : ¬ TwoDots key) : ofKey? (normalizeKey key) = ofKey? key := by
  rw [ofKey?, ofKey?, normalizeKey_normalizeKey h]

theorem length_filterMap_ofKey?_le (keys : List String) : (keys.filterMap ofKey?).length ≤
    ((keys.map normalizeKey).filterMap ofKey?).length := by
  induction keys with
  | nil => exact Nat.le_refl _
  | cons key keys ih =>
      rw [List.map_cons, List.filterMap_cons, List.filterMap_cons]
      by_cases hdots : TwoDots key
      · rw [ofKey?_of_twoDots hdots]
        cases ofKey? (normalizeKey key) with
        | none => exact ih
        | some t => exact Nat.le_succ_of_le ih
      · rw [ofKey?_normalizeKey hdots]
        cases ofKey? key with
        | none => exact ih
        | some t => exact Nat.succ_le_succ ih

theorem filterMap_ofKey?_eq_iff (keys : List String) :
    (keys.map normalizeKey).filterMap ofKey? = keys.filterMap ofKey? ↔
      ∀ key ∈ keys, TwoDots key → ofKey? (normalizeKey key) = none := by
  induction keys with
  | nil => simp
  | cons key keys ih =>
      rw [List.map_cons, List.filterMap_cons, List.filterMap_cons, List.forall_mem_cons]
      by_cases hdots : TwoDots key
      · rw [ofKey?_of_twoDots hdots]
        cases hkey : ofKey? (normalizeKey key) with
        | none => simpa using ih
        | some t =>
            have hle := length_filterMap_ofKey?_le keys
            refine ⟨fun h => ?_, fun h => ?_⟩
            · have hlength := congrArg List.length h
              simp only [List.length_cons] at hlength
              omega
            · cases h.1 hdots
      · rw [ofKey?_normalizeKey hdots]
        cases ofKey? key with
        | none => simpa [hdots] using ih
        | some t => simpa [hdots] using ih

end CheckType

namespace Target

def letters (tlds : List String) : Nat :=
  (tlds.flatMap String.toList).length

theorem letters_cons (tld : String) (tlds : List String) :
    letters (tld :: tlds) = tld.toList.length + letters tlds := by
  rw [letters, List.flatMap_cons, List.length_append]
  rfl

theorem letters_filter (tlds : List String) : letters (tlds.filter (· ≠ "")) = letters tlds := by
  induction tlds with
  | nil => rfl
  | cons tld tlds ih =>
      by_cases hblank : tld = ""
      · subst hblank
        rw [List.filter_cons_of_neg (by simp), ih, letters_cons]
        exact (Nat.zero_add _).symm
      · rw [List.filter_cons_of_pos (by simpa using hblank), letters_cons, letters_cons, ih]

theorem length_normalizeKey_normalizeKey_le (raw : String) :
    (normalizeKey (normalizeKey raw)).toList.length ≤ (normalizeKey raw).toList.length := by
  by_cases hdots : TwoDots raw
  · exact Nat.le_of_lt (length_normalizeKey_lt hdots)
  · rw [normalizeKey_normalizeKey hdots]

theorem letters_normalizeKey_le (tlds : List String) :
    letters ((tlds.map normalizeKey).map normalizeKey) ≤ letters (tlds.map normalizeKey) := by
  induction tlds with
  | nil => exact Nat.le_refl _
  | cons tld tlds ih =>
      rw [List.map_cons, List.map_cons, letters_cons, letters_cons]
      exact Nat.add_le_add (length_normalizeKey_normalizeKey_le tld) ih

theorem not_twoDots_of_letters_eq {tlds : List String}
    (h : letters ((tlds.map normalizeKey).map normalizeKey) = letters (tlds.map normalizeKey)) :
    ∀ tld ∈ tlds, ¬ TwoDots tld := by
  induction tlds with
  | nil => exact nofun
  | cons tld tlds ih =>
      rw [List.map_cons, List.map_cons, letters_cons, letters_cons] at h
      have hfirst := length_normalizeKey_normalizeKey_le tld
      have hrest := letters_normalizeKey_le tlds
      rw [List.forall_mem_cons]
      refine ⟨fun hdots => ?_, ih (by omega)⟩
      have hlt := length_normalizeKey_lt hdots
      omega

theorem map_normalizeKey_eq_iff (tlds : List String) :
    ((tlds.map normalizeKey).map normalizeKey).filter (· ≠ "") =
        (tlds.map normalizeKey).filter (· ≠ "") ↔ ∀ tld ∈ tlds, ¬ TwoDots tld := by
  constructor
  · intro h
    have hletters := congrArg letters h
    rw [letters_filter, letters_filter] at hletters
    exact not_twoDots_of_letters_eq hletters
  · intro h
    have hmap : (tlds.map normalizeKey).map normalizeKey = tlds.map normalizeKey := by
      rw [List.map_map]
      exact List.map_congr_left fun tld htld => normalizeKey_normalizeKey (h tld htld)
    rw [hmap]

theorem plan_eq_iff (name : String) (p q : Profile) : plan name p = plan name q ↔
    (p.tlds.map normalizeKey).filter (· ≠ "") = (q.tlds.map normalizeKey).filter (· ≠ "") ∧
      (p.registries ++ p.handles).filterMap CheckType.ofKey? =
        (q.registries ++ q.handles).filterMap CheckType.ofKey? := by
  -- The two parts of a plan can be told apart: only its domains have a top-level domain.
  have htlds (p : Profile) : (plan name p).filterMap Target.tld =
      (p.tlds.map normalizeKey).filter (· ≠ "") := by
    rw [Survey.plan_eq, List.filterMap_append, List.filterMap_map, List.filterMap_map]
    simp
  have htypes (p : Profile) : ((plan name p).filter (·.tld = none)).map Target.checkType =
      (p.registries ++ p.handles).filterMap CheckType.ofKey? := by
    rw [Survey.plan_eq, List.filter_append]
    simp [List.filter_map, Function.comp_def]
  constructor
  · intro h
    rw [← htlds, ← htlds, ← htypes, ← htypes, h]
    exact ⟨rfl, rfl⟩
  · rintro ⟨htld, htype⟩
    rw [List.filterMap_append, List.filterMap_append] at htype
    rw [Survey.plan_eq, Survey.plan_eq, htld, htype]

/-- Planning for the normalized entries differs only where an entry has two dots. -/
theorem plan_normalized_eq_iff (name : String) (p : Profile) :
    plan name p.normalized = plan name p ↔ (∀ tld ∈ p.tlds, ¬ TwoDots tld) ∧
      ∀ key ∈ p.registries ++ p.handles, TwoDots key →
        CheckType.ofKey? (normalizeKey key) = none := by
  rw [plan_eq_iff, ← map_normalizeKey_eq_iff, ← CheckType.filterMap_ofKey?_eq_iff, List.map_append]
  rfl

end Target

end Plan

namespace Cache

section Found

variable {r : CheckResult} {t : Tables}

theorem key_domain (name : String) (tld : Option String) :
    key name .domain tld = ⟨name, .domain, normalizeKey (tld.getD "")⟩ :=
  key_eq_spelledKey name .domain tld

theorem key_toEntry (hr : r.checkType = .domain) (name : String) (ttl : Duration) (now : Instant) :
    (toEntry name r ttl now).key = key name .domain r.tld := by
  rw [← hr]
  rfl

theorem key_reported (hr : r.checkType = .domain) (name : String) (ttl : Duration)
    (now found : Instant) : key name .domain (toResult (toEntry name r ttl now) found).tld =
      ⟨name, .domain, normalizeKey (normalizeKey (r.tld.getD ""))⟩ := by
  have hentry := key_toEntry hr name ttl now
  rw [key_domain, Entry.key, CacheKey.mk.injEq] at hentry
  obtain ⟨-, -, htld⟩ := hentry
  rw [key_domain, toResult, htld]
  by_cases hblank : normalizeKey (r.tld.getD "") = ""
  · rw [if_pos hblank, hblank, Option.getD_none]
  · rw [if_neg hblank, Option.getD_some]

theorem key_reported_eq (hr : r.checkType = .domain) (hdots : ¬ TwoDots (r.tld.getD ""))
    (name : String) (ttl : Duration) (now found : Instant) :
    key name .domain (toResult (toEntry name r ttl now) found).tld =
      (toEntry name r ttl now).key := by
  rw [key_reported hr, normalizeKey_normalizeKey hdots, key_toEntry hr, key_domain]

theorem key_reported_ne (hr : r.checkType = .domain) (hdots : TwoDots (r.tld.getD ""))
    (name : String) (ttl : Duration) (now found : Instant) :
    key name .domain (toResult (toEntry name r ttl now) found).tld ≠
      (toEntry name r ttl now).key := by
  rw [key_reported hr, key_toEntry hr, key_domain, Ne, CacheKey.mk.injEq]
  rintro ⟨-, -, htld⟩
  exact (normalizeKey_normalizeKey_iff _).mp htld hdots

end Found

section Kept

variable {σ : Type} [Store σ] {v : StoreView σ} {s : σ} {r : CheckResult} {ttl : Duration}

theorem found_again (hv : v.Reliable) (hs : v.Sound s) (hr : r.checkType = .domain)
    (httl : .zero < ttl) (name : String) (now : Instant) :
    ∃ s₁, (Cache.set name r ttl now).run s = (.ok (), s₁) ∧
      ∀ found later, found < now.addOrMax ttl → later < now.addOrMax ttl →
        ∃ hit s₂ again s₃,
          (Cache.get name .domain r.tld found).run s₁ = (.ok (some hit), s₂) ∧
          (Cache.get name .domain hit.tld later).run s₂ = (.ok again, s₃) ∧
          hit = toResult (toEntry name r ttl now) found ∧
          (¬ TwoDots (r.tld.getD "") → again = some (toResult (toEntry name r ttl now) later)) ∧
          (TwoDots (r.tld.getD "") →
            key name .domain hit.tld ≠ key name .domain r.tld ∧
            again = ((v.tables s).live? (key name .domain hit.tld) later).map
              (toResult · later)) := by
  obtain ⟨s₁, hset, hs₁, htables₁⟩ := follows_set hv name r ttl now s hs
  rw [run_set] at hset htables₁
  simp only [if_neg (Duration.not_le.mpr httl)] at htables₁
  refine ⟨s₁, hset, fun found later hfound hlater => ?_⟩
  obtain ⟨s₂, hget, hs₂, htables₂⟩ := follows_get hv name .domain r.tld found s₁ hs₁
  have hlive : (toEntry name r ttl now).isLive found = true := isLive_toEntry hfound
  rw [run_get, htables₁, ← key_toEntry hr name ttl now, live?_putEntry_self _ hlive,
    Option.map_some] at hget
  rw [run_get] at htables₂
  obtain ⟨s₃, hagain, -, -⟩ := follows_get hv name .domain
    (toResult (toEntry name r ttl now) found).tld later s₂ hs₂
  rw [run_get, htables₂, htables₁] at hagain
  refine ⟨_, s₂, _, s₃, hget, hagain, rfl, fun hdots => ?_, fun hdots => ?_⟩
  · rw [key_reported_eq hr hdots, live?_putEntry_self _ (isLive_toEntry hlater), Option.map_some]
  · have hne := key_reported_ne hr hdots name ttl now found
    rw [live?_putEntry_of_ne hne]
    exact ⟨key_toEntry hr name ttl now ▸ hne, rfl⟩

end Kept

end Cache

/-- Normalizing twice is normalizing once, except for texts that begin with two dots: of these
each normalization drops one. A hit is found again under the top-level domain that it reports,
and normalized entries are planned for as the entries are, unless there are such texts. -/
theorem same_again_unless_twoDots {σ : Type} [Store σ] {v : StoreView σ} (hv : v.Reliable) {s : σ}
    (hs : v.Sound s) :
    (∀ raw, normalizeKey (normalizeKey raw) = normalizeKey raw ↔ ¬ TwoDots raw) ∧
    (∀ (name : String) (r : CheckResult) (ttl : Duration) (now : Instant),
      r.checkType = .domain → .zero < ttl →
      ∃ s₁, (Cache.set name r ttl now).run s = (.ok (), s₁) ∧
        ∀ found later, found < now.addOrMax ttl → later < now.addOrMax ttl →
          ∃ hit s₂ again s₃,
            (Cache.get name .domain r.tld found).run s₁ = (.ok (some hit), s₂) ∧
            (Cache.get name .domain hit.tld later).run s₂ = (.ok again, s₃) ∧
            hit = Cache.toResult (Cache.toEntry name r ttl now) found ∧
            (¬ TwoDots (r.tld.getD "") →
              again = some (Cache.toResult (Cache.toEntry name r ttl now) later)) ∧
            (TwoDots (r.tld.getD "") →
              Cache.key name .domain hit.tld ≠ Cache.key name .domain r.tld ∧
              again = ((v.tables s).live? (Cache.key name .domain hit.tld) later).map
                (Cache.toResult · later))) ∧
    (∀ (name : String) (p : Profile), Target.plan name p.normalized = Target.plan name p ↔
      (∀ tld ∈ p.tlds, ¬ TwoDots tld) ∧
        ∀ key ∈ p.registries ++ p.handles, TwoDots key →
          CheckType.ofKey? (normalizeKey key) = none) :=
  ⟨normalizeKey_normalizeKey_iff,
    fun name _ _ now hr httl => Cache.found_again hv hs hr httl name now,
    Target.plan_normalized_eq_iff⟩

def acmeUnder (tld : String) : CheckResult :=
  (CheckResult.new "acme" .domain .taken).withTld tld

theorem same_again_unless_twoDots_com : ∃ hit s₁ s₂ s₃,
    (Cache.set "acme" (acmeUnder " .COM ") (.ofSeconds 60) .epoch : Effect Tables _).run .empty =
        (.ok (), s₁) ∧
      (Cache.get "acme" .domain (some " .COM ") .epoch : Effect Tables _).run s₁ =
        (.ok (some hit), s₂) ∧
      (Cache.get "acme" .domain hit.tld .epoch : Effect Tables _).run s₂ = (.ok (some hit), s₃) := by
  obtain ⟨hiff, hcache, -⟩ := same_again_unless_twoDots StoreView.reliable_memory
    (s := Tables.empty) trivial
  obtain ⟨s₁, hset, hfound⟩ := hcache "acme" (acmeUnder " .COM ") (.ofSeconds 60) .epoch rfl
    (by decide)
  obtain ⟨hit, s₂, again, s₃, hget, hagain, hhit, hone, -⟩ :=
    hfound .epoch .epoch (by decide) (by decide)
  have hdots : ¬ TwoDots " .COM " := (hiff _).mp (by decide +kernel)
  refine ⟨hit, s₁, s₂, s₃, hset, hget, ?_⟩
  rw [hagain, hone hdots, hhit]

def keptUnderTwoDots : Tables :=
  ((Cache.set "acme" (acmeUnder "..com") (.ofSeconds 60) .epoch : Effect Tables Unit).run .empty).2

def twoDotsProfile : Profile :=
  { Profile.new "p" with tlds := ["..com"] }

/-- The answer that is kept is not found under the top-level domain that the hit reports, and
the normalized profile asks for another domain. -/
theorem not_same_again_of_twoDots :
    normalizeKey "..com" = ".com" ∧ normalizeKey (normalizeKey "..com") = "com" ∧
      ((Cache.get "acme" .domain (some "..com") .epoch).run keptUnderTwoDots).1.map
          (Option.map CheckResult.tld) = .ok (some (some ".com")) ∧
      ((Cache.get "acme" .domain (some ".com") .epoch).run keptUnderTwoDots).1 = .ok none ∧
      (Target.plan "acme" twoDotsProfile).map Target.name = ["acme..com"] ∧
      (Target.plan "acme" twoDotsProfile.normalized).map Target.name = ["acme.com"] := by
  decide +kernel

end NameScout
