import NameScout.Cache.Results
import NameScout.Proofs.Json.Records
import NameScout.Proofs.Store.Keyed
import NameScout.Proofs.Store.Reliable
import NameScout.Proofs.Time.Addition
import NameScout.Proofs.Time.Position

namespace NameScout.Cache

theorem extraData_compact {members : List (String × Json)}
    (h : Json.isStorable Json.maxDepth (.object members) = true) :
    extraData (Json.compact (.object members)) = members := by
  rw [extraData, Json.decode?_compact (Json.isWhole_of_isStorable _ h)
    (decodes_extraData (.refl members) h) (Nat.le_refl _), Option.getD_some]

inductive Call where
  | get (name : String) (checkType : CheckType) (tld : Option String)
  | set (name : String) (r : CheckResult) (ttl : Duration)
  | purge

inductive Answer where
  | found (r : Option CheckResult)
  | done
  | purged (n : Nat)

section Perform

variable {σ : Type} [Store σ]

def Call.perform (now : Instant) : Call → Effect σ Answer
  | .get name checkType tld => return .found (← Cache.get name checkType tld now)
  | .set name r ttl => do
      Cache.set name r ttl now
      return .done
  | .purge => return .purged (← Cache.purge now)

def performAll : List (Instant × Call) → Effect σ (List Answer)
  | [] => return []
  | (now, c) :: calls => do
      let answer ← c.perform now
      let answers ← performAll calls
      return answer :: answers

end Perform

section History

/-- What identifies an answer that is asked for or kept: of the spellings of a top-level domain
only the normalized form counts, and only for domains. -/
def spelledKey (name : String) (checkType : CheckType) (tld : Option String) : CacheKey :=
  ⟨name, checkType, if checkType = .domain then Text.normalizeKey (tld.getD "") else ""⟩

theorem key_eq_spelledKey (name : String) (checkType : CheckType) (tld : Option String) :
    key name checkType tld = spelledKey name checkType tld := by
  cases checkType <;> cases tld <;> rfl

structure Write where
  name : String
  result : CheckResult
  ttl : Duration
  time : Instant

namespace Write

def key (w : Write) : CacheKey :=
  spelledKey w.name w.result.checkType w.result.tld

def expiresAt (w : Write) : Instant :=
  w.time.addOrMax w.ttl

def isLive (w : Write) (now : Instant) : Bool :=
  now < w.expiresAt

def shown (w : Write) (now : Instant) : CheckResult :=
  { w.result with
    name := w.name
    tld := if w.key.tld = "" then none else some w.key.tld
    provenance :=
      { requestedAt := some now, resolvedAt := some (w.result.provenance.resolvedAt.getD w.time)
        fromCache := true, cacheExpiresAt := some w.expiresAt, source := "cache", server := "" } }

def entry (w : Write) : Entry :=
  toEntry w.name w.result w.ttl w.time

theorem key_entry (w : Write) : w.entry.key = w.key :=
  key_eq_spelledKey w.name w.result.checkType w.result.tld

theorem isLive_entry (w : Write) (now : Instant) : w.entry.isLive now = w.isLive now :=
  rfl

theorem toResult_entry {w : Write}
    (h : Json.isStorable Json.maxDepth (.object w.result.extraData) = true) (now : Instant) :
    toResult w.entry now = w.shown now := by
  have htld : w.entry.tld = w.key.tld := congrArg CacheKey.tld w.key_entry
  rw [toResult, htld]
  simp only [entry, toEntry, extraData_compact h]
  rfl

end Write

def Call.write? (now : Instant) : Call → Option Write
  | .set name r ttl => if .zero < ttl then some ⟨name, r, ttl, now⟩ else none
  | _ => none

theorem write?_set_eq_none {now : Instant} {name : String} {r : CheckResult} {ttl : Duration}
    (h : ttl ≤ .zero) : (Call.set name r ttl).write? now = none := by
  exact if_neg fun hpos => Duration.not_le.mpr hpos h

theorem write?_set_eq_some {now : Instant} {name : String} {r : CheckResult} {ttl : Duration}
    (h : ¬ ttl ≤ .zero) : (Call.set name r ttl).write? now = some ⟨name, r, ttl, now⟩ := by
  exact if_pos (Duration.not_le.mp h)

def writes (calls : List (Instant × Call)) : List Write :=
  calls.filterMap fun c => c.2.write? c.1

theorem of_mem_writes {calls : List (Instant × Call)} {w : Write} (h : w ∈ writes calls) :
    .zero < w.ttl ∧ (w.time, .set w.name w.result w.ttl) ∈ calls := by
  obtain ⟨⟨now, c⟩, hc, hwrite⟩ := List.mem_filterMap.mp h
  cases c with
  | set name r ttl =>
      simp only [Call.write?] at hwrite
      split at hwrite
      · rename_i httl
        cases hwrite
        exact ⟨httl, hc⟩
      · cases hwrite
  | get | purge => cases hwrite

def latest? (key : CacheKey) (calls : List (Instant × Call)) : Option Write :=
  ((writes calls).filter fun w => w.key = key).getLast?

theorem latest?_append_of_none {now : Instant} {c : Call} (h : c.write? now = none)
    (key : CacheKey) (calls : List (Instant × Call)) :
    latest? key (calls ++ [(now, c)]) = latest? key calls := by
  simp [latest?, writes, h]

theorem latest?_append_write {now : Instant} {c : Call} {w : Write} (h : c.write? now = some w)
    (key : CacheKey) (calls : List (Instant × Call)) :
    latest? key (calls ++ [(now, c)]) = if w.key = key then some w else latest? key calls := by
  by_cases hkey : w.key = key <;> simp [latest?, writes, h, hkey]

theorem mem_writes_of_latest? {key : CacheKey} {calls : List (Instant × Call)} {w : Write}
    (h : latest? key calls = some w) : w ∈ writes calls ∧ w.key = key := by
  have hmem := List.mem_filter.mp (List.mem_of_getLast? h)
  exact ⟨hmem.1, of_decide_eq_true hmem.2⟩

def found? (key : CacheKey) (now : Instant) (calls : List (Instant × Call)) : Option Write :=
  (latest? key calls).filter (·.isLive now)

inductive Expected : List (Instant × Call) → List (Instant × Call) → List Answer → Prop where
  | nil (before : List (Instant × Call)) : Expected before [] []
  | get {before calls : List (Instant × Call)} {answers : List Answer} {now : Instant}
      {name : String} {checkType : CheckType} {tld : Option String}
      (rest : Expected (before ++ [(now, .get name checkType tld)]) calls answers) :
      Expected before ((now, .get name checkType tld) :: calls)
        (.found ((found? (spelledKey name checkType tld) now before).map (·.shown now)) :: answers)
  | set {before calls : List (Instant × Call)} {answers : List Answer} {now : Instant}
      {name : String} {r : CheckResult} {ttl : Duration}
      (rest : Expected (before ++ [(now, .set name r ttl)]) calls answers) :
      Expected before ((now, .set name r ttl) :: calls) (.done :: answers)
  | purge {before calls : List (Instant × Call)} {answers : List Answer} {now : Instant} {n : Nat}
      (rest : Expected (before ++ [(now, .purge)]) calls answers) :
      Expected before ((now, .purge) :: calls) (.purged n :: answers)

end History

section Memory

def Call.Storable : Call → Prop
  | .set _ r _ => Json.isStorable Json.maxDepth (.object r.extraData) = true
  | _ => True

theorem storable_of_mem_writes {calls : List (Instant × Call)} (h : ∀ c ∈ calls, c.2.Storable)
    {w : Write} (hw : w ∈ writes calls) :
    Json.isStorable Json.maxDepth (.object w.result.extraData) = true :=
  h _ (of_mem_writes hw).2

/-- From some calls on, the live rows are the last answers kept, as far as they are live. -/
def Holds (calls : List (Instant × Call)) (t : Tables) : Prop :=
  ∀ now, (∀ c ∈ calls, c.1 ≤ now) → ∀ key,
    t.live? key now = (found? key now calls).map Write.entry

variable {before calls : List (Instant × Call)} {t : Tables} {now : Instant}

theorem holds_empty : Holds [] .empty :=
  fun _ _ _ => rfl

theorem Holds.of_no_write (h : Holds before t) {c : Call} (hc : c.write? now = none) :
    Holds (before ++ [(now, c)]) t := by
  intro later hlater key
  rw [found?, latest?_append_of_none hc]
  exact h later (fun c hc => hlater c (List.mem_append_left _ hc)) key

theorem Holds.of_write (h : Holds before t) {c : Call} {w : Write} (hc : c.write? now = some w) :
    Holds (before ++ [(now, c)]) (t.putEntry w.entry) := by
  intro later hlater key
  rw [found?, latest?_append_write hc, Tables.live?, Tables.putEntry, Table.get?_insert,
    w.key_entry]
  by_cases hkey : w.key = key
  · rw [if_pos hkey, if_pos hkey.symm, Option.filter_some, Option.filter_some, w.isLive_entry]
    split <;> rfl
  · rw [if_neg hkey, if_neg fun heq => hkey heq.symm]
    exact h later (fun c hc => hlater c (List.mem_append_left _ hc)) key

theorem Holds.get?_purge (h : Holds before t) (hnow : ∀ c ∈ before, c.1 ≤ now) (key : CacheKey) :
    (t.purge now).entries.get? key = (found? key now before).map Write.entry := by
  rw [← h now hnow key, Tables.purge, Table.get?_filter]
  rfl

theorem isLive_mono {e : Entry} {later : Instant} (hle : now ≤ later)
    (h : e.isLive later = true) : e.isLive now = true := by
  have hlt : later < e.expiresAt := of_decide_eq_true h
  exact decide_eq_true (Instant.lt_of_le_of_lt hle hlt)

theorem live?_purge {later : Instant} (hle : now ≤ later) (t : Tables) (key : CacheKey) :
    (t.purge now).live? key later = t.live? key later := by
  rw [Tables.live?, Tables.live?, Tables.purge, Table.get?_filter]
  cases t.entries.get? key with
  | none => rfl
  | some e =>
      cases hlater : e.isLive later with
      | true => simp [Option.filter, hlater, isLive_mono hle hlater]
      | false => cases hnow : e.isLive now <;> simp [Option.filter, hlater, hnow]

theorem Holds.purge (h : Holds before t) :
    Holds (before ++ [(now, .purge)]) (t.purge now) := by
  intro later hlater key
  rw [live?_purge (hlater _ (List.mem_append_right _ List.mem_cons_self))]
  have hwrite : Call.purge.write? now = none := rfl
  exact h.of_no_write hwrite later hlater key

theorem Holds.get (h : Holds before t) (hnow : ∀ c ∈ before, c.1 ≤ now)
    (hstorable : ∀ c ∈ before, c.2.Storable) (name : String) (checkType : CheckType)
    (tld : Option String) :
    (t.live? (key name checkType tld) now).map (toResult · now) =
      (found? (spelledKey name checkType tld) now before).map (·.shown now) := by
  rw [key_eq_spelledKey, h now hnow, Option.map_map]
  refine Option.map_congr fun w hw => ?_
  have hlatest : latest? (spelledKey name checkType tld) before = some w :=
    (Option.filter_eq_some_iff.mp hw).1
  exact Write.toResult_entry
    (storable_of_mem_writes hstorable (mem_writes_of_latest? hlatest).1) now

theorem Holds.perform (h : Holds before t) (hnow : ∀ c ∈ before, c.1 ≤ now)
    (hstorable : ∀ c ∈ before, c.2.Storable) (c : Call) :
    ∃ answer t', (c.perform now : Effect Tables Answer).run t = (.ok answer, t') ∧
      Holds (before ++ [(now, c)]) t' ∧
      ∀ {calls answers}, Expected (before ++ [(now, c)]) calls answers →
        Expected before ((now, c) :: calls) (answer :: answers) := by
  cases c with
  | get name checkType tld =>
      refine ⟨_, t, rfl, h.of_no_write rfl, fun hrest => ?_⟩
      rw [h.get hnow hstorable name checkType tld]
      exact .get hrest
  | set name r ttl =>
      by_cases httl : ttl ≤ .zero
      · have hset : (Cache.set name r ttl now : Effect Tables Unit) = pure () := if_pos httl
        refine ⟨.done, t, ?_, h.of_no_write (write?_set_eq_none httl), .set⟩
        rw [Call.perform, hset]
        rfl
      · have hset : (Cache.set name r ttl now : Effect Tables Unit) =
            Store.putEntry (toEntry name r ttl now) := if_neg httl
        refine ⟨.done, t.putEntry (toEntry name r ttl now), ?_,
          h.of_write (write?_set_eq_some httl), .set⟩
        rw [Call.perform, hset]
        rfl
  | purge => exact ⟨_, t.purge now, rfl, h.purge, .purge⟩

theorem Holds.performAll (h : Holds before t)
    (hclock : ((before ++ calls).map Prod.fst).Pairwise (· ≤ ·))
    (hstorable : ∀ c ∈ before ++ calls, c.2.Storable) :
    ∃ answers t', (Cache.performAll calls : Effect Tables _).run t = (.ok answers, t') ∧
      Expected before calls answers ∧ Holds (before ++ calls) t' := by
  induction calls generalizing before t with
  | nil => exact ⟨[], t, rfl, .nil before, by rwa [List.append_nil]⟩
  | cons c calls ih =>
      obtain ⟨now, c⟩ := c
      have hnow : ∀ c ∈ before, c.1 ≤ now := by
        rw [List.map_append, List.pairwise_append] at hclock
        exact fun c hc => hclock.2.2 c.1 (List.mem_map_of_mem hc) now (by simp)
      obtain ⟨answer, t₁, hrun, hnext, hexpected⟩ :=
        h.perform hnow (fun c hc => hstorable c (List.mem_append_left _ hc)) c
      have hsplit : before ++ (now, c) :: calls = before ++ [(now, c)] ++ calls := by simp
      rw [hsplit] at hclock hstorable ⊢
      obtain ⟨answers, t', hrest, hanswers, hend⟩ := ih hnext hclock hstorable
      refine ⟨answer :: answers, t', ?_, hexpected hanswers, hend⟩
      rw [Cache.performAll, Effect.run_bind, hrun]
      simp only
      rw [Effect.run_bind, hrest]
      rfl

end Memory

section Tables

variable {e : Entry} {k : CacheKey}

theorem run_get (name : String) (checkType : CheckType) (tld : Option String) (now : Instant)
    (t : Tables) : (Cache.get name checkType tld now : Effect Tables _).run t =
      (.ok ((t.live? (key name checkType tld) now).map (toResult · now)), t) :=
  rfl

theorem live?_putEntry_self (t : Tables) {now : Instant} (hlive : e.isLive now = true) :
    (t.putEntry e).live? e.key now = some e := by
  rw [Tables.live?, Tables.putEntry, Table.get?_insert, if_pos rfl, Option.filter_some,
    if_pos hlive]

theorem live?_putEntry_of_ne (h : k ≠ e.key) (t : Tables) (now : Instant) :
    (t.putEntry e).live? k now = t.live? k now := by
  rw [Tables.live?, Tables.putEntry, Table.get?_insert, if_neg h, Tables.live?]

theorem isLive_toEntry {name : String} {r : CheckResult} {ttl : Duration} {now later : Instant}
    (h : later < now.addOrMax ttl) : (toEntry name r ttl now).isLive later = true :=
  decide_eq_true h

end Tables

section Kept

variable {σ : Type} [Store σ] {v : StoreView σ}

theorem follows_get (hv : v.Reliable) (name : String) (checkType : CheckType)
    (tld : Option String) (now : Instant) :
    v.Follows (Cache.get name checkType tld now) (Cache.get name checkType tld now) :=
  StoreView.follows_bind (hv.live? _ now) fun _ => v.follows_pure _

theorem follows_set (hv : v.Reliable) (name : String) (r : CheckResult) (ttl : Duration)
    (now : Instant) : v.Follows (Cache.set name r ttl now) (Cache.set name r ttl now) := by
  rw [Cache.set, Cache.set]
  split
  · exact v.follows_pure _
  · exact hv.putEntry _

theorem follows_perform (hv : v.Reliable) (now : Instant) (c : Call) :
    v.Follows (c.perform now) (c.perform now) := by
  cases c with
  | get name checkType tld =>
      exact StoreView.follows_bind (follows_get hv name checkType tld now) fun _ =>
        v.follows_pure _
  | set name r ttl =>
      exact StoreView.follows_bind (follows_set hv name r ttl now) fun _ => v.follows_pure _
  | purge => exact StoreView.follows_bind (hv.purge now) fun _ => v.follows_pure _

theorem follows_performAll (hv : v.Reliable) (calls : List (Instant × Call)) :
    v.Follows (performAll calls) (performAll calls) := by
  induction calls with
  | nil => exact v.follows_pure _
  | cons c calls ih =>
      exact StoreView.follows_bind (follows_perform hv c.1 c.2) fun _ =>
        StoreView.follows_bind ih fun _ => v.follows_pure _

/-- Looking up in the cache finds the last answer kept under a key with a time to live, until
that time has passed, and a purge leaves just those. -/
theorem expiring_last_write_wins (hv : v.Reliable) {s : σ} (hs : v.Sound s)
    (hempty : v.tables s = .empty) {calls : List (Instant × Call)}
    (hclock : (calls.map Prod.fst).Pairwise (· ≤ ·)) (hstorable : ∀ c ∈ calls, c.2.Storable) :
    ∃ answers s', (performAll calls).run s = (.ok answers, s') ∧ Expected [] calls answers ∧
      (∀ now, (∀ c ∈ calls, c.1 ≤ now) → ∃ n s'', (purge now).run s' = (.ok n, s'') ∧
        ∀ key, (v.tables s'').entries.get? key = (found? key now calls).map Write.entry) ∧
      ∀ w ∈ writes calls, w.time.inLeapSecond = false →
        w.expiresAt.ticks = min (w.time.ticks + w.ttl.nanos) Instant.max.ticks := by
  obtain ⟨s', hrun, hs', htables⟩ := follows_performAll hv calls s hs
  obtain ⟨answers, t', hmemory, hexpected, hholds⟩ := holds_empty.performAll hclock hstorable
  rw [hempty, hmemory] at hrun htables
  rw [List.nil_append] at hholds
  refine ⟨answers, s', hrun, hexpected, fun now hnow => ?_, fun w hw htime => ?_⟩
  · obtain ⟨s'', hpurge, -, htables'⟩ := hv.purge now s' hs'
    refine ⟨_, s'', hpurge, fun key => ?_⟩
    rw [htables', htables]
    exact hholds.get?_purge hnow key
  · have httl : 0 < w.ttl.nanos := (of_mem_writes hw).1
    exact (Instant.ticks_addOrMax (Instant.inLeapSecond_eq_false_iff.mp htime) (by omega)).1

end Kept

/-- A domain is kept under two spellings of its top-level domain and asked for under a third. -/
def threeSpellings : List (Instant × Call) :=
  [(.epoch, .set "acme" ((CheckResult.new "acme" .domain .taken).withTld " .COM ") (.ofSeconds 60)),
    (Instant.epoch.addOrMax (.ofSeconds 1), .set "acme"
      (((CheckResult.new "acme" .domain .available).withTld "com").withExtra "price" (.int 12))
      (.ofSeconds 30)),
    (Instant.epoch.addOrMax (.ofSeconds 2), .get "acme" .domain (some ".Com")),
    (Instant.epoch.addOrMax (.ofSeconds 31), .purge),
    (Instant.epoch.addOrMax (.ofSeconds 32), .get "acme" .domain (some "com"))]

theorem expiring_last_write_wins_threeSpellings :
    ∃ answers t, (performAll threeSpellings : Effect Tables _).run .empty = (.ok answers, t) ∧
      Expected [] threeSpellings answers := by
  have hstorable : ∀ c ∈ threeSpellings, c.2.Storable := by
    intro c hc
    simp only [threeSpellings, List.mem_cons, List.not_mem_nil, or_false] at hc
    rcases hc with rfl | rfl | rfl | rfl | rfl
    · rfl
    · rfl
    · trivial
    · trivial
    · trivial
  have hclock : (threeSpellings.map Prod.fst).Pairwise (· ≤ ·) := by decide
  obtain ⟨answers, t, hrun, hexpected, -⟩ := expiring_last_write_wins StoreView.reliable_memory
    (s := Tables.empty) trivial rfl hclock hstorable
  exact ⟨answers, t, hrun, hexpected⟩

end NameScout.Cache
