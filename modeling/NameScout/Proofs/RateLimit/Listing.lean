import Mathlib.Data.List.Basic
import NameScout.Proofs.RateLimit.Run
import NameScout.Proofs.Store.Answers
import NameScout.Proofs.Store.Writable

namespace NameScout

namespace Tables

variable {t : Tables} {e k start : String} {row : Row}

def Aligned (t : Tables) : Prop :=
  ∀ e row, t.row? e = some row → row.endpoint = e

theorem aligned_empty : empty.Aligned := by
  intro e row h
  rw [show empty.row? e = none from Table.get?_empty e] at h
  cases h

theorem mem_rows_iff : (e, row) ∈ t.rows.toList ↔ t.row? e = some row :=
  (Table.lookup_eq_some_iff t.rows.keys_nodup).symm

theorem mem_values_iff : row ∈ t.rows.values ↔ ∃ e, t.row? e = some row := by
  rw [Table.values, List.mem_map]
  constructor
  · rintro ⟨⟨e, row⟩, hmem, rfl⟩
    exact ⟨e, mem_rows_iff.mp hmem⟩
  · rintro ⟨e, he⟩
    exact ⟨(e, row), mem_rows_iff.mpr he, rfl⟩

theorem perm_listRows (t : Tables) (start : String) :
    (t.listRows start).Perm (t.rows.values.filter fun row => Text.startsWith row.endpoint start) :=
  List.mergeSort_perm _ _

theorem perm_listRows_all (t : Tables) : (t.listRows "").Perm t.rows.values := by
  have hall : (t.rows.values.filter fun row => Text.startsWith row.endpoint "") = t.rows.values :=
    List.filter_eq_self.mpr fun row _ => Limiter.Call.startsWith_nothing row.endpoint
  exact hall ▸ perm_listRows t ""

theorem mem_listRows_iff : row ∈ t.listRows start ↔
    Text.startsWith row.endpoint start = true ∧ ∃ e, t.row? e = some row := by
  rw [(perm_listRows t start).mem_iff, List.mem_filter, mem_values_iff, and_comm]

theorem perm_values_of_row? (h : t.row? e = some row) :
    t.rows.values.Perm ((t.eraseRow e).rows.values ++ [row]) := by
  have hsame : ∀ k, t.row? k = ((t.eraseRow e).putRow e row).row? k := by
    intro k
    rw [row?_putRow, row?_eraseRow]
    split
    · rename_i hk
      rw [hk, h]
    · rfl
  have hfresh : e ∉ (t.eraseRow e).rows.toList.map Prod.fst := by
    intro hmem
    obtain ⟨⟨k, r⟩, hkr, rfl⟩ := List.mem_map.mp hmem
    have hfound := mem_rows_iff.mp hkr
    rw [row?_eraseRow, if_pos rfl] at hfound
    cases hfound
  have hput : ((t.eraseRow e).putRow e row).rows.toList = (t.eraseRow e).rows.toList ++ [(e, row)] :=
    Table.put_of_not_mem hfresh
  have hperm := Table.perm_of_get?_eq (t := t.rows) (u := ((t.eraseRow e).putRow e row).rows) hsame
  rw [hput] at hperm
  have hvalues := hperm.map Prod.snd
  rwa [List.map_append] at hvalues

section Aligned

variable (h : t.Aligned)

include h

theorem Aligned.endpoint_eq {x : String × Row} (hx : x ∈ t.rows.toList) : x.2.endpoint = x.1 :=
  h x.1 x.2 (mem_rows_iff.mp hx)

theorem Aligned.eq_of_endpoint_eq {r r' : Row} (hr : r ∈ t.rows.values) (hr' : r' ∈ t.rows.values)
    (heq : r.endpoint = r'.endpoint) : r = r' := by
  obtain ⟨e, he⟩ := mem_values_iff.mp hr
  obtain ⟨e', he'⟩ := mem_values_iff.mp hr'
  rw [h e r he, h e' r' he'] at heq
  rw [heq, he'] at he
  exact (Option.some.inj he).symm

theorem Aligned.values_filter (keep : String → Bool) :
    (t.rows.filter fun e _ => keep e).values =
      t.rows.values.filter fun row => keep row.endpoint := by
  rw [Table.values, Table.filter, Table.values, List.filter_map]
  congr 1
  exact List.filter_congr fun x hx => congrArg keep (h.endpoint_eq hx).symm

theorem Aligned.listRows_filter (keep : String → Bool) (start : String) :
    listRows { t with rows := t.rows.filter fun e _ => keep e } start =
      (t.listRows start).filter fun row => keep row.endpoint := by
  have hperm : (listRows { t with rows := t.rows.filter fun e _ => keep e } start).Perm
      ((t.listRows start).filter fun row => keep row.endpoint) := by
    refine (perm_listRows _ start).trans ?_
    rw [h.values_filter keep, List.filter_filter]
    refine .trans ?_ ((perm_listRows t start).filter _).symm
    rw [List.filter_filter]
    simp only [Bool.and_comm, List.Perm.refl]
  have hvalue : ∀ r ∈ (t.listRows start).filter fun row => keep row.endpoint,
      r ∈ t.rows.values := fun r hr =>
    mem_values_iff.mpr (mem_listRows_iff.mp (List.mem_filter.mp hr).1).2
  have hantisymm (a b : Row)
      (ha : a ∈ listRows { t with rows := t.rows.filter fun e _ => keep e } start)
      (hb : b ∈ (t.listRows start).filter fun row => keep row.endpoint)
      (hab : a.endpoint ≤ b.endpoint) (hba : b.endpoint ≤ a.endpoint) : a = b :=
    h.eq_of_endpoint_eq (hvalue a (hperm.mem_iff.mp ha)) (hvalue b hb)
      (String.le_antisymm hab hba)
  exact hperm.eq_of_pairwise hantisymm (List.pairwise_map.mp (sorted_sortRows _))
    ((List.pairwise_map.mp (sorted_sortRows _)).filter _)

theorem Aligned.listRows_eraseRows (start q : String) : (t.eraseRows start).listRows q =
    (t.listRows q).filter fun row => !Text.startsWith row.endpoint start :=
  h.listRows_filter (fun e => !Text.startsWith e start) q

theorem Aligned.listRows_eraseRow (e q : String) : (t.eraseRow e).listRows q =
    (t.listRows q).filter fun row => row.endpoint ≠ e :=
  h.listRows_filter (fun k => k ≠ e) q

theorem Aligned.length_listRows (start : String) :
    (t.listRows start).length = t.rows.size - (t.eraseRows start).rows.size := by
  have hleft : (t.eraseRows start).rows.size =
      (t.rows.values.filter fun row => !Text.startsWith row.endpoint start).length := by
    rw [← h.values_filter fun e => !Text.startsWith e start, Table.values, List.length_map]
    rfl
  have hsize : t.rows.size = t.rows.values.length := by
    rw [Table.values, List.length_map]
    rfl
  have hsum := t.rows.values.length_eq_length_filter_add fun row => Text.startsWith row.endpoint start
  rw [(perm_listRows t start).length_eq, hleft, hsize]
  omega

theorem Aligned.mem_endpoints_iff : e ∈ (t.listRows "").map Row.endpoint ↔
    (t.row? e).isSome = true := by
  rw [((perm_listRows_all t).map _).mem_iff, Option.isSome_iff_exists, List.mem_map]
  constructor
  · rintro ⟨row, hrow, rfl⟩
    obtain ⟨e, he⟩ := mem_values_iff.mp hrow
    exact ⟨row, by rw [h e row he, he]⟩
  · rintro ⟨row, hrow⟩
    exact ⟨row, mem_values_iff.mpr ⟨e, hrow⟩, h e row hrow⟩

theorem Aligned.filter (keep : String → Row → Bool) :
    Aligned { t with rows := t.rows.filter keep } := by
  intro e row hrow
  have hfilter : (t.rows.filter keep).get? e = some row := hrow
  rw [Table.get?_filter, Option.filter_eq_some_iff] at hfilter
  exact h e row hfilter.1

theorem Aligned.putRow (hrow : row.endpoint = e) : (t.putRow e row).Aligned := by
  intro k r hk
  rw [row?_putRow] at hk
  split at hk
  · rename_i heq
    cases hk
    rw [hrow, heq]
  · exact h k r hk

end Aligned

/-- If removing what is kept under any key takes exactly the rows out of the list that say that
they belong there, then every row is kept where it says. -/
theorem aligned_of_listRows_eraseRow (h : ∀ e, (t.eraseRow e).listRows "" =
    (t.listRows "").filter fun row => row.endpoint ≠ e) : t.Aligned := by
  -- A row under another key is removed with that key, but stays in the filtered list.
  refine fun e row hrow => Decidable.byContradiction fun hne => ?_
  have hbefore : (t.listRows "").count row = ((t.eraseRow e).listRows "").count row + 1 := by
    rw [(perm_listRows_all t).count_eq, (perm_listRows_all (t.eraseRow e)).count_eq,
      (perm_values_of_row? hrow).count_eq, List.count_append, List.count_singleton_self]
  have hafter := congrArg (List.count row) (h e)
  rw [List.count_filter (by simpa using hne)] at hafter
  omega

end Tables

namespace Request

def performAll {σ : Type} [Store σ] : List Request → Effect σ (List Reply)
  | [] => return []
  | r :: requests => do
      let reply ← r.perform
      let replies ← performAll requests
      return reply :: replies

def PutsOwn : Request → Prop
  | putRow e row => row.endpoint = e
  | _ => True

theorem aligned_applied {r : Request} (hr : r.PutsOwn) {t : Tables} (h : t.Aligned) :
    (r.applied t).Aligned := by
  cases r with
  | putRow e row => exact h.putRow hr
  | eraseRow e => exact h.filter _
  | eraseRows start => exact h.filter _
  | row? | listRows | live? | putEntry | purge | flush => exact h

theorem aligned_foldl {requests : List Request} (hr : ∀ r ∈ requests, r.PutsOwn) {t : Tables}
    (h : t.Aligned) : (requests.foldl (fun t r => r.applied t) t).Aligned := by
  induction requests generalizing t with
  | nil => exact h
  | cons r requests ih =>
      exact ih (fun r' hr' => hr r' (List.mem_cons_of_mem _ hr'))
        (aligned_applied (hr r List.mem_cons_self) h)

end Request

namespace StoreView.Reliable

variable {σ : Type} [Store σ] {v : StoreView σ} (hv : v.Reliable)

include hv

theorem perform (r : Request) : v.Follows r.perform r.perform := by
  have hpure : ∀ {α : Type} (f : α → Reply) (a : α), v.Follows (pure (f a)) (pure (f a)) :=
    fun f a => v.follows_pure (f a)
  cases r with
  | row? e => exact follows_bind (hv.row? e) (hpure .row)
  | putRow e row => exact follows_bind (hv.putRow e row) fun _ => v.follows_pure Reply.done
  | listRows start => exact follows_bind (hv.listRows start) (hpure .rows)
  | eraseRow e => exact follows_bind (hv.eraseRow e) (hpure .erased)
  | eraseRows start => exact follows_bind (hv.eraseRows start) (hpure .count)
  | live? key now => exact follows_bind (hv.live? key now) (hpure .entry)
  | putEntry e => exact follows_bind (hv.putEntry e) fun _ => v.follows_pure Reply.done
  | purge now => exact follows_bind (hv.purge now) (hpure .count)
  | flush => exact follows_bind hv.flush fun _ => v.follows_pure Reply.done

theorem run_perform (r : Request) {s : σ} (hs : v.Sound s) : ∃ reply s',
    (r.perform : Effect σ Reply).run s = (.ok reply, s') ∧ v.Sound s' ∧
      v.tables s' = r.applied (v.tables s) := by
  obtain ⟨s', hrun, hs', ht⟩ := hv.perform r s hs
  obtain ⟨reply, -, hreply, -⟩ := Request.alike (Tables.Agrees.refl (v.tables s)) r
  rw [hreply] at hrun
  exact ⟨reply, s', hrun, hs', ht⟩

theorem run_performAll (requests : List Request) {s : σ} (hs : v.Sound s) : ∃ replies s',
    (Request.performAll requests).run s = (.ok replies, s') ∧ v.Sound s' ∧
      v.tables s' = requests.foldl (fun t r => r.applied t) (v.tables s) := by
  induction requests generalizing s with
  | nil => exact ⟨[], s, rfl, hs, rfl⟩
  | cons r requests ih =>
      obtain ⟨reply, s₁, hr, hs₁, ht₁⟩ := hv.run_perform r hs
      obtain ⟨replies, s', hrest, hs', ht'⟩ := ih hs₁
      refine ⟨reply :: replies, s', ?_, hs', ?_⟩
      · rw [Request.performAll, Effect.run_bind, hr]
        simp only
        rw [Effect.run_bind, hrest]
        rfl
      · rw [ht', ht₁, List.foldl_cons]

end StoreView.Reliable

namespace RowAdmin

section Coherent

variable {σ : Type} [Store σ] {v : StoreView σ} {s : σ}

def listed (s : σ) (start : String) : Except Failure (List Row) :=
  ((list start).run s).1

/-- What listing, counting and deleting rows say of a state agrees. -/
structure Coherent (s : σ) : Prop where
  counted : ∀ start, ∃ rows, listed s start = .ok rows ∧
    ((count start).run s).1 = .ok rows.length ∧ ((resetStart start).run s).1 = .ok rows.length
  cleared : ∀ start, listed ((resetStart start).run s).2 start = .ok [] ∧
    ∀ q, listed ((resetStart start).run s).2 q =
      (listed s q).map (List.filter fun row => !Text.startsWith row.endpoint start)
  removed : ∀ e, ∃ rows, listed s "" = .ok rows ∧
    ((reset e).run s).1 = .ok (decide (e ∈ rows.map Row.endpoint)) ∧
    ∀ q, listed ((reset e).run s).2 q = (listed s q).map (List.filter fun row => row.endpoint ≠ e)

variable (hv : v.Reliable) (hs : v.Sound s)

include hv hs

theorem listed_eq (start : String) : listed s start = .ok ((v.tables s).listRows start) := by
  obtain ⟨s', hrun, -, -⟩ := hv.listRows start s hs
  exact congrArg Prod.fst hrun

theorem counted_eq (start : String) :
    ((count start).run s).1 = .ok ((v.tables s).listRows start).length := by
  have hcount : v.Follows (count start) (count start) :=
    StoreView.follows_bind (hv.listRows start) fun rows => v.follows_pure rows.length
  obtain ⟨s', hrun, -, -⟩ := hcount s hs
  exact congrArg Prod.fst hrun

theorem run_reset (e : String) : ∃ s', (reset e).run s = (.ok ((v.tables s).row? e).isSome, s') ∧
    v.Sound s' ∧ v.tables s' = (v.tables s).eraseRow e :=
  hv.eraseRow e s hs

theorem run_resetStart (start : String) : ∃ s', (resetStart start).run s =
    (.ok ((v.tables s).rows.size - ((v.tables s).eraseRows start).rows.size), s') ∧
    v.Sound s' ∧ v.tables s' = (v.tables s).eraseRows start :=
  hv.eraseRows start s hs

theorem coherent_iff_aligned : Coherent s ↔ (v.tables s).Aligned := by
  constructor
  · refine fun h => Tables.aligned_of_listRows_eraseRow fun e => ?_
    obtain ⟨s', hreset, hs', ht'⟩ := run_reset hv hs e
    obtain ⟨rows, -, -, hafter⟩ := h.removed e
    have hafter := hafter ""
    rw [hreset, listed_eq hv hs', listed_eq hv hs, ht'] at hafter
    exact Except.ok.inj hafter
  · refine fun h => ⟨fun start => ?_, fun start => ?_, fun e => ?_⟩
    · obtain ⟨s', hreset, -, -⟩ := run_resetStart hv hs start
      refine ⟨_, listed_eq hv hs start, counted_eq hv hs start, ?_⟩
      rw [hreset, h.length_listRows]
    · obtain ⟨s', hreset, hs', ht'⟩ := run_resetStart hv hs start
      rw [hreset]
      refine ⟨?_, fun q => ?_⟩
      · rw [listed_eq hv hs', ht', h.listRows_eraseRows, List.filter_eq_nil_iff.mpr]
        intro row hrow
        simp [(Tables.mem_listRows_iff.mp hrow).1]
      · rw [listed_eq hv hs', listed_eq hv hs, ht', h.listRows_eraseRows]
        rfl
    · obtain ⟨s', hreset, hs', ht'⟩ := run_reset hv hs e
      refine ⟨_, listed_eq hv hs "", ?_, fun q => ?_⟩
      · rw [hreset]
        exact congrArg Except.ok (Bool.eq_iff_iff.mpr (by rw [decide_eq_true_iff, h.mem_endpoints_iff]))
      · rw [hreset, listed_eq hv hs', listed_eq hv hs, ht', h.listRows_eraseRow]
        rfl

/-- Whatever a store was asked to do, listing, counting and deleting rows agree from then on if and
only if every row is kept under its own endpoint; and they do agree if that was so at the start and
no row was put under another one. -/
theorem coherent_after_iff (requests : List Request) : ∃ replies s',
    (Request.performAll requests).run s = (.ok replies, s') ∧
    (Coherent s' ↔ (v.tables s').Aligned) ∧
    ((v.tables s).Aligned → (∀ r ∈ requests, r.PutsOwn) → Coherent s') := by
  obtain ⟨replies, s', hrun, hs', ht'⟩ := hv.run_performAll requests hs
  have hiff := coherent_iff_aligned hv hs'
  refine ⟨replies, s', hrun, hiff, fun haligned hputs => hiff.mpr ?_⟩
  rw [ht']
  exact Request.aligned_foldl hputs haligned

end Coherent

def opened : Mounted :=
  ⟨.empty, { path := "state.json", tables := .empty, dirty := false }⟩

theorem coherent_after_iff_opened : ∃ replies m,
    (Request.performAll [.putRow "pypi.org" (.new "pypi.org" .epoch),
      .putRow "crates.io" (.new "crates.io" .epoch), .eraseRows "py"] :
        Effect Mounted _).run opened = (.ok replies, m) ∧ Coherent m := by
  have hclear : FileStore.Clear opened.disk opened.store.path :=
    ⟨⟨["state.tmp"], rfl, nofun, rfl⟩, ⟨["state.json"], rfl, nofun, rfl⟩⟩
  obtain ⟨replies, m, hrun, -, hcoherent⟩ := coherent_after_iff (s := opened)
    Mounted.reliable_unhindered hclear [.putRow "pypi.org" (.new "pypi.org" .epoch),
      .putRow "crates.io" (.new "crates.io" .epoch), .eraseRows "py"]
  refine ⟨replies, m, hrun, hcoherent Tables.aligned_empty fun r hr => ?_⟩
  simp only [List.mem_cons, List.not_mem_nil, or_false] at hr
  rcases hr with rfl | rfl | rfl
  · exact rfl
  · exact rfl
  · trivial

/-- A row under the key of another endpoint is listed and counted by what stands in it, but deleted
by its key. -/
theorem count_ne_resetStart_otherKey :
    ∃ t, (Request.performAll [.putRow "pypi.org" (.new "crates.io" .epoch)] :
        Effect Tables _).run .empty = (.ok [.done], t) ∧
      listed t "" = .ok [.new "crates.io" .epoch] ∧ ((count "pypi").run t).1 = .ok 0 ∧
      ((resetStart "pypi").run t).1 = .ok 1 ∧ ((reset "crates.io").run t).1 = .ok false :=
  ⟨_, rfl, by decide +kernel, by decide +kernel, by decide +kernel, by decide +kernel⟩

end RowAdmin

end NameScout
