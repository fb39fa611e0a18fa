import NameScout.Store.Tables

namespace NameScout

namespace Table

variable {κ α : Type} [DecidableEq κ]

theorem put_of_not_mem {k : κ} {v : α} {l : List (κ × α)} (h : k ∉ l.map Prod.fst) :
    put k v l = l ++ [(k, v)] := by
  induction l with
  | nil => rfl
  | cons e l ih =>
      obtain ⟨k', v'⟩ := e
      rw [List.map_cons, List.mem_cons, not_or] at h
      rw [put, if_neg fun hk => h.1 hk.symm, ih h.2]
      rfl

theorem toList_foldl_insert {l : List (κ × α)} {t : Table κ α}
    (h : ((t.toList ++ l).map Prod.fst).Nodup) :
    (l.foldl (fun t e => t.insert e.1 e.2) t).toList = t.toList ++ l := by
  induction l generalizing t with
  | nil => simp
  | cons e l ih =>
      have hfresh : e.1 ∉ t.toList.map Prod.fst := by
        rw [List.map_append, List.nodup_append] at h
        exact fun hmem => h.2.2 _ hmem _ (by simp) rfl
      have hinsert : (t.insert e.1 e.2).toList = t.toList ++ [e] := put_of_not_mem hfresh
      rw [List.foldl_cons, ih (by rwa [hinsert, List.append_assoc]), hinsert, List.append_assoc]
      rfl

theorem toList_ofList {l : List (κ × α)} (h : (l.map Prod.fst).Nodup) : (ofList l).toList = l :=
  toList_foldl_insert (t := empty) h

theorem lookup_eq_some_iff {l : List (κ × α)} (h : (l.map Prod.fst).Nodup) {k : κ} {v : α} :
    l.lookup k = some v ↔ (k, v) ∈ l := by
  induction l with
  | nil => simp
  | cons e l ih =>
      obtain ⟨k', v'⟩ := e
      rw [List.map_cons, List.nodup_cons] at h
      rw [lookup_cons_if, List.mem_cons, Prod.mk.injEq, ← ih h.2]
      by_cases hk : k = k'
      · subst hk
        have hnone : l.lookup k ≠ some v := fun hv =>
          h.1 (List.mem_map.mpr ⟨(k, v), (ih h.2).mp hv, rfl⟩)
        simp [hnone, eq_comm]
      · simp [hk]

theorem lookup_perm {l m : List (κ × α)} (h : (l.map Prod.fst).Nodup) (hp : l.Perm m) (k : κ) :
    l.lookup k = m.lookup k := by
  have hm : (m.map Prod.fst).Nodup := (hp.map Prod.fst).nodup_iff.mp h
  apply Option.ext
  intro v
  rw [lookup_eq_some_iff h, lookup_eq_some_iff hm, hp.mem_iff]

omit [DecidableEq κ] in
theorem nodup_toList (t : Table κ α) : t.toList.Nodup :=
  (List.pairwise_map.mp t.keys_nodup).imp fun hne heq => hne (congrArg Prod.fst heq)

theorem perm_of_get?_eq {t u : Table κ α} (h : ∀ k, t.get? k = u.get? k) :
    t.toList.Perm u.toList := by
  refine (List.perm_ext_iff_of_nodup t.nodup_toList u.nodup_toList).mpr ?_
  rintro ⟨k, v⟩
  rw [← lookup_eq_some_iff t.keys_nodup, ← lookup_eq_some_iff u.keys_nodup]
  exact iff_of_eq (congrArg (· = some v) (h k))

theorem get?_filter (t : Table κ α) (p : κ → α → Bool) (k : κ) :
    (t.filter p).get? k = (t.get? k).filter (p k) := by
  apply Option.ext
  intro v
  rw [get?, lookup_eq_some_iff (t.filter p).keys_nodup, Option.filter_eq_some_iff, get?,
    lookup_eq_some_iff t.keys_nodup]
  exact List.mem_filter

theorem mem_put {k : κ} {v : α} {l : List (κ × α)} {x : κ × α}
    (h : x ∈ put k v l) : x = (k, v) ∨ x ∈ l := by
  induction l with
  | nil => exact .inl (List.mem_singleton.mp h)
  | cons e l ih =>
      obtain ⟨k', v'⟩ := e
      rw [put] at h
      split at h
      · rcases List.mem_cons.mp h with h | h
        · exact .inl h
        · exact .inr (List.mem_cons_of_mem _ h)
      · rcases List.mem_cons.mp h with h | h
        · exact .inr (h ▸ List.mem_cons_self)
        · exact (ih h).imp_right (List.mem_cons_of_mem _)

end Table

namespace Tables

/-- Every cached answer is kept under its own key. -/
def Keyed (t : Tables) : Prop :=
  ∀ k e, (k, e) ∈ t.entries.toList → k = e.key

/-- The same rows and the same answers, whatever the order in which they came. -/
structure Agrees (t u : Tables) : Prop where
  row? : ∀ endpoint, t.row? endpoint = u.row? endpoint
  entry? : ∀ key, t.entries.get? key = u.entries.get? key

theorem Agrees.refl (t : Tables) : t.Agrees t :=
  ⟨fun _ => rfl, fun _ => rfl⟩

theorem keyed_empty : Keyed empty := by
  intro k e h
  cases h

theorem Keyed.filter {t : Tables} (h : t.Keyed) (p : CacheKey → Entry → Bool) :
    Keyed { t with entries := t.entries.filter p } :=
  fun k e he => h k e ((List.mem_filter.mp he).1)

theorem Keyed.putEntry {t : Tables} (h : t.Keyed) (e : Entry) : (t.putEntry e).Keyed := by
  intro k e' he
  rcases Table.mem_put he with he | he
  · cases he
    rfl
  · exact h k e' he

theorem Keyed.purge {t : Tables} (h : t.Keyed) (now : Instant) : (t.purge now).Keyed :=
  h.filter _

theorem keyed_ofList (rows : Table String Row) (entries : List Entry) :
    Keyed ⟨rows, Table.ofList (entries.map fun e => (e.key, e))⟩ := by
  have hfold : ∀ (l : List Entry) (t : Table CacheKey Entry), Keyed ⟨rows, t⟩ →
      Keyed ⟨rows, (l.map fun e => (e.key, e)).foldl (fun t e => t.insert e.1 e.2) t⟩ := by
    intro l
    induction l with
    | nil => exact fun _ h => h
    | cons e l ih => exact fun t h => ih (t.insert e.key e) (h.putEntry e)
  exact hfold entries Table.empty keyed_empty

end Tables

end NameScout
