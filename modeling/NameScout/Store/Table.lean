namespace NameScout

/-- A finite map: its entries in the order in which their keys first came, every key once. -/
structure Table (κ α : Type) where
  toList : List (κ × α)
  keys_nodup : (toList.map Prod.fst).Nodup

namespace Table

variable {κ α : Type}

def keys (t : Table κ α) : List κ :=
  t.toList.map Prod.fst

def values (t : Table κ α) : List α :=
  t.toList.map Prod.snd

def size (t : Table κ α) : Nat :=
  t.toList.length

def empty : Table κ α :=
  ⟨[], List.nodup_nil⟩

instance : EmptyCollection (Table κ α) := ⟨empty⟩

theorem ext {t u : Table κ α} (h : t.toList = u.toList) : t = u := by
  cases t; cases u; simp only at h; subst h; rfl

instance [DecidableEq κ] [DecidableEq α] : DecidableEq (Table κ α) := fun t u =>
  if h : t.toList = u.toList then isTrue (ext h) else isFalse (fun e => h (by rw [e]))

def filter (p : κ → α → Bool) (t : Table κ α) : Table κ α :=
  ⟨t.toList.filter fun e => p e.1 e.2,
    t.keys_nodup.sublist (List.filter_sublist.map Prod.fst)⟩

variable [DecidableEq κ]

def get? (t : Table κ α) (k : κ) : Option α :=
  t.toList.lookup k

def contains (t : Table κ α) (k : κ) : Bool :=
  t.keys.contains k

def put (k : κ) (v : α) : List (κ × α) → List (κ × α)
  | [] => [(k, v)]
  | (k', v') :: rest => if k' = k then (k, v) :: rest else (k', v') :: put k v rest

theorem mem_keys_put {k : κ} {v : α} {l : List (κ × α)} {x : κ} :
    x ∈ (put k v l).map Prod.fst ↔ x = k ∨ x ∈ l.map Prod.fst := by
  induction l with
  | nil => simp [put]
  | cons e rest ih =>
      obtain ⟨k', v'⟩ := e
      simp only [put]
      split
      · rename_i h
        subst h
        simp
      · simp only [List.map_cons, List.mem_cons, ih]
        constructor
        · rintro (h | h | h) <;> simp [h]
        · rintro (h | h | h) <;> simp [h]

theorem nodup_put {k : κ} {v : α} {l : List (κ × α)} (h : (l.map Prod.fst).Nodup) :
    ((put k v l).map Prod.fst).Nodup := by
  induction l with
  | nil => simp [put]
  | cons e rest ih =>
      obtain ⟨k', v'⟩ := e
      simp only [List.map_cons, List.nodup_cons] at h
      simp only [put]
      split
      · rename_i hk
        subst hk
        simpa using h
      · rename_i hk
        simp only [List.map_cons, List.nodup_cons, mem_keys_put]
        refine ⟨?_, ih h.2⟩
        rintro (h' | h')
        · exact hk h'
        · exact h.1 h'

/-- The map with one entry put in, in the place of an older one with the same key. -/
def insert (t : Table κ α) (k : κ) (v : α) : Table κ α :=
  ⟨put k v t.toList, nodup_put t.keys_nodup⟩

def erase (t : Table κ α) (k : κ) : Table κ α :=
  t.filter fun k' _ => k' ≠ k

def ofList (l : List (κ × α)) : Table κ α :=
  l.foldl (fun t e => t.insert e.1 e.2) empty

def insertAll (t : Table κ α) (l : List (κ × α)) : Table κ α :=
  l.foldl (fun t e => t.insert e.1 e.2) t

theorem lookup_cons_if {x k : κ} {v : α} {l : List (κ × α)} :
    ((k, v) :: l).lookup x = if x = k then some v else l.lookup x := by
  by_cases h : x = k
  · subst h; simp
  · have hb : (x == k) = false := by simpa using h
    simp [List.lookup_cons, hb, h]

theorem lookup_put {k x : κ} {v : α} {l : List (κ × α)} :
    (put k v l).lookup x = if x = k then some v else l.lookup x := by
  induction l with
  | nil => simp [put, lookup_cons_if]
  | cons e rest ih =>
      obtain ⟨k', v'⟩ := e
      simp only [put]
      split
      · rename_i hk
        subst hk
        by_cases h : x = k' <;> simp [lookup_cons_if, h]
      · rename_i hk
        simp only [lookup_cons_if, ih]
        by_cases h : x = k'
        · subst h
          simp [hk]
        · simp [h]

theorem get?_insert (t : Table κ α) (k x : κ) (v : α) :
    (t.insert k v).get? x = if x = k then some v else t.get? x :=
  lookup_put

theorem lookup_filter_key (p : κ → Bool) (k : κ)
    (l : List (κ × α)) :
    (l.filter fun e => p e.1).lookup k = if p k then l.lookup k else none := by
  induction l with
  | nil => simp
  | cons e l ih =>
      obtain ⟨k', a⟩ := e
      cases hp : p k' with
      | false =>
          rw [List.filter_cons_of_neg (by simp [hp]), ih, lookup_cons_if]
          by_cases hk : k = k'
          · subst hk; simp [hp]
          · simp [hk]
      | true =>
          rw [List.filter_cons_of_pos (by simp [hp]), lookup_cons_if, lookup_cons_if, ih]
          by_cases hk : k = k'
          · subst hk; simp [hp]
          · simp [hk]

theorem get?_filter_key (t : Table κ α) (p : κ → Bool) (x : κ) :
    (t.filter fun k _ => p k).get? x = if p x then t.get? x else none :=
  lookup_filter_key p x t.toList

theorem get?_erase (t : Table κ α) (k x : κ) :
    (t.erase k).get? x = if x = k then none else t.get? x := by
  have h := get?_filter_key t (fun y => decide (y ≠ k)) x
  rw [show (t.erase k).get? x = _ from h]
  by_cases hx : x = k <;> simp [hx]

theorem get?_empty (x : κ) : (empty : Table κ α).get? x = none := rfl

end Table

end NameScout
