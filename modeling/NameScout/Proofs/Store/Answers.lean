import NameScout.Proofs.Store.Request

namespace NameScout

namespace Tables

variable {t u : Tables}

theorem sorted_sortRows (rows : List Row) :
    ((sortRows rows).map Row.endpoint).Pairwise (· ≤ ·) := by
  rw [List.pairwise_map]
  have hsorted : (sortRows rows).Pairwise fun a b =>
      (!decide (b.endpoint < a.endpoint)) = true := by
    refine List.pairwise_mergeSort (fun a b c hab hbc => ?_) (fun a b => ?_) rows
    · simp only [Bool.not_eq_true', decide_eq_false_iff_not, String.not_lt] at hab hbc ⊢
      exact String.le_trans hab hbc
    · simp only [Bool.or_eq_true, Bool.not_eq_true', decide_eq_false_iff_not, String.not_lt]
      exact String.le_total a.endpoint b.endpoint
  refine hsorted.imp fun h => ?_
  rwa [Bool.not_eq_true', decide_eq_false_iff_not, String.not_lt] at h

theorem endpoints_sortRows {rows rows' : List Row} (h : rows.Perm rows') :
    (sortRows rows).map Row.endpoint = (sortRows rows').map Row.endpoint := by
  have hperm : (sortRows rows).Perm (sortRows rows') :=
    (List.mergeSort_perm rows _).trans (h.trans (List.mergeSort_perm rows' _).symm)
  exact (hperm.map Row.endpoint).eq_of_pairwise (fun _ _ _ _ => String.le_antisymm)
    (sorted_sortRows rows) (sorted_sortRows rows')

theorem Agrees.rows_perm (h : t.Agrees u) : t.rows.toList.Perm u.rows.toList :=
  Table.perm_of_get?_eq h.row?

theorem Agrees.entries_perm (h : t.Agrees u) : t.entries.toList.Perm u.entries.toList :=
  Table.perm_of_get?_eq h.entry?

theorem Agrees.putRow (h : t.Agrees u) (endpoint : String) (row : Row) :
    (t.putRow endpoint row).Agrees (u.putRow endpoint row) where
  row? e := by rw [row?_putRow, row?_putRow, h.row?]
  entry? := h.entry?

theorem Agrees.eraseRow (h : t.Agrees u) (endpoint : String) :
    (t.eraseRow endpoint).Agrees (u.eraseRow endpoint) where
  row? e := by rw [row?_eraseRow, row?_eraseRow, h.row?]
  entry? := h.entry?

theorem Agrees.eraseRows (h : t.Agrees u) (start : String) :
    (t.eraseRows start).Agrees (u.eraseRows start) where
  row? e := by rw [row?_eraseRows, row?_eraseRows, h.row?]
  entry? := h.entry?

theorem Agrees.putEntry (h : t.Agrees u) (e : Entry) : (t.putEntry e).Agrees (u.putEntry e) where
  row? := h.row?
  entry? k := by
    rw [Tables.putEntry, Tables.putEntry, Table.get?_insert, Table.get?_insert, h.entry?]

theorem Agrees.purge (h : t.Agrees u) (now : Instant) : (t.purge now).Agrees (u.purge now) where
  row? := h.row?
  entry? k := by
    rw [Tables.purge, Tables.purge, Table.get?_filter, Table.get?_filter, h.entry?]

end Tables

/-- The same answer, whatever the order of the rows that share an endpoint. -/
inductive Reply.Alike : Reply → Reply → Prop where
  | same (reply : Reply) : Alike reply reply
  | rows {rows rows' : List Row} (endpoints : rows.map Row.endpoint = rows'.map Row.endpoint)
      (perm : rows.Perm rows') : Alike (.rows rows) (.rows rows')

theorem Reply.Alike.of_eq {reply reply' : Reply} (h : reply = reply') : reply.Alike reply' :=
  h ▸ .same reply

theorem Tables.Agrees.listRows {t u : Tables} (h : t.Agrees u) (start : String) :
    (Reply.rows (t.listRows start)).Alike (.rows (u.listRows start)) := by
  have hfound : (t.rows.values.filter fun row => Text.startsWith row.endpoint start).Perm
      (u.rows.values.filter fun row => Text.startsWith row.endpoint start) :=
    (h.rows_perm.map Prod.snd).filter _
  refine .rows (endpoints_sortRows hfound) ?_
  exact (List.mergeSort_perm _ _).trans (hfound.trans (List.mergeSort_perm _ _).symm)

namespace Request

theorem alike {t u : Tables} (h : t.Agrees u) (r : Request) :
    ∃ reply reply', (r.perform : Effect Tables Reply).run t = (.ok reply, r.applied t) ∧
      (r.perform : Effect Tables Reply).run u = (.ok reply', r.applied u) ∧
      reply.Alike reply' ∧ (r.applied t).Agrees (r.applied u) := by
  cases r with
  | row? endpoint =>
      exact ⟨_, _, rfl, rfl, .of_eq (congrArg Reply.row (h.row? endpoint)), h⟩
  | putRow endpoint row => exact ⟨_, _, rfl, rfl, .same _, h.putRow endpoint row⟩
  | listRows start => exact ⟨_, _, rfl, rfl, h.listRows start, h⟩
  | eraseRow endpoint =>
      have hfound : (t.row? endpoint).isSome = (u.row? endpoint).isSome := by rw [h.row?]
      exact ⟨_, _, rfl, rfl, .of_eq (congrArg Reply.erased hfound), h.eraseRow endpoint⟩
  | eraseRows start =>
      have hleft := h.eraseRows start
      have hcount : t.rows.size - (t.eraseRows start).rows.size =
          u.rows.size - (u.eraseRows start).rows.size := by
        rw [Table.size, Table.size, h.rows_perm.length_eq, hleft.rows_perm.length_eq]
        rfl
      exact ⟨_, _, rfl, rfl, .of_eq (congrArg Reply.count hcount), hleft⟩
  | live? key now =>
      have hlive : t.live? key now = u.live? key now := by
        rw [Tables.live?, h.entry? key, Tables.live?]
      exact ⟨_, _, rfl, rfl, .of_eq (congrArg Reply.entry hlive), h⟩
  | putEntry e => exact ⟨_, _, rfl, rfl, .same _, h.putEntry e⟩
  | purge now =>
      have hleft := h.purge now
      have hcount : t.entries.size - (t.purge now).entries.size =
          u.entries.size - (u.purge now).entries.size := by
        rw [Table.size, Table.size, h.entries_perm.length_eq, hleft.entries_perm.length_eq]
        rfl
      exact ⟨_, _, rfl, rfl, .of_eq (congrArg Reply.count hcount), hleft⟩
  | flush => exact ⟨_, _, rfl, rfl, .same _, h⟩

end Request

end NameScout
