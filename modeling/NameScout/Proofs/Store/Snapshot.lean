import NameScout.Proofs.Json.Records
import NameScout.Proofs.Store.Keyed
import NameScout.Store.Snapshot

namespace NameScout.Snapshot

open Json Json.Record

def inOrder (t : Tables) : List (CacheKey × Entry) :=
  t.entries.toList.mergeSort fun a b => a.1.le b.1

theorem sortedEntries_keys {t : Tables} (h : t.Keyed) :
    (t.sortedEntries.map fun e => (e.key, e)) = inOrder t := by
  rw [Tables.sortedEntries, List.map_map, inOrder]
  refine (List.map_congr_left fun x hx => ?_).trans (List.map_id _)
  obtain ⟨k, e⟩ := x
  rw [List.mem_mergeSort] at hx
  have hk : k = e.key := h k e hx
  simp [hk]

theorem nodup_inOrder (t : Tables) : ((inOrder t).map Prod.fst).Nodup :=
  ((List.mergeSort_perm _ _).map Prod.fst).nodup_iff.mpr t.entries.keys_nodup

def reread (t : Tables) : Tables :=
  ⟨Table.ofList t.rows.toList, Table.ofList (t.sortedEntries.map fun e => (e.key, e))⟩

theorem agrees_reread {t : Tables} (h : t.Keyed) : (reread t).Agrees t where
  row? endpoint := by
    rw [reread, Tables.row?, Table.get?, Table.toList_ofList t.rows.keys_nodup]
    rfl
  entry? key := by
    rw [reread, Table.get?, sortedEntries_keys h, Table.toList_ofList (nodup_inOrder t)]
    exact Table.lookup_perm (nodup_inOrder t) (List.mergeSort_perm _ _) key

theorem isWhole_toJson (t : Tables) : (toJson t).isWhole = true := by
  simp only [toJson, isWhole, allMembersWhole_eq_all, allWhole_eq_all, List.all_cons, List.all_nil,
    Bool.and_true, Bool.true_and, Bool.and_eq_true, List.all_eq_true]
  constructor
  · intro member hmember
    obtain ⟨x, -, rfl⟩ := List.mem_map.mp hmember
    exact x.2.isWhole_toJson
  · intro item hitem
    obtain ⟨e, -, rfl⟩ := List.mem_map.mp hitem
    exact e.isWhole_toJson

theorem decodes_toJson (t : Tables) : Decodes decoder 3 (toJson t) (reread t) := by
  intro room hroom
  obtain ⟨room, rfl⟩ : ∃ n, room = n + 1 := ⟨room - 1, by omega⟩
  have hopen : open? fields (room + 1) (toTree (toJson t)) = some (ofMembers room _) :=
    open?_object room rfl (by decide)
  have hrows : Decodes (.pairs Row.decoder) 2 _ t.rows.toList :=
    decodes_pairs fun a _ => a.2.decodes_toJson
  have hentries : Decodes (.list Entry.decoder) 2 (.array (t.sortedEntries.map Entry.toJson))
      t.sortedEntries := decodes_list fun e _ => e.decodes_toJson
  rw [decoder, hopen]
  simp only [Option.bind_eq_bind, Option.bind_some, required_cons, defaulted_cons,
    String.reduceEq, if_true, if_false, decodes_text _ room (Nat.zero_le room),
    hrows room (by omega), hentries room (by omega)]
  rfl

theorem parse?_render (t : Tables) : parse? (render t) = some (reread t) :=
  decode?_pretty (isWhole_toJson t) (decodes_toJson t) (by decide)

theorem keyed_of_parse? {text : String} {t : Tables} (h : parse? text = some t) : t.Keyed := by
  rw [parse?, decode?, Option.bind_eq_some_iff] at h
  obtain ⟨tree, -, h⟩ := h
  simp only [decoder, Option.bind_eq_bind, Option.bind_eq_some_iff, Option.pure_def,
    Option.some.injEq] at h
  obtain ⟨record, -, version, -, rows, -, entries, -, rfl⟩ := h
  exact Tables.keyed_ofList _ _

end NameScout.Snapshot
