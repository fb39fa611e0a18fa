import Mathlib.Data.List.Forall2
import NameScout.Proofs.Json.Printing
import NameScout.Time.Json

namespace NameScout.Json

variable {α β : Type}

/-- A value with no more levels than given is read as a domain value. -/
def Decodes (d : Decoder α) (levels : Nat) (j : Json) (a : α) : Prop :=
  ∀ room, levels ≤ room → d room (toTree j) = some a

theorem decodes_text (s : String) : Decodes .text 0 (.string s) s :=
  fun _ _ => rfl

theorem decodes_natUpTo {limit n : Nat} (hlimit : limit ≤ maxUnsigned) (hn : n ≤ limit) :
    Decodes (.natUpTo limit) 0 (.int n) n := by
  intro room _
  have hint : (Numeral.ofInt n).int? = some (Int.ofNat n) := int?_ofInt (by omega) (by omega)
  simp only [toTree, Decoder.natUpTo, hint]
  exact if_pos hn

theorem decodes_uint16 (n : UInt16) : Decodes .uint16 0 (.int n.toNat) n := by
  intro room hroom
  rw [Decoder.uint16, decodes_natUpTo (by decide) (Nat.le_of_lt_succ n.toNat_lt) room hroom,
    Option.map_some, UInt16.ofNat_toNat]

theorem decodes_uint32 (n : UInt32) : Decodes .uint32 0 (.int n.toNat) n := by
  intro room hroom
  rw [Decoder.uint32, decodes_natUpTo (by decide) (Nat.le_of_lt_succ n.toNat_lt) room hroom,
    Option.map_some, UInt32.ofNat_toNat]

theorem decodes_uint64 (n : UInt64) : Decodes .uint64 0 (.int n.toNat) n := by
  intro room hroom
  rw [Decoder.uint64, decodes_natUpTo (Nat.le_refl _) (Nat.le_of_lt_succ n.toNat_lt) room hroom,
    Option.map_some, UInt64.ofNat_toNat]

theorem decodes_bool (b : Bool) : Decodes .bool 0 (.bool b) b :=
  fun _ _ => rfl

theorem decodes_word {ofLabel? : String → Option α} {label : String} {a : α}
    (h : ofLabel? label = some a) : Decodes (.word ofLabel?) 0 (.string label) a :=
  fun _ _ => h

theorem decodes_optional {d : Decoder α} {k : Nat} {f : α → Json} {o : Option α}
    (h : ∀ a, Decodes d k (f a) a) (hnull : ∀ a, toTree (f a) ≠ .null) :
    Decodes d.optional k (ofOption f o) o := by
  intro room hroom
  cases o with
  | none => rfl
  | some a =>
      have hd := h a room hroom
      rw [ofOption, Decoder.optional, hd]
      · rfl
      · exact hnull a

theorem mapM_map_eq_some {f : β → Option α} {g : α → β} {as : List α}
    (h : ∀ a ∈ as, f (g a) = some a) : (as.map g).mapM f = some as := by
  induction as with
  | nil => rfl
  | cons a as ih =>
      rw [List.map_cons, List.mapM_cons, h a List.mem_cons_self,
        ih fun b hb => h b (List.mem_cons_of_mem _ hb)]
      rfl

theorem decodes_items {d : Decoder α} {k : Nat} {items : List Json} {as : List α}
    (h : List.Forall₂ (Decodes d k) items as) : Decodes (.list d) (k + 1) (.array items) as := by
  intro room hroom
  obtain ⟨room, rfl⟩ : ∃ n, room = n + 1 := ⟨room - 1, by omega⟩
  rw [toTree, toTrees_eq_map, Decoder.list]
  induction h with
  | nil => rfl
  | cons hitem _ ih =>
      rw [List.map_cons, List.mapM_cons, hitem room (by omega), ih]
      rfl

theorem decodes_list {d : Decoder α} {k : Nat} {f : α → Json} {as : List α}
    (h : ∀ a ∈ as, Decodes d k (f a) a) : Decodes (.list d) (k + 1) (.array (as.map f)) as :=
  decodes_items (List.forall₂_map_left_iff.mpr (List.forall₂_same.mpr h))

theorem decodes_pairs {d : Decoder α} {k : Nat} {f : α → Json} {as : List (String × α)}
    (h : ∀ a ∈ as, Decodes d k (f a.2) a.2) :
    Decodes (.pairs d) (k + 1) (.object (as.map fun (name, a) => (name, f a))) as := by
  intro room hroom
  obtain ⟨room, rfl⟩ : ∃ n, room = n + 1 := ⟨room - 1, by omega⟩
  rw [toTree, toFields_eq_map, List.map_map, Decoder.pairs]
  refine mapM_map_eq_some fun a ha => ?_
  have hd := h a ha room (by omega)
  simp only [Function.comp_apply, hd]
  rfl

namespace Record

def ofMembers (room : Nat) (members : List (String × Json)) : Record :=
  { room, positional := false, given := members.map fun (name, value) => (name, toTree value) }

theorem namesOf_toFields (members : List (String × Json)) :
    namesOf (toFields members) = some (members.map fun (name, value) => (name, toTree value)) := by
  induction members with
  | nil => rfl
  | cons member members ih =>
      rw [toFields, namesOf, ih]
      rfl

theorem open?_object {fields : List String} {members : List (String × Json)} (room : Nat)
    (hfields : members.map Prod.fst = fields) (hnodup : fields.Nodup) :
    open? fields (room + 1) (toTree (.object members)) = some (ofMembers room members) := by
  rw [toTree, open?, namesOf_toFields, Option.bind_eq_bind, Option.bind_some,
    List.filter_eq_self.mpr, if_pos]
  · rfl
  · rw [List.map_map]
    exact hfields.symm ▸ hnodup
  · intro entry hentry
    obtain ⟨member, hmember, rfl⟩ := List.mem_map.mp hentry
    rw [List.contains_iff_mem, ← hfields]
    exact List.mem_map_of_mem hmember

section Fields

variable (room : Nat) (name field : String) (j : Json) (members : List (String × Json))
  (d : Decoder α)

theorem lookup_ofMembers_cons : (ofMembers room ((name, j) :: members)).given.lookup field =
    if field = name then some (toTree j) else (ofMembers room members).given.lookup field := by
  by_cases h : field = name
  · subst h
    simp [ofMembers]
  · have hne : (field == name) = false := beq_eq_false_iff_ne.mpr h
    simp [ofMembers, List.lookup_cons, hne, h]

theorem required_cons : (ofMembers room ((name, j) :: members)).required field d =
    if field = name then d room (toTree j) else (ofMembers room members).required field d := by
  rw [required, lookup_ofMembers_cons]
  split <;> rfl

theorem optional_cons : (ofMembers room ((name, j) :: members)).optional field d =
    if field = name then d.optional room (toTree j)
    else (ofMembers room members).optional field d := by
  rw [optional, lookup_ofMembers_cons]
  by_cases h : field = name
  · rw [if_pos h, if_pos h]
    rfl
  · rw [if_neg h, if_neg h]
    rfl

theorem defaulted_cons (default : α) :
    (ofMembers room ((name, j) :: members)).defaulted field default d =
      if field = name then d room (toTree j)
      else (ofMembers room members).defaulted field default d := by
  rw [defaulted, lookup_ofMembers_cons]
  by_cases h : field = name
  · rw [if_pos h, if_pos h]
    rfl
  · rw [if_neg h, if_neg h]
    rfl

end Fields

end Record

theorem decode?_pretty {d : Decoder α} {k : Nat} {j : Json} {a : α} (hj : isWhole j = true)
    (hd : Decodes d k j a) (hk : k ≤ maxDepth) : decode? d (pretty j) = some a := by
  rw [decode?, parse?_pretty hj, Option.bind_some]
  exact hd maxDepth hk

end NameScout.Json
