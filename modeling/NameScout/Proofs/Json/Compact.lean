import NameScout.Proofs.Json.Decoding

namespace NameScout.Json

mutual

/-- A value that its own text gives back: whole numbers of at most 64 bits, members in increasing
order of their names, and no more than some levels of arrays and objects. -/
def isStorable (room : Nat) : Json → Bool
  | float _ => false
  | int i => -9223372036854775808 ≤ i && i ≤ maxUnsigned
  | array items => match room with
      | 0 => false
      | room + 1 => allStorable room items
  | object members => match room with
      | 0 => false
      | room + 1 => (members.map Prod.fst).Pairwise (· < ·) && allMembersStorable room members
  | _ => true

def allStorable (room : Nat) : List Json → Bool
  | [] => true
  | item :: items => isStorable room item && allStorable room items

def allMembersStorable (room : Nat) : List (String × Json) → Bool
  | [] => true
  | (_, value) :: members => isStorable room value && allMembersStorable room members

end

theorem isStorable_of_mem {room : Nat} {members : List (String × Json)}
    (h : allMembersStorable room members = true) {member : String × Json}
    (hmember : member ∈ members) : isStorable room member.2 = true := by
  induction members with
  | nil => cases hmember
  | cons first members ih =>
      obtain ⟨name, value⟩ := first
      rw [allMembersStorable, Bool.and_eq_true] at h
      rcases List.mem_cons.mp hmember with rfl | hmember
      · exact h.1
      · exact ih h.2 hmember

mutual

theorem isWhole_of_isStorable : ∀ {room : Nat} (j : Json), isStorable room j = true →
    isWhole j = true
  | _, null, _ | _, bool _, _ | _, int _, _ | _, string _, _ => rfl
  | _ + 1, array items, h => allWhole_of_allStorable items h
  | _ + 1, object members, h =>
      allMembersWhole_of_allMembersStorable members (Bool.and_eq_true_iff.mp h).2

theorem allWhole_of_allStorable : ∀ {room : Nat} (items : List Json),
    allStorable room items = true → allWhole items = true
  | _, [], _ => rfl
  | _, item :: items, h => by
      rw [allStorable, Bool.and_eq_true] at h
      rw [allWhole, isWhole_of_isStorable item h.1, allWhole_of_allStorable items h.2]
      rfl

theorem allMembersWhole_of_allMembersStorable : ∀ {room : Nat} (members : List (String × Json)),
    allMembersStorable room members = true → allMembersWhole members = true
  | _, [], _ => rfl
  | _, (_, value) :: members, h => by
      rw [allMembersStorable, Bool.and_eq_true] at h
      rw [allMembersWhole, isWhole_of_isStorable value h.1,
        allMembersWhole_of_allMembersStorable members h.2]
      rfl

end

mutual

theorem isStorable_mono : ∀ {room room' : Nat} (j : Json), room ≤ room' →
    isStorable room j = true → isStorable room' j = true
  | _, _, null, _, _ | _, _, bool _, _, _ | _, _, string _, _, _ => rfl
  | _, _, int _, _, h => h
  | room + 1, room' + 1, array items, hle, h =>
      allStorable_mono items (Nat.le_of_succ_le_succ hle) h
  | room + 1, room' + 1, object members, hle, h => by
      obtain ⟨hincreasing, hmembers⟩ := Bool.and_eq_true_iff.mp h
      exact Bool.and_eq_true_iff.mpr
        ⟨hincreasing, allMembersStorable_mono members (Nat.le_of_succ_le_succ hle) hmembers⟩

theorem allStorable_mono : ∀ {room room' : Nat} (items : List Json), room ≤ room' →
    allStorable room items = true → allStorable room' items = true
  | _, _, [], _, _ => rfl
  | _, _, item :: items, hle, h => by
      rw [allStorable, Bool.and_eq_true] at h ⊢
      exact ⟨isStorable_mono item hle h.1, allStorable_mono items hle h.2⟩

theorem allMembersStorable_mono : ∀ {room room' : Nat} (members : List (String × Json)),
    room ≤ room' → allMembersStorable room members = true →
      allMembersStorable room' members = true
  | _, _, [], _, _ => rfl
  | _, _, (_, value) :: members, hle, h => by
      rw [allMembersStorable, Bool.and_eq_true] at h ⊢
      exact ⟨isStorable_mono value hle h.1, allMembersStorable_mono members hle h.2⟩

end

mutual

theorem spells_compact : ∀ j : Json, isWhole j = true → Spells (toTree j) (compactChars j)
  | null, _ => .scalar scalar_null
  | bool true, _ => .scalar scalar_true
  | bool false, _ => .scalar scalar_false
  | int i, _ => .scalar (scalar_intChars i)
  | string s, _ => .scalar (scalar_quoted s)
  | array [], _ => .emptyArray
  | object [], _ => .emptyObject
  | array (item :: items), h => by
      have hitems := spells_compactItems (item :: items) (by simp) h
      have := Spells.array hitems blank_nil blank_nil
      rw [compactChars, toTree]
      simpa only [List.append_nil, List.nil_append, List.cons_append] using this
  | object (member :: members), h => by
      have hmembers := spells_compactMembers (member :: members) (by simp) h
      have := Spells.object hmembers blank_nil blank_nil
      rw [compactChars, toTree]
      simpa only [List.append_nil, List.nil_append, List.cons_append] using this

theorem spells_compactItems : ∀ items : List Json, items ≠ [] →
    allWhole items = true → SpellsItems (toTrees items) (compactItems items)
  | [], hne, _ => absurd rfl hne
  | [item], _, h => by
      rw [allWhole, Bool.and_eq_true] at h
      exact .last (spells_compact item h.1)
  | item :: item' :: items, _, h => by
      rw [allWhole, Bool.and_eq_true] at h
      have hitem := spells_compact item h.1
      have hitems := spells_compactItems (item' :: items) (by simp) h.2
      have := SpellsItems.cons hitem hitems blank_nil
      rw [compactItems, toTrees]
      · simpa only [List.nil_append] using this
      · simp

theorem spells_compactMembers : ∀ members : List (String × Json), members ≠ [] →
    allMembersWhole members = true → SpellsMembers (toFields members) (compactMembers members)
  | [], hne, _ => absurd rfl hne
  | [(name, value)], _, h => by
      rw [allMembersWhole, Bool.and_eq_true] at h
      have := SpellsMembers.last (spellsName_escaped name) (spells_compact value h.1) blank_nil
      rw [compactMembers, toFields, toFields, quoted]
      simpa only [List.append_assoc, List.cons_append, List.nil_append] using this
  | (name, value) :: member :: members, _, h => by
      rw [allMembersWhole, Bool.and_eq_true] at h
      have hvalue := spells_compact value h.1
      have hmembers := spells_compactMembers (member :: members) (by simp) h.2
      have := SpellsMembers.cons (spellsName_escaped name) hvalue hmembers blank_nil blank_nil
      rw [compactMembers, toFields, quoted]
      · simpa only [List.append_assoc, List.cons_append, List.nil_append] using this
      · simp

end

theorem parse?_compact {j : Json} (h : isWhole j = true) :
    Tree.parse? (compact j) = some (toTree j) := by
  apply parse?_of_spells
  rw [compact, String.toList_ofList]
  exact spells_compact j h

section Members

variable {name : String} {value : Json} {members sorted : List (String × Json)}

theorem perm_insertMember (h : name ∉ sorted.map Prod.fst) :
    (insertMember name value sorted).Perm ((name, value) :: sorted) := by
  induction sorted with
  | nil => exact .refl _
  | cons member sorted ih =>
      obtain ⟨k, v⟩ := member
      rw [List.map_cons, List.mem_cons, not_or] at h
      rw [insertMember, if_neg h.1]
      split
      · exact .refl _
      · exact ((ih h.2).cons (k, v)).trans (.swap ..)

theorem increasing_insertMember (h : name ∉ sorted.map Prod.fst)
    (hincreasing : (sorted.map Prod.fst).Pairwise (· < ·)) :
    ((insertMember name value sorted).map Prod.fst).Pairwise (· < ·) := by
  induction sorted with
  | nil => exact List.pairwise_singleton ..
  | cons member sorted ih =>
      obtain ⟨k, v⟩ := member
      rw [List.map_cons, List.mem_cons, not_or] at h
      rw [List.map_cons, List.pairwise_cons] at hincreasing
      rw [insertMember, if_neg h.1]
      split
      · rename_i hlt
        rw [List.map_cons, List.map_cons, List.pairwise_cons, List.pairwise_cons]
        refine ⟨fun k' hk' => ?_, hincreasing⟩
        rcases List.mem_cons.mp hk' with rfl | hk'
        · exact hlt
        · exact String.lt_trans hlt (hincreasing.1 k' hk')
      · rename_i hnot
        have hlt : k < name := Decidable.byContradiction fun hge =>
          h.1 (String.le_antisymm (String.not_lt.mp hge) (String.not_lt.mp hnot))
        rw [List.map_cons, List.pairwise_cons]
        refine ⟨fun k' hk' => ?_, ih h.2 hincreasing.2⟩
        rcases List.mem_cons.mp ((((perm_insertMember h.2).map Prod.fst).mem_iff).mp hk')
          with rfl | hk'
        · exact hlt
        · exact hincreasing.1 k' hk'

theorem foldl_insertMember (hincreasing : (sorted.map Prod.fst).Pairwise (· < ·))
    (hnodup : ((members ++ sorted).map Prod.fst).Nodup) :
    ((members.foldl (fun sorted m => insertMember m.1 m.2 sorted) sorted).map Prod.fst).Pairwise
        (· < ·) ∧
      (members.foldl (fun sorted m => insertMember m.1 m.2 sorted) sorted).Perm
        (members ++ sorted) := by
  induction members generalizing sorted with
  | nil => exact ⟨hincreasing, .refl _⟩
  | cons member members ih =>
      rw [List.cons_append, List.map_cons, List.nodup_cons] at hnodup
      have hfresh : member.1 ∉ sorted.map Prod.fst := fun hmem =>
        hnodup.1 (by rw [List.map_append]; exact List.mem_append_right _ hmem)
      have hperm : (insertMember member.1 member.2 sorted).Perm (member :: sorted) :=
        perm_insertMember hfresh
      have hmove : (members ++ insertMember member.1 member.2 sorted).Perm
          (member :: (members ++ sorted)) :=
        (hperm.append_left members).trans List.perm_middle
      obtain ⟨hincreasing', hperm'⟩ := ih (increasing_insertMember hfresh hincreasing)
        (by rw [(hmove.map Prod.fst).nodup_iff]; exact List.nodup_cons.mpr hnodup)
      exact ⟨hincreasing', hperm'.trans hmove⟩

theorem ofMembers_of_perm (hperm : members.Perm sorted)
    (hincreasing : (sorted.map Prod.fst).Pairwise (· < ·)) : ofMembers members = sorted := by
  have hnodup : ((members ++ []).map Prod.fst).Nodup := by
    rw [List.append_nil, (hperm.map Prod.fst).nodup_iff]
    exact hincreasing.imp String.ne_of_lt
  obtain ⟨hincreasing', hperm'⟩ := foldl_insertMember .nil hnodup
  rw [List.append_nil] at hperm'
  have hasymm (a b : String × Json) (hab : a.1 < b.1) (hba : b.1 < a.1) : a = b :=
    absurd hba (String.lt_asymm hab)
  exact (hperm'.trans hperm).eq_of_pairwise (fun a b _ _ => hasymm a b)
    (List.pairwise_map.mp hincreasing') (List.pairwise_map.mp hincreasing)

end Members

mutual

theorem ofTree?_toTree : ∀ {room : Nat} (j : Json), isStorable room j = true →
    ofTree? room (toTree j) = some j
  | _, null, _ | _, bool _, _ | _, string _, _ => rfl
  | _, int i, h => by
      have hrange : -9223372036854775808 ≤ i ∧ i ≤ maxUnsigned := by
        simpa [isStorable] using h
      rw [toTree, ofTree?, Numeral.value?, int?_ofInt hrange.1 hrange.2]
  | room + 1, array items, h => by
      rw [toTree, ofTree?, ofItems?_toTrees items h]
      rfl
  | room + 1, object members, h => by
      obtain ⟨hincreasing, hmembers⟩ := Bool.and_eq_true_iff.mp h
      rw [toTree, ofTree?, ofFields?_toFields members hmembers, Option.map_some,
        ofMembers_of_perm (.refl _) (of_decide_eq_true hincreasing)]

theorem ofItems?_toTrees : ∀ {room : Nat} (items : List Json), allStorable room items = true →
    ofItems? room (toTrees items) = some items
  | _, [], _ => rfl
  | room, item :: items, h => by
      rw [allStorable, Bool.and_eq_true] at h
      have hitem := ofTree?_toTree item h.1
      have hitems := ofItems?_toTrees items h.2
      simp only [toTrees, ofItems?, hitem, hitems]

theorem ofFields?_toFields : ∀ {room : Nat} (members : List (String × Json)),
    allMembersStorable room members = true → ofFields? room (toFields members) = some members
  | _, [], _ => rfl
  | room, (name, value) :: members, h => by
      rw [allMembersStorable, Bool.and_eq_true] at h
      have hvalue := ofTree?_toTree value h.1
      have hmembers := ofFields?_toFields members h.2
      simp only [toFields, ofFields?, hvalue, hmembers]

end

theorem pairs_toFields {room : Nat} {members : List (String × Json)}
    (h : ∀ member ∈ members, isStorable room member.2 = true) :
    Decoder.pairs ofTree? (room + 1) (.object (toFields members)) = some members := by
  rw [toFields_eq_map, Decoder.pairs]
  refine mapM_map_eq_some fun member hmember => ?_
  have hvalue := ofTree?_toTree member.2 (h member hmember)
  simp only [hvalue]
  rfl

theorem decode?_compact {α : Type} {d : Decoder α} {k : Nat} {j : Json} {a : α}
    (hj : isWhole j = true) (hd : Decodes d k j a) (hk : k ≤ maxDepth) :
    decode? d (compact j) = some a := by
  rw [decode?, parse?_compact hj, Option.bind_some]
  exact hd maxDepth hk

end NameScout.Json
