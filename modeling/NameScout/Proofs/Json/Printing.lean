import NameScout.Json.Decode
import NameScout.Proofs.Json.Scalar

namespace NameScout.Json

mutual

def isWhole : Json → Bool
  | float _ => false
  | array items => allWhole items
  | object members => allMembersWhole members
  | _ => true

def allWhole : List Json → Bool
  | [] => true
  | item :: items => isWhole item && allWhole items

def allMembersWhole : List (String × Json) → Bool
  | [] => true
  | (_, value) :: members => isWhole value && allMembersWhole members

end

mutual

/-- What the text of a value is read as, if its numbers are integers. -/
def toTree : Json → Tree
  | null | float _ => .null
  | bool b => .bool b
  | int i => .number (.ofInt i)
  | string s => .string (some s)
  | array items => .array (toTrees items)
  | object members => .object (toFields members)

def toTrees : List Json → List Tree
  | [] => []
  | item :: items => toTree item :: toTrees items

def toFields : List (String × Json) → List (Option String × Tree)
  | [] => []
  | (name, value) :: members => (some name, toTree value) :: toFields members

end

theorem toTrees_eq_map (items : List Json) : toTrees items = items.map toTree := by
  induction items with
  | nil => rfl
  | cons item items ih => rw [toTrees, ih, List.map_cons]

theorem toFields_eq_map (members : List (String × Json)) :
    toFields members = members.map fun (name, value) => (some name, toTree value) := by
  induction members with
  | nil => rfl
  | cons member members ih => rw [toFields, ih, List.map_cons]

theorem allWhole_eq_all (items : List Json) : allWhole items = items.all isWhole := by
  induction items with
  | nil => rfl
  | cons item items ih => rw [allWhole, ih, List.all_cons]

theorem allMembersWhole_eq_all (members : List (String × Json)) :
    allMembersWhole members = members.all fun (_, value) => isWhole value := by
  induction members with
  | nil => rfl
  | cons member members ih => rw [allMembersWhole, ih, List.all_cons]

theorem blank_newline (depth : Nat) : Blank (newline depth) := by
  intro c hc
  rw [newline, List.mem_cons, List.mem_replicate] at hc
  rcases hc with rfl | ⟨-, rfl⟩ <;> rfl

theorem blank_space : Blank [' '] := by
  intro c hc
  rw [List.mem_singleton.mp hc]
  rfl

mutual

theorem spells_pretty (depth : Nat) : ∀ j : Json, isWhole j = true →
    Spells (toTree j) (prettyChars depth j)
  | null, _ => .scalar scalar_null
  | bool true, _ => .scalar scalar_true
  | bool false, _ => .scalar scalar_false
  | int i, _ => .scalar (scalar_intChars i)
  | string s, _ => .scalar (scalar_quoted s)
  | array [], _ => .emptyArray
  | object [], _ => .emptyObject
  | array (item :: items), h => by
      have hitems := spells_prettyItems (depth + 1) (item :: items) (by simp) h
      have := Spells.array hitems (blank_newline (depth + 1)) (blank_newline depth)
      rw [prettyChars, toTree]
      simpa only [List.append_assoc, List.cons_append] using this
  | object (member :: members), h => by
      have hmembers := spells_prettyMembers (depth + 1) (member :: members) (by simp) h
      have := Spells.object hmembers (blank_newline (depth + 1)) (blank_newline depth)
      rw [prettyChars, toTree]
      simpa only [List.append_assoc, List.cons_append] using this

theorem spells_prettyItems (depth : Nat) : ∀ items : List Json, items ≠ [] →
    allWhole items = true → SpellsItems (toTrees items) (prettyItems depth items)
  | [], hne, _ => absurd rfl hne
  | [item], _, h => by
      rw [allWhole, Bool.and_eq_true] at h
      exact .last (spells_pretty depth item h.1)
  | item :: item' :: items, _, h => by
      rw [allWhole, Bool.and_eq_true] at h
      have hitem := spells_pretty depth item h.1
      have hitems := spells_prettyItems depth (item' :: items) (by simp) h.2
      have := SpellsItems.cons hitem hitems (blank_newline depth)
      rw [prettyItems, toTrees]
      · simpa only [List.append_assoc, List.cons_append] using this
      · simp

theorem spells_prettyMembers (depth : Nat) : ∀ members : List (String × Json), members ≠ [] →
    allMembersWhole members = true →
      SpellsMembers (toFields members) (prettyMembers depth members)
  | [], hne, _ => absurd rfl hne
  | [(name, value)], _, h => by
      rw [allMembersWhole, Bool.and_eq_true] at h
      have := SpellsMembers.last (spellsName_escaped name) (spells_pretty depth value h.1)
        blank_space
      rw [prettyMembers, toFields, toFields, quoted]
      simpa only [List.append_assoc, List.cons_append, List.nil_append] using this
  | (name, value) :: member :: members, _, h => by
      rw [allMembersWhole, Bool.and_eq_true] at h
      have hvalue := spells_pretty depth value h.1
      have hmembers := spells_prettyMembers depth (member :: members) (by simp) h.2
      have := SpellsMembers.cons (spellsName_escaped name) hvalue hmembers blank_space
        (blank_newline depth)
      rw [prettyMembers, toFields, quoted]
      · simpa only [List.append_assoc, List.cons_append, List.nil_append] using this
      · simp

end

theorem parse?_pretty {j : Json} (h : isWhole j = true) :
    Tree.parse? (pretty j) = some (toTree j) := by
  apply parse?_of_spells
  rw [pretty, String.toList_ofList]
  exact spells_pretty 0 j h

end NameScout.Json
