import NameScout.Json.Parser
import NameScout.Json.Printer

namespace NameScout.Json

/-- No number goes on with what follows. -/
def Ends (cs : List Char) : Prop :=
  ∀ c ∈ cs.head?, Decimal.digitValue? c = none ∧ c ≠ '.' ∧ c ≠ 'e' ∧ c ≠ 'E'

def Blank (cs : List Char) : Prop :=
  ∀ c ∈ cs, isBlank c = true

theorem ends_nil : Ends [] := by
  simp [Ends]

theorem blank_nil : Blank [] := by
  simp [Blank]

theorem ends_cons {c : Char} (cs : List Char)
    (h : Decimal.digitValue? c = none ∧ c ≠ '.' ∧ c ≠ 'e' ∧ c ≠ 'E') : Ends (c :: cs) := by
  intro d hd
  cases hd
  exact h

theorem digitValue?_of_isBlank {c : Char} (h : isBlank c = true) :
    Decimal.digitValue? c = none ∧ c ≠ '.' ∧ c ≠ 'e' ∧ c ≠ 'E' := by
  simp only [isBlank, Bool.or_eq_true, beq_iff_eq] at h
  rcases h with ((rfl | rfl) | rfl) | rfl <;> decide

theorem Blank.ends_append {b rest : List Char} (hb : Blank b) (hr : Ends rest) :
    Ends (b ++ rest) := by
  cases b with
  | nil => exact hr
  | cons c b => exact ends_cons _ (digitValue?_of_isBlank (hb c List.mem_cons_self))

theorem skipBlank_append {b : List Char} (hb : Blank b) (cs : List Char) :
    skipBlank (b ++ cs) = skipBlank cs := by
  rw [skipBlank, List.dropWhile_append_of_pos hb, skipBlank]

theorem skipBlank_cons {c : Char} (cs : List Char) (h : isBlank c = false) :
    skipBlank (c :: cs) = c :: cs := by
  rw [skipBlank, List.dropWhile_cons_of_neg (by simp [h])]

theorem skipBlank_append_cons {b : List Char} (hb : Blank b) {c : Char} (cs : List Char)
    (h : isBlank c = false) : skipBlank (b ++ c :: cs) = c :: cs := by
  rw [skipBlank_append hb, skipBlank_cons cs h]

/-- A text that is read as a tree without arrays and objects, whatever follows it. -/
structure Scalar (tree : Tree) (cs : List Char) : Prop where
  starts : ∃ c rest, cs = c :: rest ∧ isBlank c = false ∧ c ≠ '[' ∧ c ≠ '\x7b' ∧ c ≠ ']'
  reads : ∀ rest, Ends rest → readScalar (cs ++ rest) = some (tree, rest)

def SpellsName (name : String) (cs : List Char) : Prop :=
  ∀ rest, readString (cs ++ rest) = some (some name, rest)

mutual

/-- The texts of a tree, with white space where it may stand between its parts. -/
inductive Spells : Tree → List Char → Prop
  | scalar {tree : Tree} {cs : List Char} (h : Scalar tree cs) : Spells tree cs
  | emptyArray : Spells (.array []) ['[', ']']
  | emptyObject : Spells (.object []) ['\x7b', '\x7d']
  | array {items : List Tree} {cs a b : List Char} (h : SpellsItems items cs) (ha : Blank a)
      (hb : Blank b) : Spells (.array items) ('[' :: (a ++ cs ++ b ++ [']']))
  | object {members : List (Option String × Tree)} {cs a b : List Char}
      (h : SpellsMembers members cs) (ha : Blank a) (hb : Blank b) :
      Spells (.object members) ('\x7b' :: (a ++ cs ++ b ++ ['\x7d']))

inductive SpellsItems : List Tree → List Char → Prop
  | last {item : Tree} {cs : List Char} (h : Spells item cs) : SpellsItems [item] cs
  | cons {item : Tree} {items : List Tree} {cs cs' b : List Char} (h : Spells item cs)
      (hs : SpellsItems items cs') (hb : Blank b) :
      SpellsItems (item :: items) (cs ++ ',' :: (b ++ cs'))

inductive SpellsMembers : List (Option String × Tree) → List Char → Prop
  | last {name : String} {value : Tree} {ns cs b : List Char} (hn : SpellsName name ns)
      (h : Spells value cs) (hb : Blank b) :
      SpellsMembers [(some name, value)] ('"' :: (ns ++ ':' :: (b ++ cs)))
  | cons {name : String} {value : Tree} {members : List (Option String × Tree)}
      {ns cs cs' b b' : List Char} (hn : SpellsName name ns) (h : Spells value cs)
      (hs : SpellsMembers members cs') (hb : Blank b) (hb' : Blank b') :
      SpellsMembers ((some name, value) :: members)
        ('"' :: (ns ++ ':' :: (b ++ cs ++ ',' :: (b' ++ cs'))))

end

theorem Spells.starts {tree : Tree} {cs : List Char} (h : Spells tree cs) :
    ∃ c rest, cs = c :: rest ∧ isBlank c = false ∧ c ≠ ']' := by
  cases h with
  | scalar h =>
      obtain ⟨c, rest, rfl, hc, -, -, h⟩ := h.starts
      exact ⟨c, rest, rfl, hc, h⟩
  | emptyArray | emptyObject | array | object => exact ⟨_, _, rfl, by decide, by decide⟩

theorem SpellsItems.starts {items : List Tree} {cs : List Char} (h : SpellsItems items cs) :
    ∃ c rest, cs = c :: rest ∧ isBlank c = false ∧ c ≠ ']' := by
  cases h with
  | last h => exact h.starts
  | cons h =>
      obtain ⟨c, rest, rfl, hc⟩ := h.starts
      exact ⟨c, _, rfl, hc⟩

theorem SpellsMembers.starts {members : List (Option String × Tree)} {cs : List Char}
    (h : SpellsMembers members cs) : ∃ rest, cs = '"' :: rest := by
  cases h with
  | last | cons => exact ⟨_, rfl⟩

theorem readValue_scalar {tree : Tree} {cs a rest : List Char} (h : Scalar tree cs)
    (ha : Blank a) (hr : Ends rest) (fuel : Nat) :
    readValue (fuel + 1) (a ++ (cs ++ rest)) = some (tree, rest) := by
  obtain ⟨c, cs, rfl, hc, harray, hobject, -⟩ := h.starts
  rw [readValue, List.cons_append, skipBlank_append_cons ha _ hc]
  split
  · rename_i heq
    exact absurd (List.cons.inj heq).1 harray
  · rename_i heq
    exact absurd (List.cons.inj heq).1 hobject
  · exact h.reads rest hr

theorem ends_comma (cs : List Char) : Ends (',' :: cs) :=
  ends_cons cs (by decide)

theorem ends_bracket (cs : List Char) : Ends (']' :: cs) :=
  ends_cons cs (by decide)

theorem ends_brace (cs : List Char) : Ends ('\x7d' :: cs) :=
  ends_cons cs (by decide)

-- Every level of a tree takes two units of fuel and every item or member one more, each of
-- them for at least one character.
mutual

theorem readValue_of_spells {tree : Tree} {cs : List Char} (h : Spells tree cs)
    {a rest : List Char} (ha : Blank a) (hr : Ends rest) {fuel : Nat}
    (hf : 2 * cs.length ≤ fuel) : readValue fuel (a ++ (cs ++ rest)) = some (tree, rest) := by
  have hpos : 0 < cs.length := by
    obtain ⟨c, cs', rfl, -⟩ := h.starts
    simp
  obtain ⟨fuel, rfl⟩ : ∃ n, fuel = n + 1 := ⟨fuel - 1, by omega⟩
  cases h with
  | scalar h => exact readValue_scalar h ha hr fuel
  | emptyArray =>
      simp only [List.cons_append, List.nil_append]
      rw [readValue, skipBlank_append_cons ha _ (by decide)]
      simp only [skipBlank_cons _ (show isBlank ']' = false by decide)]
  | emptyObject =>
      simp only [List.cons_append, List.nil_append]
      rw [readValue, skipBlank_append_cons ha _ (by decide)]
      simp only [skipBlank_cons _ (show isBlank '\x7d' = false by decide)]
  | @array items cs a' b h ha' hb =>
      have hitems : readItems fuel ([] ++ (cs ++ (b ++ ']' :: rest))) = some (items, rest) := by
        simp only [List.length_cons, List.length_append] at hf
        exact readItems_of_spells h blank_nil hb (by omega)
      obtain ⟨c, cs, rfl, hc, hbracket⟩ := h.starts
      simp only [List.cons_append, List.append_assoc, List.nil_append] at hitems ⊢
      rw [readValue, skipBlank_append_cons ha _ (by decide)]
      simp only [skipBlank_append_cons ha' _ hc]
      split
      · rename_i heq
        exact absurd (List.cons.inj heq).1 hbracket
      · rw [hitems]
        rfl
  | @object members cs a' b h ha' hb =>
      have hmembers : readMembers fuel ([] ++ (cs ++ (b ++ '\x7d' :: rest))) =
          some (members, rest) := by
        simp only [List.length_cons, List.length_append] at hf
        exact readMembers_of_spells h blank_nil hb (by omega)
      obtain ⟨cs, rfl⟩ := h.starts
      simp only [List.cons_append, List.append_assoc, List.nil_append] at hmembers ⊢
      rw [readValue, skipBlank_append_cons ha _ (by decide)]
      simp only [skipBlank_append_cons ha' _ (show isBlank '"' = false by decide)]
      split
      · rename_i heq
        exact absurd (List.cons.inj heq).1 (by decide)
      · rw [hmembers]
        rfl

theorem readItems_of_spells {items : List Tree} {cs : List Char} (h : SpellsItems items cs)
    {a b rest : List Char} (ha : Blank a) (hb : Blank b) {fuel : Nat}
    (hf : 2 * cs.length + 1 ≤ fuel) :
    readItems fuel (a ++ (cs ++ (b ++ ']' :: rest))) = some (items, rest) := by
  obtain ⟨fuel, rfl⟩ : ∃ n, fuel = n + 1 := ⟨fuel - 1, by omega⟩
  cases h with
  | last h =>
      have hvalue : readValue fuel (a ++ (cs ++ (b ++ ']' :: rest))) =
          some (_, b ++ ']' :: rest) :=
        readValue_of_spells h ha (hb.ends_append (ends_bracket rest)) (by omega)
      rw [readItems, hvalue]
      simp only [skipBlank_append_cons hb _ (show isBlank ']' = false by decide)]
  | @cons item items cs cs' b' h hs hb' =>
      simp only [List.length_cons, List.length_append] at hf
      have hvalue : readValue fuel (a ++ (cs ++ ',' :: (b' ++ (cs' ++ (b ++ ']' :: rest))))) =
          some (item, ',' :: (b' ++ (cs' ++ (b ++ ']' :: rest)))) :=
        readValue_of_spells h ha (ends_comma _) (by omega)
      have hitems : readItems fuel (b' ++ (cs' ++ (b ++ ']' :: rest))) = some (items, rest) :=
        readItems_of_spells hs hb' hb (by omega)
      simp only [List.cons_append, List.append_assoc]
      rw [readItems, hvalue]
      simp only [skipBlank_cons _ (show isBlank ',' = false by decide)]
      rw [hitems]
      rfl

theorem readMembers_of_spells {members : List (Option String × Tree)} {cs : List Char}
    (h : SpellsMembers members cs) {a b rest : List Char} (ha : Blank a) (hb : Blank b)
    {fuel : Nat} (hf : 2 * cs.length + 1 ≤ fuel) :
    readMembers fuel (a ++ (cs ++ (b ++ '\x7d' :: rest))) = some (members, rest) := by
  obtain ⟨fuel, rfl⟩ : ∃ n, fuel = n + 1 := ⟨fuel - 1, by omega⟩
  cases h with
  | @last name value ns cs b' hn h hb' =>
      simp only [List.length_cons, List.length_append] at hf
      have hvalue : readValue fuel (b' ++ (cs ++ (b ++ '\x7d' :: rest))) =
          some (value, b ++ '\x7d' :: rest) :=
        readValue_of_spells h hb' (hb.ends_append (ends_brace rest)) (by omega)
      simp only [List.cons_append, List.append_assoc]
      rw [readMembers, skipBlank_append_cons ha _ (by decide)]
      simp only [hn _, skipBlank_cons _ (show isBlank ':' = false by decide)]
      rw [hvalue]
      simp only [skipBlank_append_cons hb _ (show isBlank '\x7d' = false by decide)]
  | @cons name value members ns cs cs' b' b'' hn h hs hb' hb'' =>
      simp only [List.length_cons, List.length_append] at hf
      have hvalue : readValue fuel (b' ++ (cs ++ ',' :: (b'' ++ (cs' ++ (b ++ '\x7d' :: rest))))) =
          some (value, ',' :: (b'' ++ (cs' ++ (b ++ '\x7d' :: rest)))) :=
        readValue_of_spells h hb' (ends_comma _) (by omega)
      have hmembers : readMembers fuel (b'' ++ (cs' ++ (b ++ '\x7d' :: rest))) =
          some (members, rest) :=
        readMembers_of_spells hs hb'' hb (by omega)
      simp only [List.cons_append, List.append_assoc]
      rw [readMembers, skipBlank_append_cons ha _ (by decide)]
      simp only [hn _, skipBlank_cons _ (show isBlank ':' = false by decide)]
      rw [hvalue]
      simp only [skipBlank_cons _ (show isBlank ',' = false by decide)]
      rw [hmembers]
      rfl

end

theorem parse?_of_spells {tree : Tree} {text : String} (h : Spells tree text.toList) :
    Tree.parse? text = some tree := by
  have hvalue : readValue (2 * text.toList.length + 2) ([] ++ (text.toList ++ [])) =
      some (tree, []) :=
    readValue_of_spells h blank_nil ends_nil (by omega)
  simp only [List.nil_append, List.append_nil] at hvalue
  simp only [Tree.parse?, hvalue]
  rfl

end NameScout.Json
