import NameScout.Text.Blank

namespace NameScout.Text

variable {c d : Char} {cs : List Char}

theorem splitOn_eq_splitOnP (sep : Char → Bool) (cs : List Char) :
    splitOn sep cs = cs.splitOnP sep := by
  induction cs with
  | nil => rfl
  | cons c cs ih =>
      rw [List.splitOnP_cons_eq_if_modifyHead, splitOn, ih]
      cases h : cs.splitOnP sep with
      | nil => exact absurd h (List.splitOnP_ne_nil sep cs)
      | cons piece rest => rfl

theorem splitOn_eq (c : Char) (cs : List Char) : splitOn (· == c) cs = cs.splitOn c :=
  (splitOn_eq_splitOnP _ cs).trans (List.splitOn_eq_splitOnP ..).symm

theorem mem_splitOn {piece : List Char} (h : piece ∈ cs.splitOn c) :
    c ∉ piece ∧ ∀ d ∈ piece, d ∈ cs := by
  induction cs generalizing piece with
  | nil =>
      rw [List.mem_singleton.mp h]
      exact ⟨nofun, nofun⟩
  | cons x cs ih =>
      rw [List.splitOn_cons_eq_if_modifyHead] at h
      obtain ⟨first, rest, hsplit⟩ := List.exists_cons_of_ne_nil (List.splitOn_ne_nil c cs)
      rw [hsplit] at h ih
      split at h
      · rcases List.mem_cons.mp h with rfl | h
        · exact ⟨nofun, nofun⟩
        · exact (ih h).imp_right fun hmem d hd => List.mem_cons_of_mem x (hmem d hd)
      · rename_i hx
        rcases List.mem_cons.mp h with rfl | h
        · obtain ⟨hnot, hmem⟩ := ih List.mem_cons_self
          have hne : c ≠ x := fun heq => hx (beq_iff_eq.mpr heq.symm)
          exact ⟨List.not_mem_cons_of_ne_of_not_mem hne hnot,
            List.forall_mem_cons.mpr ⟨List.mem_cons_self, fun d hd =>
              List.mem_cons_of_mem x (hmem d hd)⟩⟩
        · exact (ih (List.mem_cons_of_mem first h)).imp_right fun hmem d hd =>
            List.mem_cons_of_mem x (hmem d hd)

theorem splitOnP_intercalate {sep : Char → Bool} (hc : sep c = true) {pieces : List (List Char)}
    (hne : pieces ≠ []) (h : ∀ piece ∈ pieces, ∀ d ∈ piece, sep d = false) :
    ([c].intercalate pieces).splitOnP sep = pieces := by
  induction pieces with
  | nil => exact absurd rfl hne
  | cons piece pieces ih =>
      obtain ⟨hpiece, hpieces⟩ := List.forall_mem_cons.mp h
      by_cases hnil : pieces = []
      · rw [hnil, List.intercalate_singleton, List.splitOnP_eq_singleton hpiece]
      · rw [List.intercalate_cons_of_ne_nil hnil, List.append_assoc, List.singleton_append,
          List.splitOnP_append_cons piece _ hc, List.splitOnP_eq_singleton hpiece,
          ih hnil hpieces]
        rfl

theorem mem_of_mem_intercalate {pieces : List (List Char)} (h : d ∈ [c].intercalate pieces) :
    d = c ∨ ∃ piece ∈ pieces, d ∈ piece := by
  induction pieces with
  | nil => cases h
  | cons piece pieces ih =>
      by_cases hnil : pieces = []
      · rw [hnil, List.intercalate_singleton] at h
        exact .inr ⟨piece, List.mem_cons_self, h⟩
      · rw [List.intercalate_cons_of_ne_nil hnil, List.mem_append, List.mem_append,
          List.mem_singleton] at h
        rcases h with (h | h) | h
        · exact .inr ⟨piece, List.mem_cons_self, h⟩
        · exact .inl h
        · exact (ih h).imp_right fun ⟨p, hp, hd⟩ => ⟨p, List.mem_cons_of_mem piece hp, hd⟩

theorem exists_pieces_iff {P : List (List Char) → Prop} (hne : ∀ pieces, P pieces → pieces ≠ [])
    (hP : ∀ pieces, P pieces → ∀ piece ∈ pieces, c ∉ piece) :
    (∃ pieces, P pieces ∧ cs = [c].intercalate pieces) ↔ P (cs.splitOn c) := by
  constructor
  · rintro ⟨pieces, hpieces, rfl⟩
    rw [List.splitOn_intercalate c (hP pieces hpieces) (hne pieces hpieces)]
    exact hpieces
  · intro h
    exact ⟨cs.splitOn c, h, (List.intercalate_splitOn c).symm⟩

theorem containsChars_pair_cons (c d : Char) (cs : List Char) :
    containsChars [c, c] (d :: cs) = true ↔
      (d = c ∧ cs.head? = some c) ∨ containsChars [c, c] cs = true := by
  rw [containsChars, Bool.or_eq_true]
  refine or_congr_left ?_
  rw [dropStart?]
  split
  · rename_i h
    cases cs with
    | nil => simp [dropStart?]
    | cons e cs =>
        rw [dropStart?]
        split <;> simp_all [dropStart?, eq_comm]
  · rename_i h
    exact iff_of_false Bool.false_ne_true fun hd => h hd.1.symm

theorem head_splitOn_eq_nil_iff (c : Char) (cs : List Char) :
    (cs.splitOn c).head? = some [] ↔ cs = [] ∨ cs.head? = some c := by
  cases cs with
  | nil => simp
  | cons d cs =>
      rw [List.splitOn_cons_eq_if_modifyHead]
      obtain ⟨first, rest, hsplit⟩ := List.exists_cons_of_ne_nil (List.splitOn_ne_nil c cs)
      rw [hsplit]
      split <;> simp_all

theorem getLast?_cons_eq_some_iff (c d : Char) (cs : List Char) : (d :: cs).getLast? = some c ↔
    (cs = [] ∧ d = c) ∨ cs.getLast? = some c := by
  cases cs with
  | nil => simp
  | cons e cs => simp [List.getLast?_cons]

theorem nil_mem_tail_splitOn_iff (c : Char) (cs : List Char) : [] ∈ (cs.splitOn c).tail ↔
    cs.getLast? = some c ∨ containsChars [c, c] cs = true := by
  induction cs with
  | nil => simp [containsChars]
  | cons d cs ih =>
      have hhead := head_splitOn_eq_nil_iff c cs
      obtain ⟨first, rest, hsplit⟩ := List.exists_cons_of_ne_nil (List.splitOn_ne_nil c cs)
      rw [List.splitOn_cons_eq_if_modifyHead, containsChars_pair_cons, getLast?_cons_eq_some_iff]
      rw [hsplit, List.tail_cons] at ih
      rw [hsplit, List.head?_cons, Option.some.injEq] at hhead
      rw [hsplit]
      by_cases hd : d = c
      · rw [if_pos (beq_iff_eq.mpr hd), List.tail_cons, List.mem_cons, ih, eq_comm, hhead]
        simp only [hd, and_true, true_and]
        exact or_or_or_comm
      · rw [if_neg fun heq => hd (beq_iff_eq.mp heq), List.modifyHead_cons, List.tail_cons, ih]
        simp only [hd, and_false, false_and, false_or]

theorem nil_mem_splitOn_iff (c : Char) (cs : List Char) : [] ∈ cs.splitOn c ↔
    cs = [] ∨ cs.head? = some c ∨ cs.getLast? = some c ∨ containsChars [c, c] cs = true := by
  have hhead := head_splitOn_eq_nil_iff c cs
  have htail := nil_mem_tail_splitOn_iff c cs
  obtain ⟨first, rest, hsplit⟩ := List.exists_cons_of_ne_nil (List.splitOn_ne_nil c cs)
  rw [hsplit, List.head?_cons, Option.some.injEq] at hhead
  rw [hsplit, List.tail_cons] at htail
  rw [hsplit, List.mem_cons, htail, eq_comm, hhead, or_assoc]

theorem cons_intercalate (c : Char) {pieces : List (List Char)} (hne : pieces ≠ []) :
    c :: [c].intercalate pieces = pieces.flatMap (c :: ·) := by
  induction pieces with
  | nil => exact absurd rfl hne
  | cons piece pieces ih =>
      by_cases hnil : pieces = []
      · simp [hnil]
      · rw [List.intercalate_cons_of_ne_nil hnil, List.append_assoc, List.singleton_append,
          ih hnil]
        rfl

section Replace

variable {new ps rest before after : List Char} {n : Nat}

theorem dropStart?_of_head_ne (h : c ≠ d) (ps cs : List Char) :
    dropStart? (c :: ps) (d :: cs) = none :=
  if_neg h

theorem replaceChars_append (h : c ∉ before) : replaceChars (c :: ps) new (before.length + n)
    (before ++ rest) = before ++ replaceChars (c :: ps) new n rest := by
  induction before with
  | nil => rw [List.length_nil, Nat.zero_add, List.nil_append, List.nil_append]
  | cons d before ih =>
      have hne : c ≠ d := fun heq => h (heq ▸ List.mem_cons_self)
      rw [List.length_cons, Nat.add_right_comm, List.cons_append, replaceChars,
        dropStart?_of_head_ne hne, ih fun hc => h (List.mem_cons_of_mem d hc)]
      rfl

theorem replaceChars_of_not_mem (n : Nat) (h : c ∉ cs) : replaceChars (c :: ps) new n cs = cs := by
  induction cs generalizing n with
  | nil => cases n <;> rfl
  | cons d cs ih =>
      have hne : c ≠ d := fun heq => h (heq ▸ List.mem_cons_self)
      cases n with
      | zero => rfl
      | succ n =>
          rw [replaceChars, dropStart?_of_head_ne hne, ih n fun hc => h (List.mem_cons_of_mem d hc)]

theorem replace_once {s pattern new : String} (hpattern : pattern.toList = c :: ps)
    (hs : s.toList = before ++ (pattern.toList ++ after)) (hbefore : c ∉ before)
    (hafter : c ∉ after) :
    replace s pattern new = String.ofList (before ++ (new.toList ++ after)) := by
  have hlength : s.toList.length = before.length + ((ps ++ after).length + 1) := by
    rw [hs, hpattern]
    simp
  have hdrop : dropStart? (c :: ps) (c :: (ps ++ after)) = some after :=
    dropStart?_append (c :: ps) after
  rw [replace, hlength, hs, hpattern, replaceChars_append hbefore, List.cons_append, replaceChars,
    hdrop]
  simp only [replaceChars_of_not_mem _ hafter]

end Replace

end NameScout.Text
