import NameScout.Text.Key

namespace NameScout.Text

section Trim

def Blanks (cs : List Char) : Prop :=
  ∀ c ∈ cs, isBlank c = true

structure Trimmed (cs : List Char) : Prop where
  head : ∀ c ∈ cs.head?, isBlank c = false
  last : ∀ c ∈ cs.getLast?, isBlank c = false

variable {before cs after : List Char}

theorem dropWhile_of_head (h : ∀ c ∈ cs.head?, isBlank c = false) :
    cs.dropWhile isBlank = cs := by
  cases cs with
  | nil => rfl
  | cons c cs => rw [List.dropWhile_cons_of_neg (by rw [h c rfl]; exact Bool.false_ne_true)]

theorem dropWhile_blanks (h : Blanks cs) : cs.dropWhile isBlank = [] := by
  rw [← List.append_nil cs, List.dropWhile_append_of_pos h]
  rfl

theorem trimEnd_append (ha : Blanks after) (hlast : ∀ c ∈ cs.getLast?, isBlank c = false) :
    trimEnd (cs ++ after) = cs := by
  have hback : ∀ c ∈ cs.reverse.head?, isBlank c = false := by
    rw [List.head?_reverse]
    exact hlast
  rw [trimEnd, List.reverse_append, List.dropWhile_append_of_pos (by simpa [Blanks] using ha),
    dropWhile_of_head hback, List.reverse_reverse]

theorem trimChars_append (hb : Blanks before) (ha : Blanks after) (hcs : Trimmed cs) :
    trimChars (before ++ cs ++ after) = cs := by
  rw [trimChars, trimStart, List.append_assoc, List.dropWhile_append_of_pos hb]
  cases cs with
  | nil =>
      rw [List.nil_append, dropWhile_blanks ha]
      rfl
  | cons c cs =>
      have hdrop : (c :: cs ++ after).dropWhile isBlank = c :: cs ++ after :=
        dropWhile_of_head hcs.head
      rw [hdrop]
      exact trimEnd_append ha hcs.last

theorem trimmed_of_no_blank (h : ∀ c ∈ cs, isBlank c = false) : Trimmed cs :=
  ⟨fun c hc => h c (List.mem_of_mem_head? hc), fun c hc => h c (List.mem_of_getLast? hc)⟩

theorem trimChars_of_no_blank (h : ∀ c ∈ cs, isBlank c = false) : trimChars cs = cs := by
  have hnone : Blanks [] := nofun
  simpa using trimChars_append hnone hnone (trimmed_of_no_blank h)

theorem blanks_takeWhile (cs : List Char) : Blanks (cs.takeWhile isBlank) := by
  induction cs with
  | nil => exact nofun
  | cons c cs ih =>
      rw [List.takeWhile_cons]
      split
      · rename_i hc
        intro d hd
        rcases List.mem_cons.mp hd with rfl | hd
        · exact hc
        · exact ih d hd
      · exact nofun

theorem exists_trimEnd (cs : List Char) : ∃ after, cs = trimEnd cs ++ after ∧ Blanks after := by
  have hback := List.takeWhile_append_dropWhile (p := isBlank) (l := cs.reverse)
  refine ⟨(cs.reverse.takeWhile isBlank).reverse, ?_,
    fun c hc => blanks_takeWhile _ c (List.mem_reverse.mp hc)⟩
  rw [trimEnd, ← List.reverse_append, hback, List.reverse_reverse]

theorem exists_trim (cs : List Char) :
    ∃ before after, cs = before ++ trimChars cs ++ after ∧ Blanks before ∧ Blanks after := by
  have hstart := List.takeWhile_append_dropWhile (p := isBlank) (l := cs)
  obtain ⟨after, hend, hafter⟩ := exists_trimEnd (trimStart cs)
  refine ⟨cs.takeWhile isBlank, after, ?_, blanks_takeWhile cs, hafter⟩
  rw [trimChars, List.append_assoc, ← hend]
  exact hstart.symm

end Trim

section Plain

def IsPlain (c : Char) : Prop :=
  c.toNat < 128 ∧ isBlank c = false

theorem isPlain_iff (c : Char) :
    IsPlain c ↔ c.toNat < 128 ∧ ¬ (9 ≤ c.toNat ∧ c.toNat ≤ 13) ∧ c.toNat ≠ 32 := by
  simp only [IsPlain, isBlank, Bool.or_eq_false_iff, Bool.and_eq_false_iff, beq_eq_false_iff_ne,
    decide_eq_false_iff_not]
  omega

theorem toNat_toLower (c : Char) : c.toLower.toNat =
    if 65 ≤ c.toNat ∧ c.toNat ≤ 90 then c.toNat + 32 else c.toNat := by
  by_cases h : 'A'.val ≤ c.val ∧ c.val ≤ 'Z'.val
  · have hcapital : 65 ≤ c.toNat ∧ c.toNat ≤ 90 := h
    have hlower : c.toLower = _ := dif_pos h
    have hval : c.toLower.toNat = (c.val + ('a'.val - 'A'.val)).toNat := congrArg Char.toNat hlower
    have hgap : ('a'.val - 'A'.val).toNat = 32 := rfl
    have hle : c.val.toNat ≤ 90 := h.2
    rw [if_pos hcapital, hval, UInt32.toNat_add, hgap, Nat.mod_eq_of_lt (by omega)]
    rfl
  · have hother : ¬ (65 ≤ c.toNat ∧ c.toNat ≤ 90) := h
    have hlower : c.toLower = _ := dif_neg h
    rw [if_neg hother, hlower]

theorem IsPlain.toLower {c : Char} (h : IsPlain c) : IsPlain c.toLower := by
  rw [isPlain_iff] at h ⊢
  rw [toNat_toLower]
  split <;> omega

theorem toLower_toLower (c : Char) : c.toLower.toLower = c.toLower := by
  have hnat : c.toLower.toLower.toNat = c.toLower.toNat := by
    rw [toNat_toLower c.toLower, toNat_toLower c]
    split
    · rw [if_neg (by omega)]
    · rfl
  exact Char.toNat_inj.mp hnat

theorem toLower_of_not_capital {c : Char} (h : ¬ (65 ≤ c.toNat ∧ c.toNat ≤ 90)) :
    c.toLower = c := by
  have hnat := toNat_toLower c
  rw [if_neg h] at hnat
  exact Char.toNat_inj.mp hnat

theorem toLower_ne {c d : Char} (h : c ≠ d) (hd : ¬ (97 ≤ d.toNat ∧ d.toNat ≤ 122)) :
    c.toLower ≠ d := by
  rintro rfl
  rw [toNat_toLower] at hd
  split at hd
  · omega
  · rename_i hcapital
    exact h (toLower_of_not_capital hcapital).symm

theorem lowerFrom_of_ascii {before cs : List Char} (h : ∀ c ∈ cs, c.toNat < 128) :
    lowerFrom before cs = cs.map Char.toLower := by
  induction cs generalizing before with
  | nil => rfl
  | cons c cs ih =>
      have hc := h c List.mem_cons_self
      have hsigma : c ≠ capitalSigma := by
        rintro rfl
        exact absurd hc (by decide)
      rw [lowerFrom, if_neg hsigma, lowerChar, if_pos hc, List.map_cons,
        ih fun d hd => h d (List.mem_cons_of_mem c hd)]
      rfl

theorem dropDot_of_head {cs : List Char} (h : ∀ c ∈ cs.head?, c ≠ '.') : dropDot cs = cs := by
  cases cs with
  | nil => rfl
  | cons c cs =>
      unfold dropDot
      split
      · rename_i heq
        cases heq
        exact absurd rfl (h '.' rfl)
      · rfl

theorem normalizeKey_of_plain {s : String} (h : ∀ c ∈ s.toList, IsPlain c)
    (hdot : ∀ c ∈ s.toList.head?, c ≠ '.') : normalizeKey s = lowerAscii s := by
  have htrim := trimChars_of_no_blank fun c hc => (h c hc).2
  rw [normalizeKey, keyChars, htrim, dropDot_of_head hdot, htrim, lowerChars,
    lowerFrom_of_ascii fun c hc => (h c hc).1, lowerAscii]

theorem shift_lowerRuns : ∀ run ∈ lowerRuns, run.last < 128 ∨ 91 ≤ run.first + run.shift := by
  decide +kernel

theorem toNat_ofNat (n : Nat) : (Char.ofNat n).toNat = n ∨ (Char.ofNat n).toNat = 0 := by
  by_cases h : n.isValidChar
  · have hchar : Char.ofNat n = Char.ofNatAux n h := dif_pos h
    refine .inl ?_
    rw [hchar]
    rfl
  · have hchar : Char.ofNat n = ⟨0, .inl (by decide)⟩ := dif_neg h
    refine .inr ?_
    rw [hchar]
    rfl

theorem exists_run_of_image? {c d : Char} (h : Run.image? lowerRuns c = some d) :
    ∃ run ∈ lowerRuns, run.contains c.toNat = true ∧
      d = Char.ofNat (c.toNat + run.shift).toNat := by
  rw [Run.image?] at h
  split at h
  · rename_i run hfind
    have hcontains := List.find?_some hfind
    exact ⟨run, List.mem_of_find?_eq_some hfind, hcontains, (Option.some.inj h).symm⟩
  · cases h

theorem Run.contains_iff (run : Run) (n : Nat) : run.contains n = true ↔
    run.first ≤ n ∧ n ≤ run.last ∧ (n - run.first) % run.step = 0 := by
  simp only [Run.contains, Bool.and_eq_true, decide_eq_true_eq, beq_iff_eq, and_assoc]

theorem not_capital_image {c d : Char} (hc : 128 ≤ c.toNat) (h : Run.image? lowerRuns c = some d) :
    ¬ (65 ≤ d.toNat ∧ d.toNat ≤ 90) := by
  obtain ⟨run, hrun, hcontains, rfl⟩ := exists_run_of_image? h
  obtain ⟨hfirst, hlast, -⟩ := (run.contains_iff c.toNat).mp hcontains
  have hshift := shift_lowerRuns run hrun
  have himage := toNat_ofNat (c.toNat + run.shift).toNat
  omega

theorem not_capital_lowerChar {c d : Char} (h : d ∈ lowerChar c) :
    ¬ (65 ≤ d.toNat ∧ d.toNat ≤ 90) := by
  rw [lowerChar] at h
  split at h
  · rw [List.mem_singleton.mp h, toNat_toLower]
    split <;> omega
  · rename_i hc
    split at h
    · simp only [List.mem_cons, List.not_mem_nil, or_false] at h
      rcases h with rfl | rfl <;> decide
    · rw [List.mem_singleton.mp h]
      cases himage : Run.image? lowerRuns c with
      | none =>
          rw [Option.getD_none]
          omega
      | some d =>
          rw [Option.getD_some]
          exact not_capital_image (by omega) himage

theorem not_capital_lowerFrom {before cs : List Char} {d : Char} (h : d ∈ lowerFrom before cs) :
    ¬ (65 ≤ d.toNat ∧ d.toNat ≤ 90) := by
  induction cs generalizing before with
  | nil => cases h
  | cons c cs ih =>
      rw [lowerFrom] at h
      rcases List.mem_append.mp h with h | h
      · split at h
        · rw [List.mem_singleton.mp h]
          split <;> decide
        · exact not_capital_lowerChar h
      · exact ih h

theorem lowerAscii_normalizeKey (s : String) : lowerAscii (normalizeKey s) = normalizeKey s := by
  have hmap : (keyChars s.toList).map Char.toLower = keyChars s.toList :=
    (List.map_congr_left fun d hd => toLower_of_not_capital (not_capital_lowerFrom hd)).trans
      (List.map_id _)
  rw [lowerAscii, normalizeKey, String.toList_ofList, hmap]

end Plain

section Lower

variable {cs : List Char}

theorem inRanges_small (n : Nat) (h : 65 ≤ n ∧ n ≤ 90) :
    inRanges casedRanges (n + 32) = inRanges casedRanges n ∧
      inRanges ignorableRanges (n + 32) = inRanges ignorableRanges n ∧
        inRanges nonspacingRanges (n + 32) = inRanges nonspacingRanges n := by
  have hall : ∀ k : Fin 26, inRanges casedRanges (k + 65 + 32) = inRanges casedRanges (k + 65) ∧
      inRanges ignorableRanges (k + 65 + 32) = inRanges ignorableRanges (k + 65) ∧
        inRanges nonspacingRanges (k + 65 + 32) = inRanges nonspacingRanges (k + 65) := by
    decide +kernel
  obtain ⟨k, rfl⟩ := Nat.exists_eq_add_of_le' h.1
  exact hall ⟨k, by omega⟩

theorem isCased_toLower (c : Char) : isCased c.toLower = isCased c := by
  rw [isCased, isCased, toNat_toLower]
  split
  · rename_i h
    exact (inRanges_small c.toNat h).1
  · rfl

theorem isCaseIgnorable_toLower (c : Char) : isCaseIgnorable c.toLower = isCaseIgnorable c := by
  rw [isCaseIgnorable, isCaseIgnorable, toNat_toLower]
  split
  · rename_i h
    obtain ⟨-, hignorable, hnonspacing⟩ := inRanges_small c.toNat h
    rw [hignorable, hnonspacing]
  · rfl

theorem isBlank_toLower (c : Char) : isBlank c.toLower = isBlank c := by
  by_cases h : 65 ≤ c.toNat ∧ c.toNat ≤ 90
  · have hplain : IsPlain c := (isPlain_iff c).mpr (by omega)
    rw [hplain.2, hplain.toLower.2]
  · rw [toLower_of_not_capital h]

theorem dropWhile_map_toLower {p : Char → Bool} (hp : ∀ c, p c.toLower = p c) (cs : List Char) :
    (cs.map Char.toLower).dropWhile p = (cs.dropWhile p).map Char.toLower := by
  have hsame : p ∘ Char.toLower = p := funext hp
  rw [List.dropWhile_map, hsame]

theorem meetsCased_map_toLower (cs : List Char) :
    meetsCased (cs.map Char.toLower) = meetsCased cs := by
  rw [meetsCased, meetsCased, dropWhile_map_toLower isCaseIgnorable_toLower]
  cases cs.dropWhile isCaseIgnorable with
  | nil => rfl
  | cons c cs => exact isCased_toLower c

theorem lowerChar_toLower (c : Char) : lowerChar c.toLower = lowerChar c := by
  by_cases h : 65 ≤ c.toNat ∧ c.toNat ≤ 90
  · have hsmall : c.toLower.toNat < 128 := by
      rw [toNat_toLower, if_pos h]
      omega
    have hcapital : c.toNat < 128 := by omega
    rw [lowerChar, lowerChar, if_pos hsmall, if_pos hcapital, toLower_toLower]
  · rw [toLower_of_not_capital h]

theorem lowerFrom_map_toLower (before cs : List Char) :
    lowerFrom (before.map Char.toLower) (cs.map Char.toLower) = lowerFrom before cs := by
  induction cs generalizing before with
  | nil => rfl
  | cons c cs ih =>
      rw [List.map_cons, lowerFrom, lowerFrom, ← List.map_cons, ih, meetsCased_map_toLower,
        meetsCased_map_toLower, lowerChar_toLower]
      by_cases hc : c = capitalSigma
      · rw [hc]
        rfl
      · rw [if_neg hc, if_neg (toLower_ne hc (by decide))]

theorem trimChars_map_toLower (cs : List Char) :
    trimChars (cs.map Char.toLower) = (trimChars cs).map Char.toLower := by
  rw [trimChars, trimChars, trimStart, trimStart, trimEnd, trimEnd,
    dropWhile_map_toLower isBlank_toLower, ← List.map_reverse,
    dropWhile_map_toLower isBlank_toLower, List.map_reverse]

theorem dropDot_map_toLower (cs : List Char) :
    dropDot (cs.map Char.toLower) = (dropDot cs).map Char.toLower := by
  cases cs with
  | nil => rfl
  | cons c cs =>
      by_cases hc : c = '.'
      · rw [hc]
        rfl
      · rw [dropDot_of_head, dropDot_of_head]
        · exact fun d hd => Option.some.inj hd ▸ hc
        · exact fun d hd => Option.some.inj hd ▸ toLower_ne hc (by decide)

theorem normalizeKey_lowerAscii (s : String) : normalizeKey (lowerAscii s) = normalizeKey s := by
  rw [normalizeKey, normalizeKey, lowerAscii, String.toList_ofList, keyChars, keyChars,
    trimChars_map_toLower, dropDot_map_toLower, trimChars_map_toLower]
  exact congrArg String.ofList (lowerFrom_map_toLower [] _)

end Lower

section Split

variable {sep : Char → Bool} {cs before after : List Char}

theorem splitOn_of_splitFirst? (h : splitFirst? sep cs = some (before, after)) :
    splitOn sep cs = before :: splitOn sep after := by
  induction cs generalizing before with
  | nil => cases h
  | cons c cs ih =>
      rw [splitFirst?] at h
      rw [splitOn]
      split at h
      · rename_i hc
        cases h
        rw [if_pos hc]
      · rename_i hc
        obtain ⟨⟨before', after'⟩, hrest, heq⟩ := Option.map_eq_some_iff.mp h
        cases heq
        rw [if_neg hc, ih hrest]

theorem splitOn_of_splitFirst?_eq_none (h : splitFirst? sep cs = none) :
    splitOn sep cs = [cs] := by
  induction cs with
  | nil => rfl
  | cons c cs ih =>
      rw [splitFirst?] at h
      rw [splitOn]
      split at h
      · cases h
      · rename_i hc
        rw [if_neg hc, ih (Option.map_eq_none_iff.mp h)]

theorem splitFirst?_append {c : Char} (hbefore : ∀ d ∈ before, sep d = false) (hc : sep c = true) :
    splitFirst? sep (before ++ c :: after) = some (before, after) := by
  induction before with
  | nil => exact if_pos hc
  | cons d before ih =>
      have hd := hbefore d List.mem_cons_self
      rw [List.cons_append, splitFirst?, if_neg (by simp [hd]),
        ih fun e he => hbefore e (List.mem_cons_of_mem d he)]
      rfl

theorem splitFirst?_eq_none (h : ∀ c ∈ cs, sep c = false) : splitFirst? sep cs = none := by
  induction cs with
  | nil => rfl
  | cons c cs ih =>
      rw [splitFirst?, if_neg (by simp [h c List.mem_cons_self]),
        ih fun d hd => h d (List.mem_cons_of_mem c hd)]
      rfl

theorem mem_piece_of_splitOn (sep : Char → Bool) {c : Char} (h : c ∈ cs) :
    sep c = true ∨ ∃ piece ∈ splitOn sep cs, c ∈ piece := by
  induction cs with
  | nil => cases h
  | cons d cs ih =>
      by_cases hsep : sep c = true
      · exact .inl hsep
      refine .inr ?_
      rw [splitOn]
      rcases List.mem_cons.mp h with rfl | h
      · rw [if_neg hsep]
        split
        · exact ⟨[c], List.mem_cons_self, List.mem_cons_self⟩
        · exact ⟨_, List.mem_cons_self, List.mem_cons_self⟩
      · obtain ⟨piece, hpiece, hc⟩ := (ih h).resolve_left hsep
        split
        · exact ⟨piece, List.mem_cons_of_mem _ hpiece, hc⟩
        · split
          · rename_i hnil
            exact absurd hnil (splitOn_ne_nil sep cs)
          · rename_i first rest hsplit
            rw [hsplit] at hpiece
            rcases List.mem_cons.mp hpiece with rfl | hpiece
            · exact ⟨_, List.mem_cons_self, List.mem_cons_of_mem d hc⟩
            · exact ⟨piece, List.mem_cons_of_mem _ hpiece, hc⟩

end Split

end NameScout.Text
