import NameScout.Proofs.Text.Key

namespace NameScout.Text

section Trim

variable {front cs : List Char} {c : Char}

theorem head?_dropWhile_isBlank (cs : List Char) :
    ∀ c ∈ (cs.dropWhile isBlank).head?, isBlank c = false := by
  intro c hc
  have hhead := List.head?_dropWhile_not isBlank cs
  rw [hc] at hhead
  exact hhead

theorem getLast?_trimEnd (cs : List Char) : ∀ c ∈ (trimEnd cs).getLast?, isBlank c = false := by
  rw [trimEnd, List.getLast?_reverse]
  exact head?_dropWhile_isBlank cs.reverse

theorem trimEnd_append_cons (hc : isBlank c = false) :
    trimEnd (front ++ c :: cs) = front ++ c :: trimEnd cs := by
  obtain ⟨after, hcs, hafter⟩ := exists_trimEnd cs
  have hlast : ∀ d ∈ (front ++ c :: trimEnd cs).getLast?, isBlank d = false := by
    intro d hd
    rw [List.getLast?_append, List.getLast?_cons, Option.some_or] at hd
    cases hend : (trimEnd cs).getLast? with
    | none =>
        rw [hend] at hd
        obtain rfl : c = d := Option.some.inj hd
        exact hc
    | some e =>
        rw [hend] at hd
        obtain rfl : e = d := Option.some.inj hd
        exact getLast?_trimEnd cs e hend
  have hwhole : front ++ c :: cs = front ++ c :: trimEnd cs ++ after := by
    rw [List.append_assoc, List.cons_append, ← hcs]
  rw [hwhole, trimEnd_append hafter hlast]

theorem trimChars_blanks_append (hfront : Blanks front) :
    trimChars (front ++ cs) = trimChars cs := by
  rw [trimChars, trimStart, List.dropWhile_append_of_pos hfront]
  rfl

theorem trimEnd_cons (hc : isBlank c = false) : trimEnd (c :: cs) = c :: trimEnd cs :=
  @trimEnd_append_cons [] cs c hc

theorem trimChars_cons (hc : isBlank c = false) : trimChars (c :: cs) = c :: trimEnd cs := by
  have hstart : trimStart (c :: cs) = c :: cs :=
    dropWhile_of_head fun d hd => by cases hd; exact hc
  rw [trimChars, hstart, trimEnd_cons hc]

theorem trimmed_trimChars (cs : List Char) : Trimmed (trimChars cs) := by
  refine ⟨?_, getLast?_trimEnd _⟩
  have hstart := head?_dropWhile_isBlank cs
  rw [trimChars, trimStart]
  cases hcs : cs.dropWhile isBlank with
  | nil =>
      intro d hd
      cases hd
  | cons c rest =>
      rw [hcs] at hstart
      have hc := hstart c rfl
      rw [trimEnd_cons hc]
      intro d hd
      cases hd
      exact hc

theorem trimChars_of_trimmed (h : Trimmed cs) : trimChars cs = cs := by
  have hnone : Blanks [] := nofun
  simpa using trimChars_append hnone hnone h

theorem trimStart_append_cons (hc : isBlank c = false) :
    trimStart (front ++ c :: cs) = trimStart front ++ c :: cs := by
  have hdrop := List.takeWhile_append_dropWhile (p := isBlank) (l := front)
  rw [trimStart, ← hdrop, List.append_assoc, List.dropWhile_append_of_pos (blanks_takeWhile front),
    hdrop, trimStart]
  refine dropWhile_of_head fun d hd => ?_
  cases hfront : front.dropWhile isBlank with
  | nil =>
      rw [hfront] at hd
      cases hd
      exact hc
  | cons e rest =>
      rw [hfront] at hd
      refine head?_dropWhile_isBlank front d ?_
      rw [hfront]
      exact hd

theorem trimChars_append_cons (hc : isBlank c = false) :
    trimChars (front ++ c :: cs) = trimStart front ++ c :: trimEnd cs := by
  rw [trimChars, trimStart_append_cons hc, trimEnd_append_cons hc]

theorem trimChars_trimStart (cs : List Char) : trimChars (trimStart cs) = trimChars cs := by
  rw [trimChars, trimChars, trimStart, trimStart, dropWhile_of_head (head?_dropWhile_isBlank cs)]

theorem trimEnd_append_blanks {after : List Char} (h : Blanks after) (cs : List Char) :
    trimEnd (cs ++ after) = trimEnd cs := by
  obtain ⟨rest, hcs, hrest⟩ := exists_trimEnd cs
  have hblanks : Blanks (rest ++ after) := fun c hc =>
    (List.mem_append.mp hc).elim (hrest c) (h c)
  have hsplit : cs ++ after = trimEnd cs ++ (rest ++ after) := by
    rw [← List.append_assoc, ← hcs]
  rw [hsplit, trimEnd_append hblanks (getLast?_trimEnd cs)]

theorem trimChars_append_blanks {after : List Char} (h : Blanks after) (cs : List Char) :
    trimChars (cs ++ after) = trimChars cs := by
  cases hstart : cs.dropWhile isBlank with
  | nil =>
      have hcs : Blanks cs := by
        have hdrop := List.takeWhile_append_dropWhile (p := isBlank) (l := cs)
        rw [hstart, List.append_nil] at hdrop
        rw [← hdrop]
        exact blanks_takeWhile cs
      rw [trimChars_blanks_append hcs, trimChars, trimChars, trimStart, trimStart,
        dropWhile_blanks h, hstart]
  | cons c rest =>
      have hdrop : (cs ++ after).dropWhile isBlank = cs.dropWhile isBlank ++ after := by
        rw [List.dropWhile_append, hstart]
        rfl
      rw [trimChars, trimStart, hdrop, trimEnd_append_blanks h]
      rfl

theorem trimChars_trimEnd (cs : List Char) : trimChars (trimEnd cs) = trimChars cs := by
  obtain ⟨after, hcs, hafter⟩ := exists_trimEnd cs
  have htrim := trimChars_append_blanks hafter (trimEnd cs)
  rw [← hcs] at htrim
  exact htrim.symm

theorem trimChars_eq_nil_iff : trimChars cs = [] ↔ Blanks cs := by
  constructor
  · intro h
    obtain ⟨before, after, hcs, hbefore, hafter⟩ := exists_trim cs
    rw [h, List.append_nil] at hcs
    rw [hcs]
    exact fun c hc => (List.mem_append.mp hc).elim (hbefore c) (hafter c)
  · intro h
    rw [trimChars, trimStart, dropWhile_blanks h]
    rfl

end Trim

section Lower

namespace Run

def lowest (r : Run) : Nat :=
  (r.first + r.shift).toNat

def highest (r : Run) : Nat :=
  (r.last + r.shift).toNat

def misses (r q : Run) : Bool :=
  Nat.blt r.highest q.first || Nat.blt q.last r.lowest
    || (q.step == 2 && (r.step == 2 || r.first == r.last) && (r.lowest + q.first) % 2 == 1)

end Run

theorem misses_lowerRuns :
    (lowerRuns.all fun r => lowerRuns.all fun q => r.misses q) = true := by
  decide +kernel

/-- White space and the dot, which no lower case comes from or leads to. -/
def keptRanges : List (Nat × Nat) :=
  [(9, 13), (32, 32), (46, 46), (0x85, 0x85), (0xA0, 0xA0), (0x1680, 0x1680), (0x2000, 0x200A),
    (0x2028, 0x2029), (0x202F, 0x202F), (0x205F, 0x205F), (0x3000, 0x3000)]

def IsKept (c : Char) : Prop :=
  inRanges keptRanges c.toNat = true

instance (c : Char) : Decidable (IsKept c) :=
  inferInstanceAs (Decidable (_ = true))

theorem isKept_iff (c : Char) : IsKept c ↔ isBlank c = true ∨ c = '.' := by
  have hdot : c = '.' ↔ c.toNat = 46 := Char.toNat_inj.symm
  rw [hdot, IsKept]
  simp only [inRanges, keptRanges, List.any_cons, List.any_nil, isBlank, Bool.or_eq_true,
    Bool.and_eq_true, decide_eq_true_eq, beq_iff_eq, Bool.false_eq_true, or_false]
  omega

theorem keptRanges_lowerRuns : ∀ r ∈ lowerRuns, ∀ kept ∈ keptRanges,
    (kept.2 < r.first ∨ r.last < kept.1) ∧ (kept.2 < r.lowest ∨ r.highest < kept.1) := by
  decide +kernel

theorem images_lowerRuns : ∀ r ∈ lowerRuns, 0 ≤ r.first + r.shift ∧
    (r.highest < 0x130 ∨ (0x130 < r.lowest ∧ r.highest < 0xD800) ∨
      (0xDFFF < r.lowest ∧ r.highest < 0x110000)) := by
  decide +kernel

section Image

variable {c d : Char}

theorem exists_image (h : Run.image? lowerRuns c = some d) :
    ∃ run ∈ lowerRuns, run.contains c.toNat = true ∧ (d.toNat : Int) = c.toNat + run.shift := by
  obtain ⟨run, hrun, hcontains, rfl⟩ := exists_run_of_image? h
  obtain ⟨hfirst, hlast, -⟩ := (run.contains_iff c.toNat).mp hcontains
  obtain ⟨hpos, hrange⟩ := images_lowerRuns run hrun
  simp only [Run.lowest, Run.highest] at hrange
  have hvalid : (c.toNat + run.shift).toNat.isValidChar := by
    rw [Nat.isValidChar]
    omega
  have hchar : Char.ofNat (c.toNat + run.shift).toNat = Char.ofNatAux _ hvalid := dif_pos hvalid
  refine ⟨run, hrun, hcontains, ?_⟩
  have hnat : (Char.ofNatAux _ hvalid).toNat = (c.toNat + run.shift).toNat := rfl
  rw [hchar, hnat]
  omega

theorem not_contains_image (h : Run.image? lowerRuns c = some d) {q : Run} (hq : q ∈ lowerRuns) :
    q.contains d.toNat = false := by
  obtain ⟨run, hrun, hcontains, hd⟩ := exists_image h
  obtain ⟨hfirst, hlast, hstep⟩ := (run.contains_iff c.toNat).mp hcontains
  have hpos := (images_lowerRuns run hrun).1
  have hmisses := List.all_eq_true.mp (List.all_eq_true.mp misses_lowerRuns run hrun) q hq
  simp only [Run.misses, Run.lowest, Run.highest, Bool.or_eq_true, Bool.and_eq_true, Nat.blt_eq,
    beq_iff_eq] at hmisses
  rw [← Bool.not_eq_true, q.contains_iff]
  rintro ⟨hqfirst, hqlast, hqstep⟩
  rcases hmisses with (hhigh | hlow) | ⟨⟨htwo, halternate | hsingle⟩, hparity⟩
  · omega
  · omega
  -- A run of every other character has its images on the characters in between.
  · rw [htwo] at hqstep
    rw [halternate] at hstep
    omega
  · rw [htwo] at hqstep
    omega

theorem image?_image (h : Run.image? lowerRuns c = some d) : Run.image? lowerRuns d = none := by
  cases himage : Run.image? lowerRuns d with
  | none => rfl
  | some e =>
      obtain ⟨q, hq, hcontains, -⟩ := exists_run_of_image? himage
      cases hcontains.symm.trans (not_contains_image h hq)

end Image

structure IsSmall (c : Char) : Prop where
  ne_sigma : c ≠ capitalSigma
  lowerChar_eq : lowerChar c = [c]

structure LowerOf (c d : Char) : Prop where
  small : IsSmall d
  kept : d = c ∨ (¬ IsKept c ∧ ¬ IsKept d)

section Lowered

variable {before cs : List Char} {c d : Char}

theorem not_isKept_of_image (h : Run.image? lowerRuns c = some d) : ¬ IsKept c ∧ ¬ IsKept d := by
  obtain ⟨run, hrun, hcontains, hd⟩ := exists_image h
  obtain ⟨hfirst, hlast, -⟩ := (run.contains_iff c.toNat).mp hcontains
  have hapart := keptRanges_lowerRuns run hrun
  simp only [Run.lowest, Run.highest] at hapart
  simp only [IsKept, inRanges, List.any_eq_true, Bool.and_eq_true, decide_eq_true_eq, not_exists,
    not_and]
  refine ⟨fun kept hkept hc => ?_, fun kept hkept hd => ?_⟩
  · have := hapart kept hkept
    omega
  · have := hapart kept hkept
    omega

theorem ne_sigma_of_image (h : Run.image? lowerRuns c = some d) : d ≠ capitalSigma := by
  have hsigma : ∃ run ∈ lowerRuns, run.contains capitalSigma.toNat = true := by decide +kernel
  obtain ⟨run, hrun, hcontains⟩ := hsigma
  rintro rfl
  cases hcontains.symm.trans (not_contains_image h hrun)

theorem ne_turkish_of_image (h : Run.image? lowerRuns c = some d) : d ≠ 'İ' := by
  obtain ⟨run, hrun, hcontains, hd⟩ := exists_image h
  obtain ⟨hfirst, hlast, -⟩ := (run.contains_iff c.toNat).mp hcontains
  have hrange := images_lowerRuns run hrun
  simp only [Run.lowest, Run.highest] at hrange
  rintro rfl
  have hnat : 'İ'.toNat = 0x130 := rfl
  omega

theorem toLower_image (h : Run.image? lowerRuns c = some d) : d.toLower = d := by
  have hcapitals : Run.mk 0x41 0x5A 1 32 ∈ lowerRuns := List.mem_cons_self
  refine toLower_of_not_capital fun hcapital => ?_
  have hcontains := (Run.contains_iff ⟨0x41, 0x5A, 1, 32⟩ d.toNat).mpr
    ⟨hcapital.1, hcapital.2, Nat.mod_one _⟩
  cases hcontains.symm.trans (not_contains_image h hcapitals)

theorem lowerOf_image (h : Run.image? lowerRuns c = some d) : LowerOf c d := by
  refine ⟨⟨ne_sigma_of_image h, ?_⟩, .inr (not_isKept_of_image h)⟩
  rw [lowerChar]
  split
  · rw [toLower_image h]
  · rw [if_neg (ne_turkish_of_image h), image?_image h, Option.getD_none]

theorem IsPlain.not_isKept (h : IsPlain c) (hdot : c ≠ '.') : ¬ IsKept c := by
  rw [isKept_iff, h.2]
  exact fun hkept => hkept.elim Bool.false_ne_true hdot

theorem lowerOf_toLower (hc : c.toNat < 0x80) : LowerOf c c.toLower := by
  have hnat := toNat_toLower c
  have hlow : c.toLower.toNat < 0x80 := by
    rw [hnat]
    split <;> omega
  refine ⟨⟨?_, ?_⟩, ?_⟩
  · intro hsigma
    rw [hsigma] at hlow
    exact absurd hlow (by decide)
  · rw [lowerChar, if_pos hlow, toLower_toLower]
  · by_cases hcapital : 65 ≤ c.toNat ∧ c.toNat ≤ 90
    · have hplain : IsPlain c := (isPlain_iff c).mpr (by omega)
      have hdot : c ≠ '.' := by
        rintro rfl
        exact absurd hcapital (by decide)
      exact .inr ⟨hplain.not_isKept hdot, hplain.toLower.not_isKept (toLower_ne hdot (by decide))⟩
    · exact .inl (toLower_of_not_capital hcapital)

theorem lowerOf_of_mem_lowerChar (hc : c ≠ capitalSigma) (h : d ∈ lowerChar c) : LowerOf c d := by
  rw [lowerChar] at h
  split at h
  · rename_i hlow
    rw [List.mem_singleton.mp h]
    exact lowerOf_toLower hlow
  · rename_i hlow
    split at h
    · rename_i hturkish
      subst hturkish
      simp only [List.mem_cons, List.not_mem_nil, or_false] at h
      rcases h with rfl | rfl
      · exact ⟨⟨by decide, by decide⟩, .inr (by decide +kernel)⟩
      · exact ⟨⟨by decide, by decide +kernel⟩, .inr (by decide +kernel)⟩
    · rename_i hne
      rw [List.mem_singleton] at h
      cases himage : Run.image? lowerRuns c with
      | none =>
          rw [himage, Option.getD_none] at h
          subst h
          have hsame : lowerChar d = [d] := by
            rw [lowerChar, if_neg hlow, if_neg hne, himage, Option.getD_none]
          exact ⟨⟨hc, hsame⟩, .inl rfl⟩
      | some e =>
          rw [himage, Option.getD_some] at h
          subst h
          exact lowerOf_image himage

theorem lowerOf_sigma (final : Bool) : LowerOf capitalSigma (if final then 'ς' else 'σ') := by
  cases final with
  | false => exact ⟨⟨by decide, by decide +kernel⟩, .inr (by decide +kernel)⟩
  | true => exact ⟨⟨by decide, by decide +kernel⟩, .inr (by decide +kernel)⟩

theorem exists_lowerFrom_cons (before : List Char) (c : Char) (cs : List Char) :
    ∃ ds, ds ≠ [] ∧ (∀ d ∈ ds, LowerOf c d) ∧
      lowerFrom before (c :: cs) = ds ++ lowerFrom (c :: before) cs := by
  by_cases hc : c = capitalSigma
  · subst hc
    refine ⟨[if meetsCased before && !meetsCased cs then 'ς' else 'σ'], List.cons_ne_nil _ _,
      fun d hd => ?_, ?_⟩
    · rw [List.mem_singleton.mp hd]
      exact lowerOf_sigma _
    · rw [lowerFrom, if_pos rfl]
  · refine ⟨lowerChar c, ?_, fun d => lowerOf_of_mem_lowerChar hc, ?_⟩
    · rw [lowerChar]
      split
      · exact List.cons_ne_nil _ _
      · split <;> exact List.cons_ne_nil _ _
    · rw [lowerFrom, if_neg hc]

theorem isSmall_of_mem_lowerFrom (h : d ∈ lowerFrom before cs) : IsSmall d := by
  induction cs generalizing before with
  | nil => cases h
  | cons c cs ih =>
      obtain ⟨ds, -, hds, heq⟩ := exists_lowerFrom_cons before c cs
      rw [heq] at h
      rcases List.mem_append.mp h with h | h
      · exact (hds d h).small
      · exact ih h

theorem lowerFrom_of_small (h : ∀ c ∈ cs, IsSmall c) : lowerFrom before cs = cs := by
  induction cs generalizing before with
  | nil => rfl
  | cons c cs ih =>
      have hc := h c List.mem_cons_self
      have hcs : lowerFrom (c :: before) cs = cs := ih fun d hd => h d (List.mem_cons_of_mem c hd)
      rw [lowerFrom, if_neg hc.ne_sigma, hc.lowerChar_eq, hcs]
      rfl

theorem head?_lowerFrom (before cs : List Char) :
    ∀ d ∈ (lowerFrom before cs).head?, ∃ c ∈ cs.head?, LowerOf c d := by
  cases cs with
  | nil => exact nofun
  | cons c cs =>
      obtain ⟨ds, hne, hds, heq⟩ := exists_lowerFrom_cons before c cs
      intro d hd
      cases ds with
      | nil => exact absurd rfl hne
      | cons e ds =>
          rw [heq] at hd
          cases hd
          exact ⟨c, rfl, hds d List.mem_cons_self⟩

theorem lowerFrom_eq_nil (h : lowerFrom before cs = []) : cs = [] := by
  cases cs with
  | nil => rfl
  | cons c cs =>
      obtain ⟨ds, hne, -, heq⟩ := exists_lowerFrom_cons before c cs
      rw [heq] at h
      exact absurd (List.append_eq_nil_iff.mp h).1 hne

theorem getLast?_lowerFrom (before cs : List Char) :
    ∀ d ∈ (lowerFrom before cs).getLast?, ∃ c ∈ cs.getLast?, LowerOf c d := by
  induction cs generalizing before with
  | nil => exact nofun
  | cons c cs ih =>
      obtain ⟨ds, hne, hds, heq⟩ := exists_lowerFrom_cons before c cs
      intro d hd
      cases cs with
      | nil =>
          rw [heq, lowerFrom, List.append_nil] at hd
          exact ⟨c, rfl, hds d (List.mem_of_getLast? hd)⟩
      | cons c' cs =>
          rw [heq, List.getLast?_append] at hd
          rw [List.getLast?_cons_cons]
          cases hend : (lowerFrom (c :: before) (c' :: cs)).getLast? with
          | none =>
              have hnil := lowerFrom_eq_nil (List.getLast?_eq_none_iff.mp hend)
              exact absurd hnil (List.cons_ne_nil c' cs)
          | some e =>
              rw [hend] at hd
              obtain rfl : e = d := Option.some.inj hd
              exact ih (c :: before) e hend

theorem LowerOf.isBlank_eq (h : LowerOf c d) (hc : isBlank c = false) : isBlank d = false := by
  rcases h.kept with rfl | ⟨-, hd⟩
  · exact hc
  · rw [isKept_iff, not_or, Bool.not_eq_true] at hd
    exact hd.1

theorem LowerOf.ne_dot (h : LowerOf c d) (hc : c ≠ '.') : d ≠ '.' := by
  rcases h.kept with rfl | ⟨-, hd⟩
  · exact hc
  · rw [isKept_iff, not_or] at hd
    exact hd.2

theorem Trimmed.lowerChars (h : Trimmed cs) : Trimmed (lowerChars cs) := by
  refine ⟨fun d hd => ?_, fun d hd => ?_⟩
  · obtain ⟨c, hc, hlower⟩ := head?_lowerFrom [] cs d hd
    exact hlower.isBlank_eq (h.head c hc)
  · obtain ⟨c, hc, hlower⟩ := getLast?_lowerFrom [] cs d hd
    exact hlower.isBlank_eq (h.last c hc)

end Lowered

end Lower

section Key

variable {cs : List Char} {s : String}

theorem trimmed_keyChars (cs : List Char) : Trimmed (keyChars cs) :=
  (trimmed_trimChars _).lowerChars

theorem isSmall_of_mem_keyChars {d : Char} (h : d ∈ keyChars cs) : IsSmall d :=
  isSmall_of_mem_lowerFrom h

theorem keyChars_of_no_dot (htrimmed : Trimmed cs) (hsmall : ∀ c ∈ cs, IsSmall c)
    (hdot : ∀ c ∈ cs.head?, c ≠ '.') : keyChars cs = cs := by
  rw [keyChars, trimChars_of_trimmed htrimmed, dropDot_of_head hdot, trimChars_of_trimmed htrimmed]
  exact lowerFrom_of_small hsmall

theorem length_keyChars_of_dot (htrimmed : Trimmed ('.' :: cs))
    (hsmall : ∀ c ∈ cs, IsSmall c) : (keyChars ('.' :: cs)).length ≤ cs.length := by
  obtain ⟨before, after, hcs, -, -⟩ := exists_trim cs
  have hkey : keyChars ('.' :: cs) = trimChars cs := by
    rw [keyChars, trimChars_of_trimmed htrimmed]
    refine lowerFrom_of_small fun c hc => hsmall c ?_
    rw [hcs]
    exact List.mem_append_left _ (List.mem_append_right _ hc)
  have hlength := congrArg List.length hcs
  rw [hkey, hlength]
  simp only [List.length_append]
  omega

/-- Up to white space the text begins with two dots. -/
def TwoDots (s : String) : Prop :=
  ∃ before between rest, s.toList = before ++ '.' :: (between ++ '.' :: rest) ∧
    Blanks before ∧ Blanks between

theorem isBlank_dot : isBlank '.' = false := by
  decide

theorem twoDots_of_head? (h : (keyChars s.toList).head? = some '.') : TwoDots s := by
  obtain ⟨c, hhead, hlower⟩ := head?_lowerFrom [] _ '.' h
  obtain rfl : c = '.' := Decidable.byContradiction fun hc => hlower.ne_dot hc rfl
  obtain ⟨before, after, hs, hbefore, -⟩ := exists_trim s.toList
  have htrimmed := trimmed_trimChars s.toList
  cases hchars : trimChars s.toList with
  | nil =>
      rw [hchars] at hhead
      cases hhead
  | cons c cs =>
      rw [hchars] at hs hhead htrimmed
      by_cases hc : c = '.'
      · subst hc
        -- The first dot is dropped, so the second one leads what is left after it.
        obtain ⟨between, after', hcs, hbetween, -⟩ := exists_trim cs
        obtain ⟨rest, hrest⟩ : ∃ rest, trimChars cs = '.' :: rest :=
          List.head?_eq_some_iff.mp hhead
        refine ⟨before, between, rest ++ after' ++ after, ?_, hbefore, hbetween⟩
        rw [hs, hcs, hrest]
        simp
      · have hdrop : dropDot (c :: cs) = c :: cs := dropDot_of_head fun d hd => by
          cases hd
          exact hc
        rw [hdrop, trimChars_of_trimmed htrimmed] at hhead
        exact absurd (Option.some.inj hhead) hc

theorem head?_of_twoDots (h : TwoDots s) : (keyChars s.toList).head? = some '.' := by
  obtain ⟨before, between, rest, hs, hbefore, hbetween⟩ := h
  have hfirst : trimChars s.toList = '.' :: (between ++ '.' :: trimEnd rest) := by
    rw [hs, trimChars_blanks_append hbefore, trimChars_cons isBlank_dot,
      trimEnd_append_cons isBlank_dot]
  have hdrop : dropDot (trimChars s.toList) = between ++ '.' :: trimEnd rest := by
    rw [hfirst]
    rfl
  rw [keyChars, hdrop, trimChars_blanks_append hbetween, trimChars_cons isBlank_dot]
  rfl

theorem toList_normalizeKey (s : String) : (normalizeKey s).toList = keyChars s.toList :=
  String.toList_ofList

theorem normalizeKey_normalizeKey (h : ¬ TwoDots s) :
    normalizeKey (normalizeKey s) = normalizeKey s := by
  have hagain : keyChars (keyChars s.toList) = keyChars s.toList := by
    refine keyChars_of_no_dot (trimmed_keyChars _) (fun c => isSmall_of_mem_keyChars) ?_
    rintro c hc rfl
    exact h (twoDots_of_head? hc)
  rw [normalizeKey, toList_normalizeKey, hagain]
  rfl

theorem length_normalizeKey_lt (h : TwoDots s) :
    (normalizeKey (normalizeKey s)).toList.length < (normalizeKey s).toList.length := by
  have htrimmed := trimmed_keyChars s.toList
  have hsmall : ∀ c ∈ keyChars s.toList, IsSmall c := fun c => isSmall_of_mem_keyChars
  obtain ⟨cs, hcs⟩ := List.head?_eq_some_iff.mp (head?_of_twoDots h)
  rw [toList_normalizeKey (normalizeKey s), toList_normalizeKey, hcs]
  rw [hcs] at htrimmed hsmall
  exact Nat.lt_succ_of_le
    (length_keyChars_of_dot htrimmed fun c hc => hsmall c (List.mem_cons_of_mem _ hc))

theorem normalizeKey_normalizeKey_iff (s : String) :
    normalizeKey (normalizeKey s) = normalizeKey s ↔ ¬ TwoDots s := by
  refine ⟨fun h hdots => ?_, normalizeKey_normalizeKey⟩
  have hlt := length_normalizeKey_lt hdots
  rw [h] at hlt
  exact Nat.lt_irrefl _ hlt

end Key

end NameScout.Text
