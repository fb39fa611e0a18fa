import Mathlib.Algebra.Group.Nat.Defs
import NameScout.Proofs.Decimal.Digits
import NameScout.Proofs.Time.Calendar
import NameScout.Time.Stamp

namespace NameScout.Instant

open Decimal

theorem digitsValue_zeros (k : Nat) (cs : List Char) :
    digitsValue (List.replicate k '0' ++ cs) = digitsValue cs := by
  induction k with
  | zero => rfl
  | succ k ih =>
      rw [List.replicate_succ, List.cons_append]
      exact ih

theorem digitsValue_padded (width n : Nat) : digitsValue (padded width n) = n := by
  rw [padded, digitsValue_zeros, digitsValue_toDigits]

theorem allDigits_padded (width n : Nat) : AllDigits (padded width n) := by
  intro c hc
  rw [padded, List.mem_append, List.mem_replicate] at hc
  rcases hc with ⟨-, rfl⟩ | hc
  · rfl
  · exact allDigits_toDigits n c hc

theorem length_padded {width n : Nat} (hwidth : 0 < width) (hn : n < 10 ^ width) :
    (padded width n).length = width := by
  have hdigits := (Nat.length_toDigits_le_iff (by decide) hwidth).mpr hn
  rw [padded, List.length_append, List.length_replicate]
  omega

theorem padded_ne_nil (width n : Nat) : padded width n ≠ [] := by
  rw [padded]
  simp [Nat.toDigits_ne_nil]

theorem exists_cons_padded (width n : Nat) :
    ∃ c cs, padded width n = c :: cs ∧ (digitValue? c).isSome = true := by
  obtain ⟨c, cs, hcs⟩ := List.exists_cons_of_ne_nil (padded_ne_nil width n)
  exact ⟨c, cs, hcs, allDigits_padded width n c (hcs ▸ List.mem_cons_self)⟩

theorem isBlank_of_isSome_digitValue? {c : Char} (h : (digitValue? c).isSome = true) :
    Text.isBlank c = false := by
  rw [digitValue?] at h
  split at h
  · rename_i hc
    have hlow : 48 ≤ c.toNat := hc.1
    have hhigh : c.toNat ≤ 57 := hc.2
    simp only [Text.isBlank, Bool.or_eq_false_iff, Bool.and_eq_false_iff, decide_eq_false_iff_not,
      beq_eq_false_iff_ne]
    omega
  · cases h

theorem trimStart_digits {ds : List Char} (hds : AllDigits ds) (hne : ds ≠ []) (rest : List Char) :
    Text.trimStart (ds ++ rest) = ds ++ rest := by
  obtain ⟨c, cs, rfl⟩ := List.exists_cons_of_ne_nil hne
  have hc := isBlank_of_isSome_digitValue? (hds c List.mem_cons_self)
  rw [Text.trimStart, List.cons_append, List.dropWhile_cons_of_neg (by simp [hc])]

theorem readUpTo_append {most : Nat} {ds rest : List Char} (hds : AllDigits ds) (hne : ds ≠ [])
    (hlen : ds.length ≤ most)
    (hrest : ds.length = most ∨ ∀ c ∈ rest.head?, digitValue? c = none) :
    readUpTo most (ds ++ rest) = some (digitsValue ds, rest) := by
  have hend : ∀ c ∈ (rest.take (most - ds.length)).head?, digitValue? c = none := by
    intro c hc
    rcases hrest with hfull | hrest
    · rw [hfull, Nat.sub_self] at hc
      cases hc
    · rw [List.head?_take] at hc
      split at hc
      · cases hc
      · exact hrest c hc
  have htake : ((ds ++ rest).take most).takeWhile (digitValue? · |>.isSome) = ds := by
    rw [List.take_append, List.take_of_length_le hlen, takeWhile_digits hds hend]
  rw [readUpTo, htake]
  obtain ⟨c, cs, rfl⟩ := List.exists_cons_of_ne_nil hne
  simp

theorem readTwo_padded {n : Nat} (hn : n < 100) (rest : List Char) :
    readTwo (padded 2 n ++ rest) = some (n, rest) := by
  have hlen : (padded 2 n).length = 2 := length_padded (by decide) hn
  rw [readTwo, trimStart_digits (allDigits_padded 2 n) (padded_ne_nil 2 n),
    readUpTo_append (allDigits_padded 2 n) (padded_ne_nil 2 n) (by omega) (.inl hlen),
    digitsValue_padded]

theorem readMark_cons {mark : Char} (cs : List Char) (h : Text.isBlank mark = false) :
    readMark mark (mark :: cs) = some cs := by
  rw [readMark, Text.trimStart, List.dropWhile_cons_of_neg (by simp [h])]
  exact if_pos rfl

theorem readYear_yearChars (year : Int) (rest : List Char) :
    readYear (yearChars year ++ '-' :: rest) = some (year, '-' :: rest) := by
  have hminus : ∀ c ∈ ('-' :: rest).head?, digitValue? c = none := by
    intro c hc
    cases hc
    rfl
  have hsigned : readUpTo (padded 4 year.natAbs ++ '-' :: rest).length
      (padded 4 year.natAbs ++ '-' :: rest) = some (year.natAbs, '-' :: rest) := by
    rw [readUpTo_append (allDigits_padded 4 _) (padded_ne_nil 4 _) (by simp) (.inr hminus),
      digitsValue_padded]
  by_cases hplain : 0 ≤ year ∧ year ≤ 9999
  · have hlen : (padded 4 year.toNat).length = 4 := length_padded (by decide) (by omega)
    have hread : readUpTo 4 (padded 4 year.toNat ++ '-' :: rest) =
        some (year.toNat, '-' :: rest) := by
      rw [readUpTo_append (allDigits_padded 4 _) (padded_ne_nil 4 _) (by omega) (.inl hlen),
        digitsValue_padded]
    obtain ⟨c, cs, hcs, hc⟩ := exists_cons_padded 4 year.toNat
    rw [yearChars, if_pos hplain, readYear,
      trimStart_digits (allDigits_padded 4 _) (padded_ne_nil 4 _)]
    rw [hcs, List.cons_append] at hread ⊢
    split
    · rename_i heq
      exact absurd (List.cons.inj heq).1 (ne_of_isSome_digitValue? hc (by decide))
    · rename_i heq
      exact absurd (List.cons.inj heq).1 (ne_of_isSome_digitValue? hc (by decide))
    · simp only [hread, Option.map_some, Int.toNat_of_nonneg hplain.1]
  · by_cases hneg : year < 0
    · have htrim : Text.trimStart ('-' :: (padded 4 year.natAbs ++ '-' :: rest)) =
          '-' :: (padded 4 year.natAbs ++ '-' :: rest) := rfl
      rw [yearChars, if_neg hplain, if_pos hneg, readYear, List.cons_append, htrim]
      simp only [hsigned, Option.map_some]
      congr 2
      omega
    · have htrim : Text.trimStart ('+' :: (padded 4 year.natAbs ++ '-' :: rest)) =
          '+' :: (padded 4 year.natAbs ++ '-' :: rest) := rfl
      rw [yearChars, if_neg hplain, if_neg hneg, readYear, List.cons_append, htrim]
      simp only [hsigned, Option.map_some]
      congr 2
      omega

theorem readFraction_padded {width n : Nat} (hwidth : 0 < width) (hmost : width ≤ 9)
    (hn : n < 10 ^ width) :
    readFraction ('.' :: (padded width n ++ ['Z'])) = some (n * 10 ^ (9 - width), ['Z']) := by
  have hend : ∀ c ∈ ['Z'].head?, digitValue? c = none := by
    intro c hc
    cases hc
    rfl
  have hlen := length_padded hwidth hn
  have hread := readUpTo_append (allDigits_padded width n) (padded_ne_nil width n)
    (by omega : (padded width n).length ≤ 9) (.inr hend)
  rw [readFraction, hread, Option.map_some, digitsValue_padded, List.length_append, hlen]
  simp only [Nat.add_sub_cancel]
  rfl

theorem readFraction_fractionChars {nano : Nat} (h : nano < 1000000000) :
    readFraction (fractionChars nano ++ ['Z']) = some (nano, ['Z']) := by
  rw [fractionChars]
  split
  · rename_i hzero
    rw [hzero]
    rfl
  split
  · rw [List.cons_append, readFraction_padded (by decide) (by decide) (by omega)]
    congr 2
    omega
  split
  · rw [List.cons_append, readFraction_padded (by decide) (by decide) (by omega)]
    congr 2
    omega
  · rw [List.cons_append, readFraction_padded (by decide) (by decide) (by omega), Nat.sub_self,
      Nat.pow_zero, Nat.mul_one]

theorem ofClock?_clock (t : Instant) :
    ofClock? (Date.ofDays (t.second / 86400)) (t.secondOfDay.toNat / 3600)
      (t.secondOfDay.toNat / 60 % 60)
      (t.secondOfDay.toNat % 60 + if t.inLeapSecond then 1 else 0) (t.nano % 1000000000) 0 =
        some t := by
  have hnano := t.nano_lt
  have hplace := t.leap_place
  have hclock : (t.secondOfDay.toNat : Int) = t.second % 86400 :=
    Int.toNat_of_nonneg (Int.emod_nonneg _ (by decide))
  by_cases hleap : t.inLeapSecond = true
  · have hover : 1000000000 ≤ t.nano := of_decide_eq_true hleap
    have hsixty : t.secondOfDay.toNat % 60 + 1 = 60 := by omega
    rw [ofClock?, if_pos hleap, hsixty, if_neg (by omega), if_pos rfl, Date.toDays_ofDays]
    refine Eq.trans ?_ (of?_self t)
    dsimp only
    congr 1 <;> omega
  · have hunder : t.nano < 1000000000 := Nat.lt_of_not_le fun h => hleap (decide_eq_true h)
    rw [ofClock?, if_neg hleap, Nat.add_zero, if_neg (by omega), if_neg (by omega),
      Date.toDays_ofDays, Nat.mod_eq_of_lt hunder]
    refine Eq.trans ?_ (of?_self t)
    dsimp only
    congr 1
    omega

theorem ofStamp?_stamp (t : Instant) : ofStamp? t.stamp = some t := by
  have hfirst := t.first_le
  have hlast := t.le_last
  have hdate := Date.of?_ofDays (t.second / 86400) (by omega) (by omega)
  obtain ⟨-, -, -, hmonth, -, hday⟩ := Date.bounds_of_of? hdate
  have hclock : t.secondOfDay.toNat < 86400 := by
    unfold secondOfDay
    omega
  have hsecond : t.secondOfDay.toNat % 60 + (if t.inLeapSecond then 1 else 0) < 100 := by
    split <;> omega
  have hlength := Date.monthLength_le (Date.ofDays (t.second / 86400)).year
    (Date.ofDays (t.second / 86400)).month
  have hfraction := readFraction_fractionChars (Nat.mod_lt t.nano (by decide : 0 < 1000000000))
  have htext : t.stampChars = yearChars (Date.ofDays (t.second / 86400)).year ++
      '-' :: (padded 2 (Date.ofDays (t.second / 86400)).month ++
      '-' :: (padded 2 (Date.ofDays (t.second / 86400)).day ++
      'T' :: (padded 2 (t.secondOfDay.toNat / 3600) ++
      ':' :: (padded 2 (t.secondOfDay.toNat / 60 % 60) ++
      ':' :: (padded 2 (t.secondOfDay.toNat % 60 + if t.inLeapSecond then 1 else 0) ++
      (fractionChars (t.nano % 1000000000) ++ ['Z'])))))) := by
    simp only [stampChars, List.append_assoc, List.cons_append]
  have hdash : Text.isBlank '-' = false := by decide
  have hcolon : Text.isBlank ':' = false := by decide
  rw [stamp, ofStamp?, String.toList_ofList, htext]
  refine Option.bind_eq_some_iff.mpr ⟨_, readYear_yearChars _ _, ?_⟩
  refine Option.bind_eq_some_iff.mpr ⟨_, readMark_cons _ hdash, ?_⟩
  refine Option.bind_eq_some_iff.mpr ⟨_, readTwo_padded (by omega) _, ?_⟩
  refine Option.bind_eq_some_iff.mpr ⟨_, readMark_cons _ hdash, ?_⟩
  refine Option.bind_eq_some_iff.mpr ⟨_, readTwo_padded (by omega) _, ?_⟩
  refine Option.bind_eq_some_iff.mpr ⟨_, rfl, ?_⟩
  refine Option.bind_eq_some_iff.mpr ⟨_, readTwo_padded (by omega) _, ?_⟩
  refine Option.bind_eq_some_iff.mpr ⟨_, readMark_cons _ hcolon, ?_⟩
  refine Option.bind_eq_some_iff.mpr ⟨_, readTwo_padded (by omega) _, ?_⟩
  refine Option.bind_eq_some_iff.mpr ⟨_, readMark_cons _ hcolon, ?_⟩
  refine Option.bind_eq_some_iff.mpr ⟨_, readTwo_padded hsecond _, ?_⟩
  refine Option.bind_eq_some_iff.mpr ⟨_, hfraction, ?_⟩
  refine Option.bind_eq_some_iff.mpr ⟨_, rfl, ?_⟩
  exact Option.bind_eq_some_iff.mpr ⟨_, hdate, ofClock?_clock t⟩

end NameScout.Instant
